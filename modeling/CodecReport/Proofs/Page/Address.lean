import CodecReport.Proofs.Page.Query
import CodecReport.Proofs.Page.Wording

/-!
# The address in the form

The address that a query carries is encoded in it, and is escaped where it stands in a page. Read back from the form
of a page it is the address again, whatever characters it has and whatever else the query says. A query that says
nothing of an address leaves the form empty.
-/

namespace CodecReport

open Text

/-! ### The address of a query -/

namespace Query

/-- A query of these parameters, with a question mark in front of them or without. -/
def IsQueryOf (parameters : List (List Char)) (query : String) : Prop :=
  (∀ parameter ∈ parameters, '&' ∉ parameter) ∧
    (query = "?" ++ String.ofList (joinWith '&' parameters) ∨
      query = String.ofList (joinWith '&' parameters) ∧ (joinWith '&' parameters).head? ≠ some '?')

/-- The parameter that gives an address. -/
def addressParameter (address : String) : List Char :=
  "email=".toList ++ quotePlus address.toList

variable {parameters : List (List Char)} {query : String}

theorem body_of_isQueryOf (h : IsQueryOf parameters query) : body query = joinWith '&' parameters := by
  obtain ⟨_, rfl | ⟨rfl, hhead⟩⟩ := h
  · have hchars : ("?" ++ String.ofList (joinWith '&' parameters)).toList = '?' :: joinWith '&' parameters := by
      simp only [String.toList_append, String.toList_ofList]
      rfl
    rw [body, hchars]
    rfl
  · rw [body, String.toList_ofList]
    split
    next rest hrest => exact absurd (congrArg List.head? hrest) hhead
    next => rfl

/-- Every query is one of parameters, those between its marks. -/
theorem isQueryOf_splitAt (query : String) : IsQueryOf (splitAt '&' (body query)) query := by
  refine ⟨fun _ hparameter => not_mem_of_mem_splitAt hparameter, ?_⟩
  rw [joinWith_splitAt, body]
  split
  next rest hchars =>
    refine .inl (String.toList_inj.mp ?_)
    simp only [hchars, String.toList_append, String.toList_ofList]
    rfl
  next hother =>
    refine .inr ⟨String.ofList_toList.symm, fun hhead => ?_⟩
    obtain ⟨rest, hrest⟩ := List.head?_eq_some_iff.mp hhead
    exact hother rest hrest

theorem tells_of_isQueryOf (h : IsQueryOf parameters query) (hsome : joinWith '&' parameters ≠ []) :
    Tells (parse query) (parameters.map readPart) := by
  have hne : parameters ≠ [] := by
    rintro rfl
    exact hsome rfl
  have hparse : parse query = group (parameters.map readPart) := by
    rw [parse, body_of_isQueryOf h]
    split
    next hempty => exact absurd hempty hsome
    next => rw [splitAt_joinWith h.1 hne]
  rw [hparse]
  exact tells_group _

theorem find?_eq_none_of_keys (hkeys : ∀ parameter ∈ parameters, (readPart parameter).1 ≠ "email") :
    (parameters.map readPart).find? (·.1 = "email") = none := by
  rw [List.find?_eq_none]
  intro pair hpair
  obtain ⟨parameter, hparameter, rfl⟩ := List.mem_map.mp hpair
  simpa using hkeys parameter hparameter

theorem readPart_addressParameter (address : String) :
    readPart (addressParameter address) = ("email", some address) := by
  have hwritten : addressParameter address = writePair ("email", some address) := by
    have hkey : quotePlus "email".toList = "email".toList := by decide
    rw [addressParameter, writePair, hkey]
    simp
  rw [hwritten, readPart_writePair]

/-- The first parameter with the key of an address gives the address. -/
theorem email?_of_isQueryOf {address : String} {before after : List (List Char)}
    (h : IsQueryOf (before ++ addressParameter address :: after) query)
    (hbefore : ∀ parameter ∈ before, (readPart parameter).1 ≠ "email") : email? query = some address := by
  have hsome : joinWith '&' (before ++ addressParameter address :: after) ≠ [] := by
    have hmem : 'e' ∈ joinWith '&' (before ++ addressParameter address :: after) :=
      mem_joinWith_of_mem (List.mem_append_right _ List.mem_cons_self)
        (List.mem_append_left _ (by decide))
    exact List.ne_nil_of_mem hmem
  rw [email?_of_tells (tells_of_isQueryOf h hsome), List.map_append, List.find?_append, find?_eq_none_of_keys hbefore,
    List.map_cons, readPart_addressParameter]
  rfl

theorem email?_of_keys (h : IsQueryOf parameters query)
    (hkeys : ∀ parameter ∈ parameters, (readPart parameter).1 ≠ "email") : email? query = none := by
  by_cases hnone : joinWith '&' parameters = []
  · rw [email?, parse, body_of_isQueryOf h, hnone]
    rfl
  · rw [email?_of_tells (tells_of_isQueryOf h hnone), find?_eq_none_of_keys hkeys]
    rfl

end Query

/-! ### The field of the form -/

namespace Markup

def Token.attributes? (name : String) : Token → Option (List (String × String))
  | .opening found attributes => if found = name then some attributes else none
  | _ => none

/-- The attributes of all tags of a name, as they are written. -/
def attributesOf (name : String) (page : List Token) : List (List (String × String)) :=
  page.filterMap (Token.attributes? name)

def Piece.attributes? (name : Name) : Piece → Option (List (Name × String))
  | .opening found attributes => if found = name then some attributes else none
  | _ => none

/-- The attributes that pieces give to the tags of a name. -/
def givenTo (name : Name) (pieces : List Piece) : List (List (Name × String)) :=
  pieces.filterMap (Piece.attributes? name)

variable {name : Name} {pieces more : List Piece}

@[simp] theorem givenTo_nil (name : Name) : givenTo name [] = [] := rfl

theorem givenTo_append (name : Name) (pieces more : List Piece) :
    givenTo name (pieces ++ more) = givenTo name pieces ++ givenTo name more :=
  List.filterMap_append

theorem givenTo_element (name outer : Name) (attributes : List (Name × String)) (inside : List Piece) :
    givenTo name (element outer attributes inside) =
      (if outer = name then [attributes] else []) ++ givenTo name inside := by
  have hclosing : givenTo name [.closing outer] = [] := rfl
  rw [element, givenTo_append, hclosing, List.append_nil, givenTo, List.filterMap_cons, Piece.attributes?]
  split <;> simp_all [givenTo]

theorem givenTo_of_not_mem (hname : name ∉ words pieces) : givenTo name pieces = [] := by
  refine List.filterMap_eq_nil_iff.mpr fun piece hpiece => ?_
  cases piece with
  | opening found attributes =>
    refine if_neg ?_
    rintro rfl
    exact hname (List.mem_flatMap.mpr ⟨_, hpiece, List.mem_cons_self⟩)
  | _ => rfl

theorem attributesOf_chars (name : String) (cs : List Char) : attributesOf name (cs.map .char) = [] := by
  rw [attributesOf, List.filterMap_map, List.filterMap_eq_nil_iff]
  exact fun _ _ => rfl

/-- Attributes as they are written. -/
def written (attributes : List (Name × String)) : List (String × String) :=
  attributes.map fun (key, value) => (key.text, Text.escape value)

theorem written_append (attributes more : List (Name × String)) :
    written (attributes ++ more) = written attributes ++ written more :=
  List.map_append

theorem attributesOf_piece (name : Name) (piece : Piece) :
    attributesOf name.text piece.tokens = (piece.attributes? name).toList.map written := by
  cases piece with
  | text s => exact attributesOf_chars ..
  | verbatim s hplain => exact attributesOf_chars ..
  | doctype | figure | closing => rfl
  | opening found attributes =>
    rw [Piece.attributes?]
    by_cases hfound : found = name
    · rw [if_pos hfound]
      exact List.filterMap_cons_some (if_pos (congrArg Name.text hfound))
    · rw [if_neg hfound]
      exact List.filterMap_cons_none (if_neg fun htext => hfound (Name.text_inj htext))

/-- The attributes of a tag are read as they were given, in their written form. -/
theorem attributesOf_tokens (name : Name) (pieces : List Piece) :
    attributesOf name.text (tokens pieces) = (givenTo name pieces).map written := by
  induction pieces with
  | nil => rfl
  | cons piece rest ih =>
    have hsplit : attributesOf name.text (tokens (piece :: rest)) =
        attributesOf name.text piece.tokens ++ attributesOf name.text (tokens rest) := by
      rw [tokens_cons, attributesOf, List.filterMap_append]
      rfl
    rw [hsplit, attributesOf_piece, ih, givenTo, givenTo, List.filterMap_cons]
    cases piece.attributes? name <;> rfl

end Markup

namespace Page

open Markup

/-- The text of the query that a page is configured with, empty where it counts as not given. -/
def queryText (page : Value) : Except Fault String := do
  let query ← page.entryD "query" (.text "")
  if query.truthy then query.told else .ok ""

theorem prefill_eq (page : Value) : prefill page = Query.email? <$> queryText page := by
  rw [prefill, queryText]
  cases page.entryD "query" (.text "") with
  | error fault => rfl
  | ok query =>
    simp only [bind, Except.bind]
    cases query.truthy with
    | false => rfl
    | true => cases query.told <;> rfl

/-- The attributes of the field of a form, its value left out. -/
def fieldAttributes : List (Name × String) :=
  [(.inputType, "email"), (.id, "announce-email"), (.inputName, "email")]

theorem written_fieldAttributes :
    written fieldAttributes = [("type", "email"), ("id", "announce-email"), ("name", "email")] := by
  have hfield : Text.escape "email" = "email" := Text.escape_ofList (by decide)
  have hid : Text.escape "announce-email" = "announce-email" := Text.escape_ofList (by decide)
  simp [written, fieldAttributes, hfield, hid]

theorem givenTo_formPieces (address : Option String) :
    givenTo .input (formPieces address) = [fieldAttributes ++ prefillEntry address] := by
  rw [formPieces, givenTo_element, givenTo_append, givenTo_element]
  rfl

theorem givenTo_libraryPieces (mode : String) : givenTo .input (libraryPieces mode) = [] :=
  givenTo_of_not_mem ((speaks_libraryPieces mode).not_mem (by decide))

/-- The fields of a page are those of the parts of its body. -/
theorem givenTo_documentPieces (title mode : String) (parts : List (List Piece)) :
    givenTo .input (documentPieces title parts mode) = parts.flatMap (givenTo .input) := by
  have hfeed (rest : List Piece) : givenTo .input (lineFeed :: rest) = givenTo .input rest := rfl
  have hdoctype (rest : List Piece) : givenTo .input (.doctype :: rest) = givenTo .input rest := rfl
  have hmeta (rest : List Piece) :
      givenTo .input (.opening .metaData [(.charset, "utf-8")] :: rest) = givenTo .input rest := rfl
  have htext (text : String) : givenTo .input [.text text] = [] := rfl
  have hverbatim {text : String} (hplain : '<' ∉ text.toList) : givenTo .input [.verbatim text hplain] = [] := rfl
  rw [← read_intercalate rfl rfl (givenTo_append .input)]
  simp [documentPieces, framePieces, givenTo_append, givenTo_element, hfeed, hdoctype, hmeta, htext, hverbatim,
    givenTo_libraryPieces]

section Whole

variable {book : Workbook} {config page : Value}

theorem givenTo_pieces (hsheets : ∀ entry ∈ book, entry.2.dataset.results = .ok entry.2.table) (setup : Setup) :
    givenTo .input (setup.pieces book) = [fieldAttributes ++ prefillEntry setup.address] := by
  have hheading := givenTo_of_not_mem ((speaks_headingPieces setup.title).not_mem (by decide : Name.input ∉ _))
  have hnavigation := givenTo_of_not_mem ((speaks_navigationPieces book).not_mem (by decide : Name.input ∉ _))
  have hresults : givenTo .input (resultsPieces (setup.resultPieces book)) = [] :=
    givenTo_of_not_mem ((speaks_results hsheets).not_mem (by decide))
  rw [Setup.pieces, givenTo_documentPieces]
  split <;> simp [hheading, givenTo_formPieces, hnavigation, hresults]

theorem givenTo_errorPieces (title : String) (address : Option String) (mode message : String) :
    givenTo .input (errorPieces title address mode message) = [fieldAttributes ++ prefillEntry address] := by
  have hheading := givenTo_of_not_mem ((speaks_headingPieces title).not_mem (by decide : Name.input ∉ _))
  have hfailure := speaks_resultsPieces (speaks_failurePieces ("Unable to load benchmark results: " ++ message))
  have hresults := givenTo_of_not_mem (hfailure.not_mem (by decide : Name.input ∉ _))
  rw [errorPieces, givenTo_documentPieces]
  simp [hheading, givenTo_formPieces, hresults]

/-- The pages that a configuration makes, that of a workbook and those of failures, have one field each, and it has
these attributes. -/
structure HasField (book : Workbook) (config : Value) (attributes : List (String × String)) : Prop where
  results : ∀ onPanel session html, (Act.runOn session (ofWorkbook book config onPanel)).1 = .ok html →
    ∃ setup, SetBy book config setup ∧ html = Markup.html (setup.pieces book) ∧
      attributesOf "input" (scan (Markup.html (besideFigures (setup.pieces book)))) = [attributes]
  failure : ∀ message html, ofFailure message config = .ok html → attributesOf "input" (scan html) = [attributes]

theorem hasField {document : Document} (hnames : (Entries.keys document).Nodup)
    (hbook : Workbook.ofDocument document = .ok book) (hpage : settings config = .ok page) {address : Option String}
    (haddress : prefill page = .ok address) :
    HasField book config (written (fieldAttributes ++ prefillEntry address)) where
  results := by
    intro onPanel session html hok
    obtain ⟨setup, hset, hhtml⟩ := pieces_of_ofWorkbook (.of_document hnames hbook) hok
    have hsheets := (Workbook.results_of_isSheetOf (Workbook.forall₂_isSheetOf hbook)).2
    obtain ⟨found, _, hfound, _, hprefill, _⟩ := id hset
    obtain rfl := Except.ok.inj (hpage.symm.trans hfound)
    obtain rfl := Except.ok.inj (haddress.symm.trans hprefill)
    refine ⟨setup, hset, hhtml, ?_⟩
    rw [scan_besideFigures, show "input" = Name.input.text from rfl, attributesOf_tokens, givenTo_pieces hsheets]
    rfl
  failure := by
    intro message html hok
    obtain ⟨found, title, given, mode, hfound, _, hprefill, _, rfl⟩ := ofFailure_eq_ok hok
    obtain rfl := Except.ok.inj (hpage.symm.trans hfound)
    obtain rfl := Except.ok.inj (haddress.symm.trans hprefill)
    rw [scan_errorPieces, show "input" = Name.input.text from rfl, attributesOf_tokens, givenTo_errorPieces]
    rfl

theorem exists_ofFailure {setup : Setup} (h : SetBy book config setup) (message : String) :
    ∃ html, ofFailure message config = .ok html := by
  obtain ⟨page, _, hpage, htitle, haddress, hmode, _⟩ := h
  rw [ofFailure, hpage]
  exact ⟨_, bind_eq_ok_iff.mpr ⟨_, rfl, bind_eq_ok_iff.mpr ⟨_, htitle, bind_eq_ok_iff.mpr ⟨_, haddress,
    bind_eq_ok_iff.mpr ⟨_, hmode, rfl⟩⟩⟩⟩⟩

/-- Whatever characters an address has, and whatever parameters the configured query has around that of the address, of
other keys if they stand before it: the form of every page has one field, and the value of the field is the address.
A query is always one of parameters, and where none of them has this key the field has no value. -/
theorem form_tells_address {document : Document} (hnames : (Entries.keys document).Nodup)
    (hbook : Workbook.ofDocument document = .ok book) (hpage : settings config = .ok page) {query : String}
    (hquery : queryText page = .ok query) :
    let field := [("type", "email"), ("id", "announce-email"), ("name", "email")]
    (∀ setup session, SetBy book config setup →
      (∃ html, (Act.runOn session (ofWorkbook book config fun _ _ => pure ())).1 = .ok html) ∧
        ∀ message, ∃ html, ofFailure message config = .ok html) ∧
    (∀ address before after, address ≠ "" →
      Query.IsQueryOf (before ++ Query.addressParameter address :: after) query →
      (∀ parameter ∈ before, (Query.readPart parameter).1 ≠ "email") →
        ∃ raw, (∀ c ∈ raw.toList, c ∉ ['<', '>', '"', '\'']) ∧ RefersOnly raw ∧ Text.unescape raw = address ∧
          HasField book config (field ++ [("value", raw)])) ∧
    (∃ parameters, Query.IsQueryOf parameters query) ∧
    ∀ parameters, Query.IsQueryOf parameters query →
      (∀ parameter ∈ parameters, (Query.readPart parameter).1 ≠ "email") → HasField book config field := by
  intro field
  have hprefill : prefill page = .ok (Query.email? query) := by
    rw [prefill_eq, hquery]
    rfl
  have hfield := hasField hnames hbook hpage hprefill
  rw [written_append, written_fieldAttributes] at hfield
  refine ⟨fun setup session hset => ⟨exists_ofWorkbook hset session, exists_ofFailure hset⟩, ?_,
    ⟨_, Query.isQueryOf_splitAt query⟩, ?_⟩
  · intro address before after hsome hparameters hbefore
    refine ⟨Text.escape address, fun _ => plain_of_mem_escape, refersOnly_escape address,
      unescape_escape address, ?_⟩
    rwa [Query.email?_of_isQueryOf hparameters hbefore, prefillEntry, if_neg hsome] at hfield
  · intro parameters hparameters hkeys
    rwa [Query.email?_of_keys hparameters hkeys, prefillEntry, written, List.map_nil, List.append_nil] at hfield

/-- An address with signs of queries and of markup in it, between a parameter of another key and one more address. -/
def markedQuery : String :=
  "?ref=a%26b&email=%3Cx%2By%40z%3E+%22%27%26amp%3B%25&email=other"

theorem form_tells_address_markedQuery :
    let config := Value.map [("page", .map [("query", .text markedQuery)])]
    ∃ book raw, Workbook.ofDocument markedUp = .ok book ∧
      (∃ html, (Act.runOn { disk := { home := [] } } (ofWorkbook book config fun _ _ => pure ())).1 = .ok html) ∧
      (∀ c ∈ raw.toList, c ∉ ['<', '>', '"', '\'']) ∧ RefersOnly raw ∧
        Text.unescape raw = "<x+y@z> \"'&amp;%" ∧
        HasField book config [("type", "email"), ("id", "announce-email"), ("name", "email"), ("value", raw)] := by
  intro config
  obtain ⟨book, hbook⟩ : ∃ book, Workbook.ofDocument markedUp = .ok book :=
    exists_ok_of_isOk (by decide +kernel)
  have hpage : settings config = .ok (.map [("query", .text markedQuery)]) := rfl
  obtain ⟨hmade, htold, _⟩ := form_tells_address (by decide) hbook hpage rfl
  have haddress : Query.email? markedQuery = some "<x+y@z> \"'&amp;%" := by decide +kernel
  have hset : SetBy book config ⟨defaultTitle, some "<x+y@z> \"'&amp;%", "cdn",
      { book, width := Board.defaultWidth, aspect := Board.defaultAspect }, []⟩ :=
    ⟨.map [("query", .text markedQuery)], [], rfl, rfl, congrArg Except.ok haddress, rfl, rfl, rfl, fun _ => rfl⟩
  have hparameters : Query.IsQueryOf (["ref=a%26b".toList] ++ Query.addressParameter "<x+y@z> \"'&amp;%" ::
      ["email=other".toList]) markedQuery :=
    ⟨by decide +kernel, .inl (by decide +kernel)⟩
  obtain ⟨raw, hplain, honly, hraw, hhas⟩ := htold _ _ _ (by decide) hparameters (by decide +kernel)
  exact ⟨book, raw, hbook, (hmade _ { disk := { home := [] } } hset).1, hplain, honly, hraw, hhas⟩

end Whole

end Page

end CodecReport
