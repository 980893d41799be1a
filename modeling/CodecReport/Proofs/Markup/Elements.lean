import CodecReport.Proofs.Markup.Pieces
import Mathlib.Data.List.Forall2

/-!
# Elements by name

What a reader finds under the name of an element: every tag of that name with all that stands up to the tag
that closes it. In a page made of pieces these are the elements that the pieces write, found part by part: a
part that has no tag of the name adds nothing, and an element that is not inside of another one of its name
adds itself. The names of the tags alone, in their order, are the shape of a page.
-/

namespace CodecReport.Markup

/-! ### Reading -/

/-- An element as it is read: the tag that opens it, and what is inside of it. -/
structure Element where
  tag : Tag
  content : List Token

/-- The elements of a name, each up to the first tag that closes one of that name. -/
def elements (name : String) : List Token → List Element
  | [] => []
  | token :: rest =>
    match token with
    | .opening found attributes =>
      if found = name then
        ⟨⟨found, fun key => (attributes.lookup key).map Text.unescape⟩,
          rest.takeWhile (· != .closing name)⟩ :: elements name rest
      else elements name rest
    | _ => elements name rest

def Token.char? : Token → Option Char
  | .char c => some c
  | _ => none

/-- The text inside of an element, its tags left out. -/
def Element.text (e : Element) : String :=
  Text.unescape (String.ofList (e.content.filterMap Token.char?))

def texts (name : String) (tokens : List Token) : List String :=
  (elements name tokens).map Element.text

/-- The values of an attribute, wherever it stands. -/
def attributeValues (key : String) (tokens : List Token) : List String :=
  (tags tokens).filterMap (·.value? key)

/-- A tag by its name alone; the name of a tag that closes an element is told with its slash. -/
def Token.tagName? : Token → Option String
  | .char _ => none
  | .opening name _ => some name
  | .closing name => some ("/" ++ name)

/-- The names of the tags of a page, in their order. -/
def tagNames (tokens : List Token) : List String :=
  tokens.filterMap Token.tagName?

/-! ### Words of pieces -/

/-- The names of elements and attributes that a piece uses. -/
def Piece.words : Piece → List Name
  | opening name attributes => name :: attributes.map Prod.fst
  | closing name => [name]
  | _ => []

def words (pieces : List Piece) : List Name :=
  pieces.flatMap Piece.words

@[simp] theorem words_nil : words [] = [] := rfl

@[simp] theorem words_cons (piece : Piece) (rest : List Piece) : words (piece :: rest) = piece.words ++ words rest :=
  List.flatMap_cons

@[simp] theorem words_append (pieces more : List Piece) : words (pieces ++ more) = words pieces ++ words more :=
  List.flatMap_append

@[simp] theorem words_element (name : Name) (attributes : List (Name × String)) (inside : List Piece) :
    words (element name attributes inside) = name :: attributes.map Prod.fst ++ words inside ++ [name] := by
  simp [element, Piece.words]

/-- The pieces use no other names of elements and attributes than these. -/
def Speaks (allowed : List Name) (pieces : List Piece) : Prop :=
  ∀ word ∈ words pieces, word ∈ allowed

namespace Speaks

variable {allowed : List Name} {pieces more : List Piece}

theorem append (hpieces : Speaks allowed pieces) (hmore : Speaks allowed more) : Speaks allowed (pieces ++ more) := by
  intro word hword
  rw [words_append, List.mem_append] at hword
  exact hword.elim (hpieces word) (hmore word)

theorem flatten {parts : List (List Piece)} (hparts : ∀ part ∈ parts, Speaks allowed part) :
    Speaks allowed parts.flatten := by
  induction parts with
  | nil => exact fun _ hword => absurd hword List.not_mem_nil
  | cons part rest ih =>
    obtain ⟨hfirst, hrest⟩ := List.forall_mem_cons.mp hparts
    exact hfirst.append (ih hrest)

theorem flatMap {α : Type} {items : List α} {f : α → List Piece} (hitems : ∀ item ∈ items, Speaks allowed (f item)) :
    Speaks allowed (items.flatMap f) := by
  apply flatten
  intro part hpart
  obtain ⟨item, hitem, rfl⟩ := List.mem_map.mp hpart
  exact hitems item hitem

theorem element {name : Name} {attributes : List (Name × String)} (hname : name ∈ allowed)
    (hattributes : ∀ entry ∈ attributes, entry.1 ∈ allowed) (hinside : Speaks allowed pieces) :
    Speaks allowed (Markup.element name attributes pieces) := by
  intro word hword
  rw [words_element] at hword
  simp only [List.cons_append, List.mem_cons, List.mem_append, List.mem_map, List.not_mem_nil, or_false] at hword
  rcases hword with rfl | (hentry | hinner) | rfl
  · exact hname
  · obtain ⟨entry, hentry, rfl⟩ := hentry
    exact hattributes entry hentry
  · exact hinside word hinner
  · exact hname

theorem text (s : String) (h : Speaks allowed pieces) : Speaks allowed (.text s :: pieces) := h

theorem nil : Speaks allowed [] := fun _ hword => absurd hword List.not_mem_nil

theorem mono {wider : List Name} (h : Speaks allowed pieces) (hsub : ∀ word ∈ allowed, word ∈ wider) :
    Speaks wider pieces :=
  fun word hword => hsub word (h word hword)

theorem not_mem (h : Speaks allowed pieces) {name : Name} (hname : name ∉ allowed) : name ∉ words pieces :=
  fun hmem => hname (h name hmem)

end Speaks

/-! ### Elements of pieces -/

/-- An element that is written, as it is read. -/
def elementOf (name : Name) (attributes : List (Name × String)) (inside : List Piece) : Element where
  tag := ⟨name.text, fun key => (attributes.map fun (key, value) => (key.text, value)).lookup key⟩
  content := tokens inside

theorem tokens_cons (piece : Piece) (rest : List Piece) : tokens (piece :: rest) = piece.tokens ++ tokens rest :=
  List.flatMap_cons

@[simp] theorem tokens_append (pieces more : List Piece) : tokens (pieces ++ more) = tokens pieces ++ tokens more :=
  List.flatMap_append

theorem Name.text_inj : ∀ {name other : Name}, name.text = other.text → name = other := by
  intro name other
  cases name <;> cases other <;> decide

/-- The pieces add these elements of a name to whatever follows. -/
def Yields (name : Name) (pieces : List Piece) (found : List Element) : Prop :=
  ∀ rest, elements name.text (tokens pieces ++ rest) = found ++ elements name.text rest

theorem elements_chars (name : String) (cs : List Char) (rest : List Token) :
    elements name (cs.map .char ++ rest) = elements name rest := by
  induction cs with
  | nil => rfl
  | cons c more ih => exact ih

theorem closing_not_mem_tokens {name : Name} {pieces : List Piece} (hname : name ∉ words pieces) :
    .closing name.text ∉ tokens pieces := by
  intro hmem
  obtain ⟨piece, hpiece, htoken⟩ := List.mem_flatMap.mp hmem
  have hwords : name ∉ piece.words := fun hword => hname (List.mem_flatMap.mpr ⟨piece, hpiece, hword⟩)
  cases piece with
  | text s =>
    obtain ⟨_, _, hchar⟩ := List.mem_map.mp htoken
    cases hchar
  | verbatim s hplain =>
    obtain ⟨_, _, hchar⟩ := List.mem_map.mp htoken
    cases hchar
  | doctype | figure => exact absurd htoken List.not_mem_nil
  | opening found attributes =>
    rw [Piece.tokens, List.mem_singleton] at htoken
    cases htoken
  | closing found =>
    rw [Piece.tokens, List.mem_singleton, Token.closing.injEq] at htoken
    rw [Name.text_inj htoken] at hwords
    exact hwords List.mem_cons_self

namespace Yields

variable {name : Name} {pieces more : List Piece} {found others : List Element}

theorem elements_eq (h : Yields name pieces found) : elements name.text (tokens pieces) = found := by
  have hall := h []
  rwa [List.append_nil, elements, List.append_nil] at hall

theorem nil : Yields name [] [] := fun _ => rfl

theorem append (hfirst : Yields name pieces found) (hsecond : Yields name more others) :
    Yields name (pieces ++ more) (found ++ others) := by
  intro rest
  rw [tokens_append, List.append_assoc, hfirst, hsecond, List.append_assoc]

theorem flatMap {α : Type} {items : List α} {f : α → List Piece} {g : α → List Element}
    (hitems : ∀ item ∈ items, Yields name (f item) (g item)) :
    Yields name (items.flatMap f) (items.flatMap g) := by
  induction items with
  | nil => exact .nil
  | cons item rest ih =>
    obtain ⟨hfirst, hrest⟩ := List.forall_mem_cons.mp hitems
    exact hfirst.append (ih hrest)

/-- Pieces without a tag of a name have no elements of it. -/
theorem of_not_mem (hname : name ∉ words pieces) : Yields name pieces [] := by
  induction pieces with
  | nil => exact .nil
  | cons piece rest ih =>
    rw [words_cons, List.mem_append, not_or] at hname
    intro following
    have hrest : elements name.text (tokens rest ++ following) = elements name.text following := ih hname.2 following
    have hfirst : ∀ more, elements name.text (piece.tokens ++ more) = elements name.text more := by
      intro more
      cases piece with
      | text s => exact elements_chars ..
      | verbatim s hplain => exact elements_chars ..
      | doctype | figure | closing => rfl
      | opening found attributes =>
        have hother : found.text ≠ name.text := fun hsame => hname.1 (Name.text_inj hsame ▸ List.mem_cons_self)
        exact if_neg hother
    rw [tokens_cons, List.append_assoc, hfirst, hrest]
    rfl

/-- A piece in front that has no tag of the name adds nothing. -/
theorem behind {piece : Piece} (hpiece : name ∉ piece.words) (h : Yields name pieces found) :
    Yields name (piece :: pieces) found := by
  have hone : Yields name [piece] [] := of_not_mem (by rwa [words_cons, words_nil, List.append_nil])
  exact hone.append h

theorem ahead (h : Yields name pieces found) (hmore : name ∉ words more) : Yields name (pieces ++ more) found := by
  have hall := h.append (of_not_mem hmore)
  rwa [List.append_nil] at hall

/-- An element is found under its name. -/
theorem element {attributes : List (Name × String)} (hname : name ∉ words pieces) :
    Yields name (Markup.element name attributes pieces) [elementOf name attributes pieces] := by
  intro rest
  have hinside : ∀ token ∈ tokens pieces, (token != .closing name.text) = true := by
    intro token htoken
    rw [bne_iff_ne]
    rintro rfl
    exact closing_not_mem_tokens hname htoken
  have hcontent : (tokens pieces ++ (.closing name.text :: rest)).takeWhile (· != .closing name.text) =
      tokens pieces := by
    rw [List.takeWhile_append_of_pos hinside, List.takeWhile_cons, bne_self_eq_false]
    exact List.append_nil _
  have hvalue : (fun key =>
      ((attributes.map fun (key, value) => (key.text, Text.escape value)).lookup key).map Text.unescape) =
      fun key => (attributes.map fun (key, value) => (key.text, value)).lookup key := by
    funext key
    exact lookup_escaped key attributes
  have htokens : tokens (Markup.element name attributes pieces) ++ rest =
      .opening name.text (attributes.map fun (key, value) => (key.text, Text.escape value)) ::
        (tokens pieces ++ (.closing name.text :: rest)) := by
    rw [Markup.element, tokens_append, tokens_cons, List.append_assoc, List.append_assoc]
    rfl
  rw [htokens, elements]
  dsimp only
  rw [if_pos rfl, hcontent, hvalue, of_not_mem hname]
  rfl

/-- An element of another name has the elements that are inside of it. -/
theorem around {outer : Name} {attributes : List (Name × String)} (hother : outer ≠ name)
    (hinside : Yields name pieces found) : Yields name (Markup.element outer attributes pieces) found := by
  intro rest
  have hopening : outer.text ≠ name.text := fun hsame => hother (Name.text_inj hsame)
  have htokens : tokens (Markup.element outer attributes pieces) ++ rest =
      .opening outer.text (attributes.map fun (key, value) => (key.text, Text.escape value)) ::
        (tokens pieces ++ (.closing outer.text :: rest)) := by
    rw [Markup.element, tokens_append, tokens_cons, List.append_assoc, List.append_assoc]
    rfl
  rw [htokens, elements]
  dsimp only
  rw [if_neg hopening, hinside]
  rfl

end Yields

/-- The text of an element is what was written in it. -/
theorem text_elementOf (name : Name) (attributes : List (Name × String)) (written : List String) :
    (elementOf name attributes (written.map .text)).text = String.join written := by
  have hchars : (tokens (written.map Piece.text)).filterMap Token.char? =
      (Text.escape (String.join written)).toList := by
    induction written with
    | nil => rfl
    | cons s rest ih =>
      have hfirst : ((Text.escape s).toList.map Token.char).filterMap Token.char? = (Text.escape s).toList := by
        rw [List.filterMap_map]
        exact List.filterMap_some
      rw [List.map_cons, tokens_cons, List.filterMap_append, ih, String.join_cons, escape_append,
        String.toList_append, Piece.tokens, hfirst]
  rw [Element.text, elementOf, hchars, String.ofList_toList, unescape_escape]

theorem text_elementOf_text (name : Name) (attributes : List (Name × String)) (s : String) :
    (elementOf name attributes [.text s]).text = s := by
  have hone := text_elementOf name attributes [s]
  rwa [String.join_cons, String.join_nil, String.append_empty] at hone

/-! ### Values of attributes -/

/-- The values that pieces give to an attribute. -/
def valuesOf (key : Name) (pieces : List Piece) : List String :=
  (pieces.filterMap Piece.tag?).filterMap (·.value? key.text)

theorem attributeValues_tokens (key : Name) (pieces : List Piece) :
    attributeValues key.text (tokens pieces) = valuesOf key pieces := by
  rw [attributeValues, tags_tokens]
  rfl

@[simp] theorem valuesOf_append (key : Name) (pieces more : List Piece) :
    valuesOf key (pieces ++ more) = valuesOf key pieces ++ valuesOf key more := by
  rw [valuesOf, List.filterMap_append, List.filterMap_append]
  rfl

@[simp] theorem valuesOf_nil (key : Name) : valuesOf key [] = [] := rfl

@[simp] theorem valuesOf_text (key : Name) (s : String) (rest : List Piece) :
    valuesOf key (.text s :: rest) = valuesOf key rest := rfl

@[simp] theorem valuesOf_doctype (key : Name) (rest : List Piece) :
    valuesOf key (.doctype :: rest) = valuesOf key rest := rfl

@[simp] theorem valuesOf_verbatim (key : Name) {s : String} (hplain : '<' ∉ s.toList) (rest : List Piece) :
    valuesOf key (.verbatim s hplain :: rest) = valuesOf key rest := rfl

@[simp] theorem valuesOf_opening (key name : Name) (attributes : List (Name × String)) (rest : List Piece) :
    valuesOf key (.opening name attributes :: rest) =
      ((attributes.map fun (key, value) => (key.text, value)).lookup key.text).toList ++ valuesOf key rest := by
  have hopening : valuesOf key [.opening name attributes] =
      ((attributes.map fun (key, value) => (key.text, value)).lookup key.text).toList := by
    simp only [valuesOf, Piece.tag?, List.filterMap_cons, List.filterMap_nil]
    cases (attributes.map fun (key, value) => (key.text, value)).lookup key.text <;> rfl
  rw [← hopening]
  exact valuesOf_append key [_] rest

@[simp] theorem valuesOf_element (key name : Name) (attributes : List (Name × String)) (inside : List Piece) :
    valuesOf key (element name attributes inside) =
      ((attributes.map fun (key, value) => (key.text, value)).lookup key.text).toList ++ valuesOf key inside := by
  rw [element, valuesOf_append, valuesOf_opening]
  exact List.append_nil _

theorem valuesOf_flatMap {α : Type} {key : Name} {items : List α} {f : α → List Piece} {g : α → List String}
    (hitems : ∀ item ∈ items, valuesOf key (f item) = g item) :
    valuesOf key (items.flatMap f) = items.flatMap g := by
  induction items with
  | nil => rfl
  | cons item rest ih =>
    obtain ⟨hfirst, hrest⟩ := List.forall_mem_cons.mp hitems
    rw [List.flatMap_cons, List.flatMap_cons, valuesOf_append, hfirst, ih hrest]

theorem lookup_eq_none_of_not_mem {key : Name} {attributes : List (Name × String)}
    (hkey : key ∉ attributes.map Prod.fst) :
    (attributes.map fun (key, value) => (key.text, value)).lookup key.text = none := by
  induction attributes with
  | nil => rfl
  | cons first rest ih =>
    rw [List.map_cons, List.mem_cons, not_or] at hkey
    have hother : key.text ≠ first.1.text := fun hsame => hkey.1 (Name.text_inj hsame)
    rw [List.map_cons, List.lookup_cons, beq_false_of_ne hother]
    exact ih hkey.2

/-- Pieces that do not use an attribute give it no value. -/
theorem valuesOf_of_not_mem {key : Name} {pieces : List Piece} (hkey : key ∉ words pieces) :
    valuesOf key pieces = [] := by
  induction pieces with
  | nil => rfl
  | cons piece rest ih =>
    rw [words_cons, List.mem_append, not_or] at hkey
    have hsplit : valuesOf key (piece :: rest) = valuesOf key [piece] ++ valuesOf key rest :=
      valuesOf_append key [piece] rest
    rw [hsplit, ih hkey.2, List.append_nil]
    cases piece with
    | opening name attributes =>
      have hattributes : key ∉ attributes.map Prod.fst := fun hmem => hkey.1 (List.mem_cons_of_mem _ hmem)
      have hnone := lookup_eq_none_of_not_mem hattributes
      simp only [valuesOf, Piece.tag?, List.filterMap_cons, List.filterMap_nil, hnone]
    | _ => rfl

/-! ### Shapes -/

/-- The tags of pieces by their names alone, with whether they open an element. -/
def Piece.mark? : Piece → Option (Bool × Name)
  | opening name _ => some (true, name)
  | closing name => some (false, name)
  | _ => none

def shape (pieces : List Piece) : List (Bool × Name) :=
  pieces.filterMap Piece.mark?

@[simp] theorem shape_nil : shape [] = [] := rfl

@[simp] theorem shape_text (s : String) (rest : List Piece) : shape (.text s :: rest) = shape rest := rfl

@[simp] theorem shape_doctype (rest : List Piece) : shape (.doctype :: rest) = shape rest := rfl

@[simp] theorem shape_opening (name : Name) (attributes : List (Name × String)) (rest : List Piece) :
    shape (.opening name attributes :: rest) = (true, name) :: shape rest := rfl

@[simp] theorem shape_append (pieces more : List Piece) : shape (pieces ++ more) = shape pieces ++ shape more :=
  List.filterMap_append

@[simp] theorem shape_element (name : Name) (attributes : List (Name × String)) (inside : List Piece) :
    shape (element name attributes inside) = (true, name) :: shape inside ++ [(false, name)] := by
  rw [element, shape_append]
  rfl

theorem shape_flatMap_of_forall₂ {α β : Type} {items : List α} {others : List β} {f : α → List Piece}
    {g : β → List Piece} (hsame : List.Forall₂ (fun item other => shape (f item) = shape (g other)) items others) :
    shape (items.flatMap f) = shape (others.flatMap g) := by
  induction hsame with
  | nil => rfl
  | cons hfirst _ ih => rw [List.flatMap_cons, List.flatMap_cons, shape_append, shape_append, hfirst, ih]

/-- The name of a tag as it is told of a page. -/
def markName (mark : Bool × Name) : String :=
  if mark.1 then mark.2.text else "/" ++ mark.2.text

theorem tagNames_tokens (pieces : List Piece) : tagNames (tokens pieces) = (shape pieces).map markName := by
  have hchars : ∀ cs : List Char, tagNames (cs.map Token.char) = [] := by
    intro cs
    rw [tagNames, List.filterMap_map, List.filterMap_eq_nil_iff]
    intro c _
    rfl
  induction pieces with
  | nil => rfl
  | cons piece rest ih =>
    have hsplit : tagNames (tokens (piece :: rest)) = tagNames piece.tokens ++ tagNames (tokens rest) := by
      rw [tokens_cons, tagNames, List.filterMap_append]
      rfl
    rw [hsplit, ih]
    cases piece with
    | text s => rw [Piece.tokens, hchars]; rfl
    | verbatim s hplain => rw [Piece.tokens, hchars]; rfl
    | _ => rfl

/-! ### Elements in a row -/

/-- Elements of one name, each around a text. -/
def items (name : Name) (words : List String) : List Piece :=
  words.flatMap fun word => element name [] [.text word]

theorem speaks_items (name : Name) (words : List String) : Speaks [name] (items name words) := by
  apply Speaks.flatMap
  intro word _
  exact .element List.mem_cons_self (fun _ hentry => absurd hentry List.not_mem_nil) (.text word .nil)

theorem yields_items (name : Name) (words : List String) :
    Yields name (items name words) (words.flatMap fun word => [elementOf name [] [.text word]]) := by
  apply Yields.flatMap
  intro word _
  exact .element List.not_mem_nil

/-- The texts of the elements are the ones they were written around. -/
theorem texts_items (name : Name) (words : List String) : texts name.text (tokens (items name words)) = words := by
  rw [texts, (yields_items name words).elements_eq, ← List.map_eq_flatMap, List.map_map]
  have htext : (Element.text ∘ fun word => elementOf name [] [.text word]) = id := by
    funext word
    exact text_elementOf_text name [] word
  rw [htext, List.map_id]

theorem shape_items_congr (name : Name) {words more : List String} (hlength : words.length = more.length) :
    shape (items name words) = shape (items name more) := by
  apply shape_flatMap_of_forall₂
  rw [List.forall₂_iff_get]
  exact ⟨hlength, fun _ _ _ => by simp⟩

end CodecReport.Markup
