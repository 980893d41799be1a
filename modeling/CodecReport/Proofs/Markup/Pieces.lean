import CodecReport.Chart.Figure

/-!
# Pieces of markup

A page as a reader takes it: `scan` goes through its characters and gives the tags with their attributes, and
every character outside of tags. A page is written as pieces, each of them a text, a tag or a figure, and
what is scanned of the pieces beside the figures is what each of them stands for: no text ends an attribute
or begins a tag. The text of a figure belongs to the library that draws it.
-/

namespace CodecReport.Markup

/-! ### Reading -/

inductive Token
  | char (c : Char)
  /-- A tag that opens an element, with the attributes as they are written. -/
  | opening (name : String) (attributes : List (String × String))
  | closing (name : String)
  deriving DecidableEq, Repr

/-- Where a reader is: in a text; in a tag, behind some of its words and inside of another one; behind the
equality sign of an attribute; or inside of its value. The first word of a tag is its name. -/
inductive Mode
  | text
  | tag (words : List (String × String)) (word : List Char)
  | equals (words : List (String × String)) (key : List Char)
  | value (words : List (String × String)) (key value : List Char)

/-- The words of a tag with one more, if there is one; it has no value. -/
def flush (words : List (String × String)) : List Char → List (String × String)
  | [] => words
  | word => words ++ [(String.ofList word, "")]

/-- The tag of the given words; a declaration is none. -/
def tagOf : List (String × String) → List Token
  | [] => []
  | (name, _) :: attributes =>
    match name.toList with
    | '!' :: _ => []
    | '/' :: closed => [.closing (String.ofList closed)]
    | _ => [.opening name attributes]

def Mode.next : Mode → Char → Mode
  | .text, c => if c = '<' then .tag [] [] else .text
  | .tag words word, c =>
    if c = '>' then .text
    else if c = ' ' then .tag (flush words word) []
    else if c = '=' then .equals words word
    else .tag words (word ++ [c])
  | .equals words key, c => if c = '"' then .value words key [] else .tag (flush words key) [c]
  | .value words key cs, c =>
    if c = '"' then .tag (words ++ [(String.ofList key, String.ofList cs)]) []
    else .value words key (cs ++ [c])

/-- The tokens that end with a character. -/
def Mode.ended : Mode → Char → List Token
  | .text, c => if c = '<' then [] else [.char c]
  | .tag words word, c => if c = '>' then tagOf (flush words word) else []
  | .equals _ _, _ => []
  | .value _ _ _, _ => []

def read : Mode → List Char → List Token
  | _, [] => []
  | mode, c :: rest => mode.ended c ++ read (mode.next c) rest

/-- What is scanned of a page. -/
def scan (page : String) : List Token :=
  read .text page.toList

/-- Reading some characters gives tokens and ends in a mode, whatever follows. -/
def Reads (start : Mode) (cs : List Char) (tokens : List Token) (stop : Mode) : Prop :=
  ∀ rest, read start (cs ++ rest) = tokens ++ read stop rest

namespace Reads

variable {start middle stop : Mode} {cs ds : List Char} {tokens more : List Token}

theorem nil (mode : Mode) : Reads mode [] [] mode := fun _ => rfl

theorem step (mode : Mode) (c : Char) : Reads mode [c] (mode.ended c) (mode.next c) := fun _ => rfl

theorem opened : Reads .text ['<'] [] (.tag [] []) := step _ _

theorem closed (words : List (String × String)) (word : List Char) :
    Reads (.tag words word) ['>'] (tagOf (flush words word)) .text := step _ _

theorem blank (words : List (String × String)) (word : List Char) :
    Reads (.tag words word) [' '] [] (.tag (flush words word) []) := step _ _

theorem equality (words : List (String × String)) (key : List Char) :
    Reads (.tag words key) ['='] [] (.equals words key) := step _ _

theorem quote (words : List (String × String)) (key : List Char) :
    Reads (.equals words key) ['"'] [] (.value words key []) := step _ _

theorem unquote (words : List (String × String)) (key value : String) :
    Reads (.value words key.toList value.toList) ['"'] [] (.tag (words ++ [(key, value)]) []) := by
  have hstep := step (.value words key.toList value.toList) '"'
  rwa [Mode.ended, Mode.next, if_pos rfl, String.ofList_toList, String.ofList_toList] at hstep

theorem append (hfirst : Reads start cs tokens middle) (hsecond : Reads middle ds more stop) :
    Reads start (cs ++ ds) (tokens ++ more) stop := by
  intro rest
  rw [List.append_assoc, hfirst, hsecond, List.append_assoc]

theorem text (hplain : '<' ∉ cs) : Reads .text cs (cs.map .char) .text := by
  induction cs with
  | nil => exact .nil .text
  | cons c rest ih =>
    rw [List.mem_cons, not_or] at hplain
    obtain ⟨hfirst, hrest⟩ := hplain
    have hstep := step .text c
    rw [Mode.ended, Mode.next, if_neg (Ne.symm hfirst), if_neg (Ne.symm hfirst)] at hstep
    exact hstep.append (ih hrest)

theorem wordFrom (words : List (String × String)) (before : List Char)
    (hplain : ∀ c ∈ cs, c ≠ '>' ∧ c ≠ ' ' ∧ c ≠ '=') :
    Reads (.tag words before) cs [] (.tag words (before ++ cs)) := by
  induction cs generalizing before with
  | nil =>
    rw [List.append_nil]
    exact .nil _
  | cons c rest ih =>
    obtain ⟨⟨hend, hblank, hequals⟩, hrest⟩ := List.forall_mem_cons.mp hplain
    have hstep := step (.tag words before) c
    rw [Mode.ended, Mode.next, if_neg hend, if_neg hend, if_neg hblank, if_neg hequals] at hstep
    have hword := hstep.append (ih (before ++ [c]) hrest)
    rwa [List.append_assoc] at hword

/-- The characters of a word of a tag belong to that word. -/
theorem word (words : List (String × String)) (hplain : ∀ c ∈ cs, c ≠ '>' ∧ c ≠ ' ' ∧ c ≠ '=') :
    Reads (.tag words []) cs [] (.tag words cs) :=
  wordFrom words [] hplain

theorem valueFrom (words : List (String × String)) (key before : List Char) (hplain : '"' ∉ cs) :
    Reads (.value words key before) cs [] (.value words key (before ++ cs)) := by
  induction cs generalizing before with
  | nil =>
    rw [List.append_nil]
    exact .nil _
  | cons c rest ih =>
    rw [List.mem_cons, not_or] at hplain
    obtain ⟨hfirst, hrest⟩ := hplain
    have hstep := step (.value words key before) c
    rw [Mode.ended, Mode.next, if_neg (Ne.symm hfirst)] at hstep
    have hvalue := hstep.append (ih (before ++ [c]) hrest)
    rwa [List.append_assoc] at hvalue

theorem value (words : List (String × String)) (key : List Char) (hplain : '"' ∉ cs) :
    Reads (.value words key []) cs [] (.value words key cs) :=
  valueFrom words key [] hplain

end Reads

/-! ### Writing -/

/-- Whether a character may stand in the name of an element or of an attribute. -/
def isNameChar (c : Char) : Bool :=
  c.isAlphanum || c == '-'

/-- The names of elements and attributes; `style` is both. -/
inductive Name
  | html | head | body | metaData | title | style | script | form | label | input | div | h1 | h2
  | ul | li | a | p | table | thead | tbody | tr | th | td
  | id | cssClass | href | src | charset | onsubmit | labelFor | inputType | inputName | inputValue | dataRow
  | dataView | dataDataset
  deriving DecidableEq

@[simp] def Name.text : Name → String
  | .html => "html"
  | .head => "head"
  | .body => "body"
  | .metaData => "meta"
  | .title => "title"
  | .style => "style"
  | .script => "script"
  | .form => "form"
  | .label => "label"
  | .input => "input"
  | .div => "div"
  | .h1 => "h1"
  | .h2 => "h2"
  | .ul => "ul"
  | .li => "li"
  | .a => "a"
  | .p => "p"
  | .table => "table"
  | .thead => "thead"
  | .tbody => "tbody"
  | .tr => "tr"
  | .th => "th"
  | .td => "td"
  | .id => "id"
  | .cssClass => "class"
  | .href => "href"
  | .src => "src"
  | .charset => "charset"
  | .onsubmit => "onsubmit"
  | .labelFor => "for"
  | .inputType => "type"
  | .inputName => "name"
  | .inputValue => "value"
  | .dataRow => "data-row"
  | .dataView => "data-view"
  | .dataDataset => "data-dataset"

theorem Name.text_ne_empty (name : Name) : name.text ≠ "" := by
  cases name <;> decide

theorem Name.isNameChar_of_mem (name : Name) {c : Char} (hc : c ∈ name.text.toList) : isNameChar c = true := by
  have hall : name.text.toList.all isNameChar = true := by
    cases name <;> decide +kernel
  exact List.all_eq_true.mp hall c hc

inductive Piece
  | text (s : String)
  /-- A text that is written as it is. -/
  | verbatim (s : String) (plain : '<' ∉ s.toList)
  | doctype
  | figure (f : Figure)
  | opening (name : Name) (attributes : List (Name × String))
  | closing (name : Name)

def attributeHtml (key : Name) (value : String) : String :=
  " " ++ key.text ++ "=\"" ++ Text.escape value ++ "\""

def attributesHtml (attributes : List (Name × String)) : String :=
  String.join (attributes.map fun (key, value) => attributeHtml key value)

namespace Piece

def html : Piece → String
  | text s => Text.escape s
  | verbatim s _ => s
  | doctype => "<!DOCTYPE html>"
  | figure f => f.text
  | opening name attributes => "<" ++ name.text ++ attributesHtml attributes ++ ">"
  | closing name => "</" ++ name.text ++ ">"

@[simp] theorem html_text (s : String) : (text s).html = Text.escape s := rfl

@[simp] theorem html_verbatim {s : String} (hplain : '<' ∉ s.toList) : (verbatim s hplain).html = s := rfl

@[simp] theorem html_doctype : doctype.html = "<!DOCTYPE html>" := rfl

@[simp] theorem html_figure (f : Figure) : (figure f).html = f.text := rfl

@[simp] theorem html_opening (name : Name) (attributes : List (Name × String)) :
    (opening name attributes).html = "<" ++ name.text ++ attributesHtml attributes ++ ">" := rfl

@[simp] theorem html_closing (name : Name) : (closing name).html = "</" ++ name.text ++ ">" := rfl

def isFigure : Piece → Bool
  | figure _ => true
  | _ => false

/-- What a piece stands for to a reader. The text of a figure is left to the library that draws it. -/
def tokens : Piece → List Token
  | text s => (Text.escape s).toList.map .char
  | verbatim s _ => s.toList.map .char
  | doctype => []
  | figure _ => []
  | opening name attributes =>
    [.opening name.text (attributes.map fun (key, value) => (key.text, Text.escape value))]
  | closing name => [.closing name.text]

end Piece

def html (pieces : List Piece) : String :=
  String.join (pieces.map Piece.html)

/-- The pieces other than figures. -/
def besideFigures (pieces : List Piece) : List Piece :=
  pieces.filter (!·.isFigure)

def tokens (pieces : List Piece) : List Token :=
  pieces.flatMap Piece.tokens

/-- An element with what is inside of it. -/
def element (name : Name) (attributes : List (Name × String)) (inside : List Piece) : List Piece :=
  .opening name attributes :: inside ++ [.closing name]

@[simp] theorem attributesHtml_nil : attributesHtml [] = "" := rfl

@[simp] theorem attributesHtml_cons (entry : Name × String) (rest : List (Name × String)) :
    attributesHtml (entry :: rest) = attributeHtml entry.1 entry.2 ++ attributesHtml rest := by
  rw [attributesHtml, List.map_cons, String.join_cons]
  rfl

@[simp] theorem attributesHtml_append (attributes more : List (Name × String)) :
    attributesHtml (attributes ++ more) = attributesHtml attributes ++ attributesHtml more := by
  rw [attributesHtml, List.map_append, String.join_append]
  rfl

@[simp] theorem html_nil : html [] = "" := rfl

@[simp] theorem html_cons (piece : Piece) (rest : List Piece) : html (piece :: rest) = piece.html ++ html rest := by
  rw [html, List.map_cons, String.join_cons]
  rfl

@[simp] theorem html_append (pieces more : List Piece) : html (pieces ++ more) = html pieces ++ html more := by
  rw [html, List.map_append, String.join_append]
  rfl

theorem html_flatten (parts : List (List Piece)) : html parts.flatten = String.join (parts.map html) := by
  induction parts with
  | nil => rfl
  | cons part rest ih => rw [List.flatten_cons, html_append, ih, List.map_cons, String.join_cons]

theorem html_flatMap {α : Type} (items : List α) (f : α → List Piece) :
    html (items.flatMap f) = String.join (items.map fun item => html (f item)) := by
  rw [List.flatMap, html_flatten, List.map_map]
  rfl

theorem html_element (name : Name) (attributes : List (Name × String)) (inside : List Piece) :
    html (element name attributes inside) =
      "<" ++ name.text ++ attributesHtml attributes ++ ">" ++ html inside ++ ("</" ++ name.text ++ ">") := by
  rw [element, html_append, html_cons, html_cons, html_nil, String.append_empty]
  rfl

/-! ### What is written is what is read -/

theorem plain_of_mem_escapeChar {c d : Char} (hd : d ∈ Text.escapeChar c) : d ∉ ['<', '>', '"', '\''] := by
  unfold Text.escapeChar at hd
  split at hd
  case h_6 hamp hlt hgt hquote hmark =>
    rw [List.mem_singleton.mp hd]
    simp only [List.mem_cons, List.not_mem_nil, or_false, not_or]
    exact ⟨hlt, hgt, hquote, hmark⟩
  all_goals
    intro hmark
    simp only [List.mem_cons, List.not_mem_nil, or_false] at hmark
    rcases hmark with rfl | rfl | rfl | rfl <;> exact absurd hd (by decide)

/-- What was escaped has no angle brackets and no quotes. -/
theorem plain_of_mem_escape {s : String} {c : Char} (hc : c ∈ (Text.escape s).toList) :
    c ∉ ['<', '>', '"', '\''] := by
  rw [Text.escape, String.toList_ofList] at hc
  obtain ⟨_, _, hmem⟩ := List.mem_flatMap.mp hc
  exact plain_of_mem_escapeChar hmem

theorem Name.plain_of_mem (name : Name) {c : Char} (hc : c ∈ name.text.toList) :
    (c ≠ '>' ∧ c ≠ ' ' ∧ c ≠ '=') ∧ c ≠ '/' ∧ c ≠ '!' := by
  have hchar := name.isNameChar_of_mem hc
  refine ⟨⟨?_, ?_, ?_⟩, ?_, ?_⟩ <;> rintro rfl <;> exact absurd hchar (by decide)

theorem Name.toList_ne_nil (name : Name) : name.text.toList ≠ [] := by
  intro hnil
  apply name.text_ne_empty
  apply String.toList_inj.mp
  rw [hnil]
  rfl

theorem flush_of_ne_nil (words : List (String × String)) {word : List Char} (hword : word ≠ []) :
    flush words word = words ++ [(String.ofList word, "")] := by
  cases word with
  | nil => exact absurd rfl hword
  | cons c rest => rfl

theorem tagOf_name (name : Name) (attributes : List (String × String)) :
    tagOf ((name.text, "") :: attributes) = [.opening name.text attributes] := by
  rw [tagOf]
  split
  case h_1 declared hdeclared =>
    have hmark : '!' ∈ name.text.toList := hdeclared ▸ List.mem_cons_self
    exact absurd rfl (name.plain_of_mem hmark).2.2
  case h_2 closed hclosed =>
    have hslash : '/' ∈ name.text.toList := hclosed ▸ List.mem_cons_self
    exact absurd rfl (name.plain_of_mem hslash).2.1
  case h_3 => rfl

/-- An attribute is read as its name and its value. -/
theorem reads_attribute (words : List (String × String)) (word : List Char) (key : Name) (value : String) :
    Reads (.tag words word) (attributeHtml key value).toList []
      (.tag (flush words word ++ [(key.text, Text.escape value)]) []) := by
  have hkey : ∀ c ∈ key.text.toList, c ≠ '>' ∧ c ≠ ' ' ∧ c ≠ '=' := fun _ hc => (key.plain_of_mem hc).1
  have hvalue : '"' ∉ (Text.escape value).toList := by
    intro hquote
    exact plain_of_mem_escape hquote (by decide)
  have htext : (attributeHtml key value).toList =
      [' '] ++ (key.text.toList ++ (['='] ++ (['"'] ++ ((Text.escape value).toList ++ ['"'])))) := by
    simp [attributeHtml]
  have hquoted := (Reads.quote (flush words word) key.text.toList).append <|
    (Reads.value (flush words word) key.text.toList hvalue).append <|
      Reads.unquote (flush words word) key.text (Text.escape value)
  have hword := (Reads.word (flush words word) hkey).append <|
    (Reads.equality (flush words word) key.text.toList).append hquoted
  rw [htext]
  exact (Reads.blank words word).append hword

/-- All attributes of a tag are read, in their order. -/
theorem reads_attributes (attributes : List (Name × String)) (words : List (String × String))
    (word : List Char) :
    ∃ read last, Reads (.tag words word) (attributesHtml attributes).toList [] (.tag read last) ∧
      flush read last =
        flush words word ++ attributes.map fun (key, value) => (key.text, Text.escape value) := by
  induction attributes generalizing words word with
  | nil => exact ⟨words, word, .nil _, (List.append_nil _).symm⟩
  | cons first rest ih =>
    obtain ⟨key, value⟩ := first
    obtain ⟨read, last, hreads, hflush⟩ := ih (flush words word ++ [(key.text, Text.escape value)]) []
    refine ⟨read, last, ?_, ?_⟩
    · rw [attributesHtml_cons, String.toList_append]
      exact (reads_attribute words word key value).append hreads
    · rw [hflush, flush, List.append_assoc]
      rfl

theorem reads_opening (name : Name) (attributes : List (Name × String)) :
    Reads .text (Piece.opening name attributes).html.toList (Piece.opening name attributes).tokens .text := by
  have hname : ∀ c ∈ name.text.toList, c ≠ '>' ∧ c ≠ ' ' ∧ c ≠ '=' := fun _ hc => (name.plain_of_mem hc).1
  obtain ⟨read, last, hattributes, hflush⟩ := reads_attributes attributes [] name.text.toList
  have hreads := Reads.opened.append <| (Reads.word [] hname).append <|
    hattributes.append (Reads.closed read last)
  have htag : tagOf (flush read last) = (Piece.opening name attributes).tokens := by
    rw [hflush, flush_of_ne_nil [] name.toList_ne_nil, String.ofList_toList]
    exact tagOf_name name _
  have htext : (Piece.opening name attributes).html.toList =
      ['<'] ++ (name.text.toList ++ ((attributesHtml attributes).toList ++ ['>'])) := by
    simp [Piece.html]
  rw [htext, ← htag]
  exact hreads

theorem reads_closing (name : Name) :
    Reads .text (Piece.closing name).html.toList (Piece.closing name).tokens .text := by
  have hname : ∀ c ∈ '/' :: name.text.toList, c ≠ '>' ∧ c ≠ ' ' ∧ c ≠ '=' := by
    intro c hc
    rcases List.mem_cons.mp hc with rfl | hmem
    · decide
    · exact (name.plain_of_mem hmem).1
  have hreads := Reads.opened.append <| (Reads.word [] hname).append <|
    Reads.closed [] ('/' :: name.text.toList)
  have htag : tagOf (flush [] ('/' :: name.text.toList)) = (Piece.closing name).tokens := by
    simp [flush, tagOf, Piece.tokens]
  have htext : (Piece.closing name).html.toList = ['<'] ++ ('/' :: name.text.toList ++ ['>']) := by
    simp [Piece.html]
  rw [htext, ← htag]
  exact hreads

theorem reads_piece {piece : Piece} (hbeside : piece.isFigure = false) :
    Reads .text piece.html.toList piece.tokens .text := by
  cases piece with
  | text s =>
    apply Reads.text
    intro hlt
    exact plain_of_mem_escape hlt (by decide)
  | verbatim s hplain => exact .text hplain
  | doctype =>
    intro rest
    rfl
  | figure f => cases hbeside
  | opening name attributes => exact reads_opening name attributes
  | closing name => exact reads_closing name

/-- What is scanned of the pieces beside the figures is what all pieces stand for. -/
theorem scan_besideFigures (pieces : List Piece) : scan (html (besideFigures pieces)) = tokens pieces := by
  have hreads : Reads .text (html (besideFigures pieces)).toList (tokens pieces) .text := by
    induction pieces with
    | nil => exact .nil .text
    | cons piece rest ih =>
      cases hbeside : piece.isFigure with
      | true =>
        cases piece with
        | figure f => exact ih
        | _ => cases hbeside
      | false =>
        rw [besideFigures, List.filter_cons, if_pos (by rw [hbeside]; rfl), html_cons, String.toList_append]
        exact (reads_piece hbeside).append ih
  have hscan := hreads []
  rwa [List.append_nil, read, List.append_nil] at hscan

/-! ### Attributes -/

theorem escape_append (s t : String) : Text.escape (s ++ t) = Text.escape s ++ Text.escape t := by
  apply String.toList_inj.mp
  simp only [Text.escape, String.toList_append, String.toList_ofList, List.flatMap_append]

/-- The references that are read back, without their ampersands. -/
def references : List String :=
  ["amp;", "lt;", "gt;", "quot;", "#x27;"]

/-- Every ampersand of a text begins one of these references, so that a reader who knows others finds none of them. -/
def RefersOnly (s : String) : Prop :=
  ∀ before after, s.toList = before ++ '&' :: after → ∃ name ∈ references, name.toList <+: after

/-- A character is escaped as one reference, or it stands for itself and is no ampersand. -/
theorem escapeChar_cases (c : Char) :
    (∃ name ∈ references, '&' ∉ name.toList ∧ Text.escapeChar c = '&' :: name.toList) ∨
      '&' ∉ Text.escapeChar c := by
  unfold Text.escapeChar
  split
  case h_6 hamp _ _ _ _ => exact .inr fun hmem => hamp (List.mem_singleton.mp hmem).symm
  case h_1 => exact .inl ⟨"amp;", by decide, by decide, rfl⟩
  case h_2 => exact .inl ⟨"lt;", by decide, by decide, rfl⟩
  case h_3 => exact .inl ⟨"gt;", by decide, by decide, rfl⟩
  case h_4 => exact .inl ⟨"quot;", by decide, by decide, rfl⟩
  case h_5 => exact .inl ⟨"#x27;", by decide, by decide, rfl⟩

theorem refersOnly_escape (s : String) : RefersOnly (Text.escape s) := by
  rw [RefersOnly, Text.escape, String.toList_ofList]
  induction s.toList with
  | nil =>
    intro before after hsplit
    exact absurd (congrArg List.length hsplit) (by simp)
  | cons c rest ih =>
    intro before after hsplit
    rw [List.flatMap_cons] at hsplit
    rcases List.append_eq_append_iff.mp hsplit with ⟨later, rfl, hlater⟩ | ⟨tail, hescape, htail⟩
    · exact ih later after hlater
    · cases tail with
      | nil => exact ih [] after htail.symm
      | cons d more =>
        obtain ⟨rfl, rfl⟩ := List.cons.inj htail
        rcases escapeChar_cases c with ⟨name, hname, hplain, hreference⟩ | hnone
        · -- the ampersand of a reference is its first character
          rw [hreference] at hescape
          cases before with
          | nil => exact ⟨name, hname, (List.cons.inj hescape).2 ▸ List.prefix_append ..⟩
          | cons first others =>
            rw [(List.cons.inj hescape).2] at hplain
            exact absurd (List.mem_append_right _ List.mem_cons_self) hplain
        · rw [hescape] at hnone
          exact absurd (List.mem_append_right _ List.mem_cons_self) hnone

theorem unescapeChars_of_ne {c : Char} (hc : c ≠ '&') (rest : List Char) :
    Text.unescapeChars (c :: rest) = c :: Text.unescapeChars rest := by
  rw [Text.unescapeChars]
  all_goals
    intros
    simp_all

/-- What was escaped is read back. -/
theorem unescape_escape (s : String) : Text.unescape (Text.escape s) = s := by
  have hchars : ∀ cs : List Char, Text.unescapeChars (cs.flatMap Text.escapeChar) = cs := by
    intro cs
    induction cs with
    | nil => rfl
    | cons c rest ih =>
      rw [List.flatMap_cons]
      unfold Text.escapeChar
      split
      case h_6 hamp _ _ _ _ => exact (unescapeChars_of_ne hamp _).trans (congrArg (c :: ·) ih)
      all_goals exact congrArg (_ :: ·) ih
  rw [Text.unescape, Text.escape, String.toList_ofList, hchars, String.ofList_toList]

/-- A tag that opens an element: its name and what it says about attributes. -/
structure Tag where
  name : String
  value? : String → Option String

def Token.tag? : Token → Option Tag
  | .opening name attributes => some ⟨name, fun key => (attributes.lookup key).map Text.unescape⟩
  | _ => none

def Piece.tag? : Piece → Option Tag
  | opening name attributes =>
    some ⟨name.text, fun key => (attributes.map fun (name, value) => (name.text, value)).lookup key⟩
  | _ => none

/-- The tags that open elements, in their order. -/
def tags (tokens : List Token) : List Tag :=
  tokens.filterMap Token.tag?

theorem lookup_escaped (key : String) (attributes : List (Name × String)) :
    ((attributes.map fun (name, value) => (name.text, Text.escape value)).lookup key).map Text.unescape =
      (attributes.map fun (name, value) => (name.text, value)).lookup key := by
  induction attributes with
  | nil => rfl
  | cons first rest ih =>
    simp only [List.map_cons, List.lookup_cons]
    cases key == first.1.text with
    | true => exact congrArg some (unescape_escape first.2)
    | false => exact ih

theorem tags_chars (cs : List Char) : tags (cs.map Token.char) = [] := by
  rw [tags, List.filterMap_map, List.filterMap_eq_nil_iff]
  intro c _
  rfl

theorem tags_piece (piece : Piece) : tags piece.tokens = piece.tag?.toList := by
  cases piece with
  | text s => exact tags_chars _
  | verbatim s hplain => exact tags_chars _
  | opening name attributes =>
    have hvalue : (fun key =>
        ((attributes.map fun (name, value) => (name.text, Text.escape value)).lookup key).map Text.unescape) =
        fun key => (attributes.map fun (name, value) => (name.text, value)).lookup key := by
      funext key
      exact lookup_escaped key attributes
    show [Tag.mk name.text _] = [Tag.mk name.text _]
    rw [hvalue]
  | _ => rfl

/-- A tag says about its attributes what was written. -/
theorem tags_tokens (pieces : List Piece) : tags (tokens pieces) = pieces.filterMap Piece.tag? := by
  induction pieces with
  | nil => rfl
  | cons piece rest ih =>
    have happend : tags (tokens (piece :: rest)) = tags piece.tokens ++ tags (tokens rest) := by
      rw [tokens, List.flatMap_cons, tags, List.filterMap_append]
      rfl
    rw [happend, tags_piece, ih, List.filterMap_cons]
    cases piece.tag? <;> rfl

end CodecReport.Markup
