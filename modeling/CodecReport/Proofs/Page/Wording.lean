import CodecReport.Proofs.Page.Links
import CodecReport.Proofs.Panel.Wording

/-!
# What a page says

Read back from a page, the heading and the title, the names of the datasets, the warnings, the plugins and the
codecs are the texts that the page was made from, whatever characters are in them. The elements of a page are
fixed by the numbers of its document: no text can add one or take one away.
-/

namespace CodecReport.Page

open Markup

/-! ### Elements of the frame -/

/-- The names of the elements and attributes around the body of a page, the title left out. -/
def frameWords : List Name :=
  [.html, .head, .metaData, .charset, .style, .body, .script, .src]

theorem speaks_libraryPieces (mode : String) : Speaks frameWords (libraryPieces mode) := by
  rw [libraryPieces]
  split
  next => exact .element (by decide) (by simp) (fun _ hword => absurd hword List.not_mem_nil)
  next => exact .element (by decide) (by simp [frameWords]) .nil

theorem yields_intercalate {name : Name} {parts : List (List Piece)} {founds : List (List Element)}
    (hparts : List.Forall₂ (Yields name) parts founds) :
    Yields name ([lineFeed].intercalate parts) founds.flatten := by
  induction hparts with
  | nil => exact .nil
  | @cons part found rest more hpart hrest ih =>
    cases hrest with
    | nil => simpa using hpart
    | cons =>
      rw [List.intercalate_cons_cons]
      have hfeed : Yields name [lineFeed] [] := .of_not_mem List.not_mem_nil
      have hall := (hpart.append hfeed).append ih
      rwa [List.append_nil] at hall

/-- An element of a page is its title or is found in its body. -/
theorem yields_framePieces {name : Name} (hname : name ∉ frameWords) {title : String} {library body : List Piece}
    {inTitle inBody : List Element} (hlibrary : Speaks frameWords library)
    (htitle : Yields name (element .title [] [.text title]) inTitle) (hbody : Yields name body inBody)
    {styleText scriptText : String} (hstyle : '<' ∉ styleText.toList) (hscript : '<' ∉ scriptText.toList) :
    Yields name (framePieces title library body hstyle hscript) (inTitle ++ inBody) := by
  have hlibraryName : name ∉ words library := hlibrary.not_mem hname
  simp only [frameWords, List.mem_cons, List.not_mem_nil, or_false, not_or] at hname
  obtain ⟨hhtml, hheadName, hmeta, hcharset, hstyleName, hbodyName, hscriptName, _⟩ := hname
  have hfeed : name ∉ lineFeed.words := List.not_mem_nil
  have hend : name ∉ words [lineFeed] := List.not_mem_nil
  have hcharsetTag : name ∉ Piece.words (.opening .metaData [(.charset, "utf-8")]) := by
    simp [Piece.words, hmeta, hcharset]
  have hstyleElement : name ∉ words (lineFeed :: element .style [] [.verbatim styleText hstyle]) := by
    simp [Piece.words, lineFeed, hstyleName]
  have hscriptElement : name ∉ words (lineFeed :: element .script [] [.verbatim scriptText hscript]) := by
    simp [Piece.words, lineFeed, hscriptName]
  have hopened : Yields name (lineFeed :: .opening .metaData [(.charset, "utf-8")] :: lineFeed ::
      element .title [] [.text title]) inTitle :=
    .behind hfeed (.behind hcharsetTag (.behind hfeed htitle))
  have hhead : Yields name (element .head []
      (lineFeed :: .opening .metaData [(.charset, "utf-8")] :: lineFeed ::
        element .title [] [.text title] ++ lineFeed :: library ++ lineFeed ::
        element .style [] [.verbatim styleText hstyle] ++ [lineFeed])) inTitle :=
    .around (Ne.symm hheadName) (.ahead (.ahead (.ahead hopened hlibraryName) hstyleElement) hend)
  have hrest : Yields name (element .body []
      (lineFeed :: body ++ lineFeed :: element .script [] [.verbatim scriptText hscript] ++ [lineFeed])) inBody :=
    .around (Ne.symm hbodyName) (.ahead (.ahead (.behind hfeed hbody) hscriptElement) hend)
  refine .ahead (.behind List.not_mem_nil (.behind hfeed (.around (Ne.symm hhtml) (.ahead ?_ hend)))) hend
  exact .append (.behind hfeed hhead) (.behind hfeed hrest)

theorem yields_documentPieces {name : Name} (hname : name ∉ frameWords) (hother : name ≠ .title)
    (title mode : String) {parts : List (List Piece)} {founds : List (List Element)}
    (hparts : List.Forall₂ (Yields name) parts founds) :
    Yields name (documentPieces title parts mode) founds.flatten :=
  yields_framePieces hname (speaks_libraryPieces mode) (.of_not_mem (by simp [Piece.words, hother]))
    (yields_intercalate hparts) _ _

theorem yields_title (title mode : String) {parts : List (List Piece)}
    (hparts : ∀ part ∈ parts, Name.title ∉ words part) :
    Yields .title (documentPieces title parts mode) [elementOf .title [] [.text title]] := by
  have htitle : Yields .title (element .title [] [.text title]) [elementOf .title [] [.text title]] :=
    .element List.not_mem_nil
  have hbody : Yields .title ([lineFeed].intercalate parts) (parts.map fun _ => []).flatten := by
    apply yields_intercalate
    rw [List.forall₂_map_right_iff, List.forall₂_same]
    exact fun part hpart => .of_not_mem (hparts part hpart)
  have hpage := yields_framePieces (by decide) (speaks_libraryPieces mode) htitle hbody lt_not_mem_style
    lt_not_mem_script
  rw [documentPieces]
  simpa using hpage

/-- What is read of pieces one after the other, and not of a line feed, is read of the parts of a body. -/
theorem read_intercalate {α : Type} {f : List Piece → List α} (hnil : f [] = []) (hfeed : f [lineFeed] = [])
    (happend : ∀ pieces more, f (pieces ++ more) = f pieces ++ f more) (parts : List (List Piece)) :
    f ([lineFeed].intercalate parts) = parts.flatMap f := by
  induction parts with
  | nil => exact hnil
  | cons part rest ih =>
    cases rest with
    | nil => simp
    | cons next more =>
      rw [List.intercalate_cons_cons, happend, happend, ih, hfeed, List.append_nil]
      rfl

theorem valuesOf_documentPieces (title mode : String) (parts : List (List Piece)) :
    valuesOf .dataDataset (documentPieces title parts mode) = parts.flatMap (valuesOf .dataDataset) := by
  have hlibrary : valuesOf .dataDataset (libraryPieces mode) = [] :=
    valuesOf_of_not_mem ((speaks_libraryPieces mode).not_mem (by decide))
  rw [← read_intercalate (valuesOf_nil _) rfl (valuesOf_append _)]
  simp [documentPieces, framePieces, lineFeed, hlibrary, List.lookup_cons]

/-- The elements of a page are those of its library and its body, whatever its title is. -/
theorem shape_documentPieces (title other mode : String) {parts more : List (List Piece)}
    (hparts : parts.flatMap shape = more.flatMap shape) :
    shape (documentPieces title parts mode) = shape (documentPieces other more mode) := by
  have hbody : shape ([lineFeed].intercalate parts) = shape ([lineFeed].intercalate more) := by
    rw [read_intercalate shape_nil rfl shape_append, read_intercalate shape_nil rfl shape_append, hparts]
  have hfeed : ∀ rest, shape (lineFeed :: rest) = shape rest := fun _ => rfl
  simp [documentPieces, framePieces, hfeed, hbody]

/-! ### Parts of a body -/

theorem speaks_headingPieces (title : String) : Speaks [.h1] (headingPieces title) :=
  .element (by decide) (by simp) (.text title .nil)

/-- The names of the elements and attributes of the form. -/
def formWords : List Name :=
  [.form, .id, .onsubmit, .label, .labelFor, .input, .inputType, .inputName, .inputValue]

theorem speaks_formPieces (address : Option String) : Speaks formWords (formPieces address) := by
  have hprefill : ∀ entry ∈ prefillEntry address, entry.1 = .inputValue := by
    intro entry hentry
    rcases address with _ | address
    · exact absurd hentry List.not_mem_nil
    · rw [prefillEntry] at hentry
      split at hentry
      next => exact absurd hentry List.not_mem_nil
      next => rw [List.mem_singleton.mp hentry]
  have hinput : Speaks formWords [.text " ", .opening .input
      ([(.inputType, "email"), (.id, "announce-email"), (.inputName, "email")] ++ prefillEntry address)] := by
    apply Speaks.text
    intro word hword
    simp only [words_cons, words_nil, Piece.words, List.append_nil, List.mem_cons, List.mem_map,
      List.cons_append, List.nil_append, List.map_cons] at hword
    rcases hword with rfl | rfl | rfl | rfl | hentry
    iterate 4 decide
    obtain ⟨entry, hentry, rfl⟩ := hentry
    rw [hprefill entry hentry]
    decide
  refine .element (by decide) (by simp [formWords]) (.append ?_ hinput)
  exact .element (by decide) (by simp [formWords]) (.text _ .nil)

theorem speaks_navigationItems (book : Workbook) :
    Speaks [.li, .a, .href] (book.flatMap fun (name, sheet) => navigationItem name sheet.id) := by
  refine .flatMap fun entry _ => ?_
  exact .element (by decide) (by simp) (.element (by decide) (by simp) (.text _ .nil))

theorem speaks_navigationPieces (book : Workbook) : Speaks [.ul, .id, .li, .a, .href] (navigationPieces book) :=
  .element (by decide) (by simp) ((speaks_navigationItems book).mono (by decide))

theorem speaks_failurePieces (text : String) : Speaks [.p, .cssClass] (failurePieces text) :=
  .element (by decide) (by simp) (.text text .nil)

theorem speaks_resultsPieces {allowed : List Name} {results : List Piece} (hresults : Speaks allowed results) :
    Speaks (.div :: .id :: allowed) (resultsPieces results) :=
  .element (by simp) (by simp) (hresults.mono (by simp +contextual))

theorem yields_navigation (book : Workbook) : Yields .a (navigationPieces book)
    (book.map fun (name, sheet) => elementOf .a [(.href, "#" ++ sheet.id)] [.text name]) := by
  apply Yields.around (by decide)
  rw [List.map_eq_flatMap]
  apply Yields.flatMap
  intro entry _
  exact .around (by decide) (.element List.not_mem_nil)

/-! ### The whole page -/

section Whole

variable {book : Workbook} {setup : Setup}

/-- An element of a page is found in its heading, its list of datasets or its results. -/
theorem yields_pieces {name : Name} (hframe : name ∉ frameWords) (htitle : name ≠ .title)
    (hform : name ∉ formWords) {inHeading inNavigation inResults : List Element}
    (hheading : Yields name (headingPieces setup.title) inHeading)
    (hnavigation : Yields name (navigationPieces book) inNavigation)
    (hresults : Yields name (resultsPieces (setup.resultPieces book)) inResults) :
    Yields name (setup.pieces book)
      (inHeading ++ (if 1 < book.length then inNavigation else []) ++ inResults) := by
  have hblank : Yields name (formPieces setup.address) [] := .of_not_mem ((speaks_formPieces _).not_mem hform)
  rw [Setup.pieces]
  split
  next =>
    have hparts := List.Forall₂.cons hheading (.cons hblank (.cons hnavigation (.cons hresults .nil)))
    simpa using yields_documentPieces hframe htitle setup.title setup.mode hparts
  next =>
    have hparts := List.Forall₂.cons hheading (.cons hblank (.cons hresults .nil))
    simpa using yields_documentPieces hframe htitle setup.title setup.mode hparts

theorem yields_resultPieces {name : Name} (hname : name ∉ [.p, .cssClass])
    {inEntry : String × Sheet → List Element}
    (hentries : ∀ entry ∈ book, Yields name (setup.entryPieces book entry) (inEntry entry)) :
    Yields name (setup.resultPieces book) (book.flatMap inEntry) := by
  rw [Setup.resultPieces]
  split
  next hempty =>
    rw [List.isEmpty_iff.mp hempty]
    exact .of_not_mem ((speaks_failurePieces emptyText).not_mem hname)
  next => exact .flatMap hentries

variable (hsheets : ∀ entry ∈ book, entry.2.dataset.results = .ok entry.2.table)
include hsheets

/-- The names of the elements and attributes of the results. -/
def resultWords : List Name :=
  [.p, .cssClass] ++ Board.panelWords

theorem speaks_resultPieces : Speaks resultWords (setup.resultPieces book) := by
  rw [Setup.resultPieces]
  split
  next => exact (speaks_failurePieces emptyText).mono (by decide)
  next => exact .flatMap fun entry hentry => (Board.speaks_panelPieces (hsheets entry hentry) _).mono (by decide)

theorem speaks_results : Speaks (.div :: .id :: resultWords) (resultsPieces (setup.resultPieces book)) :=
  speaks_resultsPieces (speaks_resultPieces hsheets)

theorem yields_title_pieces : Yields .title (setup.pieces book) [elementOf .title [] [.text setup.title]] := by
  apply yields_title
  intro part hpart
  simp only [List.mem_append, List.mem_cons, List.not_mem_nil, or_false] at hpart
  rcases hpart with ((rfl | rfl) | hnavigation) | rfl
  · exact (speaks_headingPieces setup.title).not_mem (by decide)
  · exact (speaks_formPieces setup.address).not_mem (by decide)
  · split at hnavigation
    next =>
      rw [List.mem_singleton.mp hnavigation]
      exact (speaks_navigationPieces book).not_mem (by decide)
    next => exact absurd hnavigation List.not_mem_nil
  · exact (speaks_results hsheets).not_mem (by decide)

theorem yields_heading_pieces : Yields .h1 (setup.pieces book) [elementOf .h1 [] [.text setup.title]] := by
  have hheading : Yields .h1 (headingPieces setup.title) [elementOf .h1 [] [.text setup.title]] :=
    .element List.not_mem_nil
  have hpage := yields_pieces (by decide) (by decide) (by decide) hheading
    (.of_not_mem ((speaks_navigationPieces book).not_mem (by decide)))
    (.of_not_mem ((speaks_results hsheets).not_mem (by decide)))
  simpa using hpage

theorem yields_links : Yields .a (setup.pieces book)
    (if 1 < book.length then
      book.map fun (name, sheet) => elementOf .a [(.href, "#" ++ sheet.id)] [.text name] else []) := by
  have hpage := yields_pieces (by decide) (by decide) (by decide)
    (.of_not_mem ((speaks_headingPieces setup.title).not_mem (by decide))) (yields_navigation book)
    (.of_not_mem ((speaks_results hsheets).not_mem (by decide)))
  simpa using hpage

omit hsheets in
variable (setup) in
theorem yields_results {name : Name} (hname : name ∉ [.div, .p, .cssClass])
    {inEntry : String × Sheet → List Element}
    (hentries : ∀ entry ∈ book, Yields name (setup.entryPieces book entry) (inEntry entry)) :
    Yields name (resultsPieces (setup.resultPieces book)) (book.flatMap inEntry) := by
  obtain ⟨hdiv, hrest⟩ := not_or.mp (List.mem_cons.not.mp hname)
  exact .around (Ne.symm hdiv) (yields_resultPieces hrest hentries)

theorem yields_panelHeadings : Yields .h2 (setup.pieces book)
    (book.flatMap fun (name, _) => [elementOf .h2 [] [.text name, .text " Results"]]) := by
  have hresults := yields_results setup (by decide : Name.h2 ∉ _)
    fun entry hentry => Board.yields_heading (hsheets entry hentry) _
  have hpage := yields_pieces (by decide) (by decide) (by decide)
    (.of_not_mem ((speaks_headingPieces setup.title).not_mem (by decide)))
    (.of_not_mem ((speaks_navigationPieces book).not_mem (by decide))) hresults
  simpa using hpage

variable (setup) in
/-- The lists of a page are that of its datasets, if there is one, and those of warnings. -/
theorem yields_lists : ∃ inNavigation, (∀ found ∈ inNavigation, found.tag.value? "class" = none) ∧
    Yields .ul (setup.pieces book)
      (inNavigation ++ book.flatMap fun (_, sheet) => Board.warningLists sheet.table.warnings) := by
  have hresults := yields_results setup (by decide : Name.ul ∉ _)
    fun entry hentry => Board.yields_warnings (hsheets entry hentry) _
  have hnavigation : Yields .ul (navigationPieces book) [elementOf .ul [(.id, "datasets-list")]
      (book.flatMap fun (name, sheet) => navigationItem name sheet.id)] :=
    .element ((speaks_navigationItems book).not_mem (by decide))
  have hpage := yields_pieces (by decide) (by decide) (by decide)
    (.of_not_mem ((speaks_headingPieces setup.title).not_mem (by decide))) hnavigation hresults
  refine ⟨_, ?_, by simpa using hpage⟩
  intro found hfound
  split at hfound
  next =>
    rw [List.mem_singleton.mp hfound]
    rfl
  next => exact absurd hfound List.not_mem_nil

theorem yields_bodies (hworking : ∀ visual, setup.board.broken visual = none) :
    Yields .tbody (setup.pieces book)
      (book.flatMap fun (_, sheet) => [elementOf .tbody [] (sheet.dataset.bodyPieces
        ((highlightRows setup.keys sheet.dataset).rows sheet.table.rowCount))]) := by
  have hresults := yields_results setup (by decide : Name.tbody ∉ _)
    fun entry hentry => Board.yields_rows (hsheets entry hentry) _ hworking
  have hpage := yields_pieces (by decide) (by decide) (by decide)
    (.of_not_mem ((speaks_headingPieces setup.title).not_mem (by decide)))
    (.of_not_mem ((speaks_navigationPieces book).not_mem (by decide))) hresults
  simpa using hpage

theorem valuesOf_datasets : valuesOf .dataDataset (setup.pieces book) = book.names := by
  have hheading : valuesOf .dataDataset (headingPieces setup.title) = [] :=
    valuesOf_of_not_mem ((speaks_headingPieces setup.title).not_mem (by decide))
  have hform : valuesOf .dataDataset (formPieces setup.address) = [] :=
    valuesOf_of_not_mem ((speaks_formPieces setup.address).not_mem (by decide))
  have hnavigation : valuesOf .dataDataset (navigationPieces book) = [] :=
    valuesOf_of_not_mem ((speaks_navigationPieces book).not_mem (by decide))
  have hentries : valuesOf .dataDataset (setup.resultPieces book) = book.names := by
    rw [Setup.resultPieces]
    split
    next hempty =>
      rw [List.isEmpty_iff.mp hempty]
      exact valuesOf_of_not_mem ((speaks_failurePieces emptyText).not_mem (by decide))
    next =>
      have hentry : ∀ entry ∈ book, valuesOf .dataDataset (setup.entryPieces book entry) = [entry.1] :=
        fun entry hentry => Board.valuesOf_dataset (hsheets entry hentry) _
      rw [valuesOf_flatMap hentry]
      exact (List.map_eq_flatMap ..).symm
  have hresults : valuesOf .dataDataset (resultsPieces (setup.resultPieces book)) = book.names := by
    rw [resultsPieces, valuesOf_element, hentries]
    rfl
  rw [Setup.pieces, valuesOf_documentPieces]
  split <;> simp [hheading, hform, hnavigation, hresults]

end Whole

/-! ### Reading a page -/

/-- The cells of the results tables, table by table and row by row. -/
def tableTexts (page : List Token) : List (List (List String)) :=
  (elements "tbody" page).map fun body => Dataset.cellTexts body.content

/-- What a page of a workbook says, as it is read. -/
structure Says (book : Workbook) (title : String) (page : List Token) : Prop where
  head : texts "title" page = [title]
  heading : texts "h1" page = [title]
  panelHeadings : texts "h2" page = book.names.map (· ++ " Results")
  panels : attributeValues "data-dataset" page = book.names
  links : texts "a" page = if 1 < book.length then book.names else []
  warnings : Board.warningTexts page =
    (book.map fun (_, sheet) => sheet.table.warnings.map NonFiniteCell.text).filter (· ≠ [])
  tables : tableTexts page = book.map fun (_, sheet) => sheet.dataset.records.map sheet.dataset.rowWords

section Reading

variable {book : Workbook} {setup : Setup}

theorem texts_of_yields {name : Name} {pieces : List Piece} {found : List Element} (h : Yields name pieces found) :
    texts name.text (tokens pieces) = found.map Element.text := by
  rw [texts, h.elements_eq]

theorem says_pieces (hsheets : ∀ entry ∈ book, entry.2.dataset.results = .ok entry.2.table)
    (hworking : ∀ visual, setup.board.broken visual = none) :
    Says book setup.title (tokens (setup.pieces book)) where
  head := by
    rw [show "title" = Name.title.text from rfl, texts_of_yields (yields_title_pieces hsheets), List.map_singleton,
      text_elementOf_text]
  heading := by
    rw [show "h1" = Name.h1.text from rfl, texts_of_yields (yields_heading_pieces hsheets), List.map_singleton,
      text_elementOf_text]
  panelHeadings := by
    have htext : ∀ name : String, (elementOf .h2 [] [.text name, .text " Results"]).text = name ++ " Results" := by
      intro name
      have hjoined := text_elementOf .h2 [] [name, " Results"]
      rwa [String.join_cons, String.join_cons, String.join_nil, String.append_empty] at hjoined
    rw [show "h2" = Name.h2.text from rfl, texts_of_yields (yields_panelHeadings hsheets), ← List.map_eq_flatMap,
      List.map_map, Workbook.names, Entries.keys, List.map_map]
    exact List.map_congr_left fun entry _ => htext entry.1
  panels := by
    rw [show "data-dataset" = Name.dataDataset.text from rfl, attributeValues_tokens, valuesOf_datasets hsheets]
  links := by
    rw [show "a" = Name.a.text from rfl, texts_of_yields (yields_links hsheets)]
    split
    next =>
      rw [List.map_map, Workbook.names, Entries.keys]
      exact List.map_congr_left fun entry _ => text_elementOf_text .a _ entry.1
    next => rfl
  warnings := by
    obtain ⟨others, hothers, hlists⟩ := yields_lists setup hsheets
    have hall : Yields .ul (setup.pieces book)
        (others ++ (book.map fun (_, sheet) => sheet.table.warnings).flatMap Board.warningLists) := by
      rwa [List.flatMap_map]
    rw [Board.warningTexts_of_yields hothers hall, List.map_map]
    rfl
  tables := by
    rw [tableTexts, show "tbody" = Name.tbody.text from rfl, (yields_bodies hsheets hworking).elements_eq,
      ← List.map_eq_flatMap, List.map_map]
    exact List.map_congr_left fun entry _ => entry.2.dataset.cellTexts_bodyPieces _

end Reading

/-! ### The shape of a page -/

section Shapes

theorem shape_formPieces (address other : Option String) :
    shape (formPieces address) = shape (formPieces other) := by
  simp [formPieces]

theorem shape_resultsPieces {results more : List Piece} (h : shape results = shape more) :
    shape (resultsPieces results) = shape (resultsPieces more) := by
  rw [resultsPieces, resultsPieces, shape_element, shape_element, h]

/-- Two entries of workbooks whose datasets have the same numbers. -/
def SameNumbers (entry other : String × Sheet) : Prop :=
  entry.2.dataset.SameNumbers other.2.dataset

variable {book other : Workbook} {setup changed : Setup}

theorem shape_navigationPieces (hsame : List.Forall₂ SameNumbers book other) :
    shape (navigationPieces book) = shape (navigationPieces other) := by
  have hitems : shape (book.flatMap fun (name, sheet) => navigationItem name sheet.id) =
      shape (other.flatMap fun (name, sheet) => navigationItem name sheet.id) :=
    shape_flatMap_of_forall₂ (hsame.imp fun _ _ _ => rfl)
  rw [navigationPieces, navigationPieces, shape_element, shape_element, hitems]

theorem shape_pieces (hsame : List.Forall₂ SameNumbers book other)
    (hsheets : ∀ entry ∈ book, entry.2.dataset.results = .ok entry.2.table)
    (hothers : ∀ entry ∈ other, entry.2.dataset.results = .ok entry.2.table)
    (hworking : ∀ visual, setup.board.broken visual = none)
    (hchanged : ∀ visual, changed.board.broken visual = none)
    (hmode : changed.mode = setup.mode) (hheight : changed.board.height = setup.board.height) :
    shape (changed.pieces other) = shape (setup.pieces book) := by
  have hlength : other.length = book.length := hsame.length_eq.symm
  have hentries : shape (other.flatMap (changed.entryPieces other)) =
      shape (book.flatMap (setup.entryPieces book)) := by
    apply Eq.symm
    apply shape_flatMap_of_forall₂
    rw [List.forall₂_iff_get] at hsame ⊢
    refine ⟨hsame.1, fun index hindex hother => ?_⟩
    exact (Board.shape_panelPieces (hsame.2 index hindex hother) (hsheets _ (List.get_mem ..))
      (hothers _ (List.get_mem ..)) hworking hchanged hheight _ _).symm
  have hresults : shape (changed.resultPieces other) = shape (setup.resultPieces book) := by
    have hempty : other.isEmpty = book.isEmpty := by
      rw [Bool.eq_iff_iff, List.isEmpty_iff_length_eq_zero, List.isEmpty_iff_length_eq_zero, hlength]
    rw [Setup.resultPieces, Setup.resultPieces, hempty]
    split
    next => rfl
    next => exact hentries
  rw [Setup.pieces, Setup.pieces, hmode]
  apply shape_documentPieces
  have hheading : shape (headingPieces changed.title) = shape (headingPieces setup.title) := rfl
  rw [hlength]
  split
  next =>
    simp [hheading, shape_formPieces changed.address setup.address, shape_navigationPieces hsame,
      shape_resultsPieces hresults]
  next =>
    simp [hheading, shape_formPieces changed.address setup.address, shape_resultsPieces hresults]

end Shapes

/-! ### The page of a failure -/

/-- The pieces of a page that tells why there are no results. -/
def errorPieces (title : String) (address : Option String) (mode message : String) : List Piece :=
  documentPieces title
    [headingPieces title, formPieces address,
      resultsPieces (failurePieces ("Unable to load benchmark results: " ++ message))] mode

theorem html_errorPieces (title : String) (address : Option String) (mode message : String) :
    Markup.html (errorPieces title address mode message) = document title
      [headingHtml title, formHtml address,
        resultsHtml (failureHtml ("Unable to load benchmark results: " ++ Text.escape message))] mode := by
  have hprefix : Text.escape "Unable to load benchmark results: " = "Unable to load benchmark results: " :=
    Text.escape_ofList (by decide)
  simp only [errorPieces, html_documentPieces, List.map_cons, List.map_nil, html_headingPieces, html_formPieces,
    html_resultsPieces, html_failurePieces, escape_append, hprefix]

theorem ofFailure_eq_ok {message html : String} {config : Value} (hok : ofFailure message config = .ok html) :
    ∃ page title address mode, settings config = .ok page ∧ Page.title page = .ok title ∧
      prefill page = .ok address ∧ libraryMode page = .ok mode ∧
      html = Markup.html (errorPieces title address mode message) := by
  rw [ofFailure] at hok
  obtain ⟨page, hpage, hok⟩ := bind_eq_ok_iff.mp hok
  obtain ⟨title, htitle, hok⟩ := bind_eq_ok_iff.mp hok
  obtain ⟨address, haddress, hok⟩ := bind_eq_ok_iff.mp hok
  obtain ⟨mode, hmode, hresult⟩ := bind_eq_ok_iff.mp hok
  refine ⟨page, title, address, mode, hpage, htitle, haddress, hmode, ?_⟩
  rw [html_errorPieces]
  exact (Except.ok.inj hresult).symm

theorem besideFigures_errorPieces (title : String) (address : Option String) (mode message : String) :
    besideFigures (errorPieces title address mode message) = errorPieces title address mode message := by
  rw [errorPieces, documentPieces, libraryPieces]
  split <;> rfl

theorem scan_errorPieces (title : String) (address : Option String) (mode message : String) :
    scan (Markup.html (errorPieces title address mode message)) = tokens (errorPieces title address mode message) := by
  have hscan := scan_besideFigures (errorPieces title address mode message)
  rwa [besideFigures_errorPieces] at hscan

/-- The page of a failure has the title twice and one sentence with the message. -/
theorem texts_errorPieces (title : String) (address : Option String) (mode message : String) :
    let page := tokens (errorPieces title address mode message)
    texts "title" page = [title] ∧ texts "h1" page = [title] ∧
      texts "p" page = ["Unable to load benchmark results: " ++ message] := by
  intro page
  have hfailure := speaks_resultsPieces (speaks_failurePieces ("Unable to load benchmark results: " ++ message))
  have htitle : Yields .title (errorPieces title address mode message) [elementOf .title [] [.text title]] := by
    apply yields_title
    intro part hpart
    simp only [List.mem_cons, List.not_mem_nil, or_false] at hpart
    rcases hpart with rfl | rfl | rfl
    · exact (speaks_headingPieces title).not_mem (by decide)
    · exact (speaks_formPieces address).not_mem (by decide)
    · exact hfailure.not_mem (by decide)
  have hheading : Yields .h1 (errorPieces title address mode message) [elementOf .h1 [] [.text title]] :=
    yields_documentPieces (by decide) (by decide) title mode
      (.cons (.element List.not_mem_nil) (.cons (.of_not_mem ((speaks_formPieces address).not_mem (by decide)))
        (.cons (.of_not_mem (hfailure.not_mem (by decide))) .nil)))
  have hsentence : Yields .p (errorPieces title address mode message)
      [elementOf .p [(.cssClass, "load-error")] [.text ("Unable to load benchmark results: " ++ message)]] :=
    yields_documentPieces (by decide) (by decide) title mode
      (.cons (.of_not_mem ((speaks_headingPieces title).not_mem (by decide)))
        (.cons (.of_not_mem ((speaks_formPieces address).not_mem (by decide)))
          (.cons (.around (by decide) (.element List.not_mem_nil)) .nil)))
  refine ⟨?_, ?_, ?_⟩
  · rw [show "title" = Name.title.text from rfl, texts_of_yields htitle, List.map_singleton, text_elementOf_text]
  · rw [show "h1" = Name.h1.text from rfl, texts_of_yields hheading, List.map_singleton, text_elementOf_text]
  · rw [show "p" = Name.p.text from rfl, texts_of_yields hsentence, List.map_singleton, text_elementOf_text]

theorem shape_errorPieces (title other : String) (address given : Option String) (mode message text : String) :
    shape (errorPieces title address mode message) = shape (errorPieces other given mode text) := by
  apply shape_documentPieces
  have hheading : shape (headingPieces title) = shape (headingPieces other) := rfl
  simp [hheading, shape_formPieces address given, resultsPieces, failurePieces]

/-! ### Texts are no markup -/

/-- The tags of a page beside its figures. -/
def skeleton (pieces : List Piece) : List String :=
  tagNames (scan (Markup.html (besideFigures pieces)))

theorem skeleton_eq (pieces : List Piece) : skeleton pieces = (shape pieces).map markName := by
  rw [skeleton, scan_besideFigures, tagNames_tokens]

theorem working_of_setBy {book : Workbook} {config : Value} {setup : Setup} (h : SetBy book config setup) :
    (∀ visual, setup.board.broken visual = none) ∧ setup.board.aspect = Board.defaultAspect := by
  obtain ⟨page, _, _, _, _, _, hboard, _⟩ := h
  rw [Page.board] at hboard
  obtain ⟨width, _, hresult⟩ := bind_eq_ok_iff.mp hboard
  split at hresult
  next =>
    rw [← Except.ok.inj hresult]
    exact ⟨fun _ => rfl, rfl⟩
  next => cases hresult

theorem rowWords_of_datasets {document : Document} {book : Workbook}
    (hdatasets : (book.map fun (name, sheet) => (name, sheet.dataset)) = document) :
    (book.map fun (_, sheet) => sheet.dataset.records.map sheet.dataset.rowWords) =
      document.map fun (_, ds) => ds.records.map ds.rowWords := by
  rw [← hdatasets, List.map_map]
  rfl

/-- Where a document has a workbook, so has every document with the same numbers. -/
theorem exists_ofDocument_of_sameNumbers {document other : Document} {book : Workbook}
    (hbook : Workbook.ofDocument document = .ok book)
    (hsame : List.Forall₂ (fun entry changed => entry.2.SameNumbers changed.2) document other) :
    ∃ changed, Workbook.ofDocument other = .ok changed := by
  have hwithin := Workbook.exists_ofDocument_iff.mp ⟨book, hbook⟩
  apply Workbook.exists_ofDocument_iff.mpr
  clear hbook
  induction hsame with
  | nil => exact fun _ hentry => absurd hentry List.not_mem_nil
  | cons hnumbers _ ih =>
    obtain ⟨hfirst, hrest⟩ := List.forall_mem_cons.mp hwithin
    obtain ⟨table, htable⟩ := Dataset.exists_results_iff.mpr hfirst
    exact List.forall_mem_cons.mpr ⟨Dataset.exists_results_iff.mp (hnumbers.exists_results htable), ih hrest⟩

/-- Whatever characters are in the texts of a document, in the title of its page and in the message about a
failure: what is read from the page are these texts, each in its element, and other texts do not change the
elements. -/
theorem ofWorkbook_wording {document : Document} {book : Workbook} (hnames : (Entries.keys document).Nodup)
    (hbook : Workbook.ofDocument document = .ok book) :
    (book.map fun (name, sheet) => (name, sheet.dataset)) = document ∧
    (∀ config onPanel session html, (Act.runOn session (ofWorkbook book config onPanel)).1 = .ok html →
      ∃ setup, SetBy book config setup ∧ html = Markup.html (setup.pieces book) ∧
        Says book setup.title (scan (Markup.html (besideFigures (setup.pieces book))))) ∧
    (∀ other : Document, List.Forall₂ (fun entry changed => entry.2.SameNumbers changed.2) document other →
      ∃ changed, Workbook.ofDocument other = .ok changed ∧
        ∀ config config' setup setup', SetBy book config setup → SetBy changed config' setup' →
          setup'.mode = setup.mode → setup'.board.width = setup.board.width →
          skeleton (setup'.pieces changed) = skeleton (setup.pieces book)) ∧
    (∀ config message html, ofFailure message config = .ok html →
      ∃ page title address mode, settings config = .ok page ∧ Page.title page = .ok title ∧
        prefill page = .ok address ∧ libraryMode page = .ok mode ∧
        html = Markup.html (errorPieces title address mode message) ∧
        texts "title" (scan html) = [title] ∧ texts "h1" (scan html) = [title] ∧
        texts "p" (scan html) = ["Unable to load benchmark results: " ++ message] ∧
        ∀ other text,
          tagNames (scan (Markup.html (errorPieces other address mode text))) = tagNames (scan html)) := by
  have hsheets := Workbook.forall₂_isSheetOf hbook
  obtain ⟨hdatasets, hresults⟩ := Workbook.results_of_isSheetOf hsheets
  refine ⟨hdatasets, ?_, ?_, ?_⟩
  · intro config onPanel session html hok
    obtain ⟨setup, hset, hhtml⟩ := pieces_of_ofWorkbook (.of_document hnames hbook) hok
    refine ⟨setup, hset, hhtml, ?_⟩
    rw [scan_besideFigures]
    exact says_pieces hresults (working_of_setBy hset).1
  · intro other hsame
    obtain ⟨changed, hchanged⟩ := exists_ofDocument_of_sameNumbers hbook hsame
    obtain ⟨hchangedDatasets, hothers⟩ := Workbook.results_of_isSheetOf (Workbook.forall₂_isSheetOf hchanged)
    refine ⟨changed, hchanged, ?_⟩
    intro config config' setup setup' hset hset' hmode hwidth
    have hheight : setup'.board.height = setup.board.height := by
      rw [Board.height, Board.height, hwidth, (working_of_setBy hset).2, (working_of_setBy hset').2]
    have hentries : List.Forall₂ SameNumbers book changed := by
      rw [← hdatasets, ← hchangedDatasets, List.forall₂_map_left_iff, List.forall₂_map_right_iff] at hsame
      exact hsame
    rw [skeleton_eq, skeleton_eq, shape_pieces hentries hresults hothers (working_of_setBy hset).1
      (working_of_setBy hset').1 hmode hheight]
  · intro config message html hok
    obtain ⟨page, title, address, mode, hpage, htitle, haddress, hmode, rfl⟩ := ofFailure_eq_ok hok
    obtain ⟨hhead, hheading, hsentence⟩ := texts_errorPieces title address mode message
    refine ⟨page, title, address, mode, hpage, htitle, haddress, hmode, rfl, ?_⟩
    rw [scan_errorPieces]
    refine ⟨hhead, hheading, hsentence, fun other text => ?_⟩
    rw [scan_errorPieces, tagNames_tokens, tagNames_tokens, shape_errorPieces other title address address mode text]

/-- A document whose texts are written like markup. -/
def markedUp : Document :=
  [("<b>&\"x\"", {
    name := "<b>&\"x\""
    uncompressedSize := Double.ofInt 300
    records := [⟨"</td>", "a & b's", Double.ofInt 100, Double.ofInt 0, Double.ofInt 1, none, none⟩] })]

theorem ofWorkbook_wording_markedUp :
    ∃ book html, ∃ setup : Setup, Workbook.ofDocument markedUp = .ok book ∧
      (Act.runOn { disk := { home := [] } } (ofWorkbook book (.map []) fun _ _ => pure ())).1 = .ok html ∧
      html = Markup.html (setup.pieces book) ∧
      let page := scan (Markup.html (besideFigures (setup.pieces book)))
      texts "h2" page = ["<b>&\"x\" Results"] ∧
        (tableTexts page).map (fun rows => rows.map (·.take 2)) = [[["</td>", "a & b's"]]] := by
  obtain ⟨book, hbook⟩ : ∃ book, Workbook.ofDocument markedUp = .ok book := exists_ok_of_isOk (by decide +kernel)
  obtain ⟨hdatasets, hpages, _, _⟩ := ofWorkbook_wording (by decide) hbook
  have hset : SetBy book (.map []) ⟨defaultTitle, none, "cdn",
      { book, width := Board.defaultWidth, aspect := Board.defaultAspect }, []⟩ :=
    ⟨.map [], [], rfl, rfl, rfl, rfl, rfl, rfl, fun _ => rfl⟩
  obtain ⟨html, hok⟩ := exists_ofWorkbook hset { disk := { home := [] } }
  obtain ⟨setup, _, hhtml, htold⟩ := hpages _ _ _ _ hok
  refine ⟨book, html, setup, hbook, hok, hhtml, ?_, ?_⟩
  · have hnames : book.names = Entries.keys markedUp := by
      rw [← hdatasets, Workbook.names, Entries.keys, Entries.keys, List.map_map]
      rfl
    rw [htold.panelHeadings, hnames]
    rfl
  · rw [htold.tables, rowWords_of_datasets hdatasets]
    rfl

end CodecReport.Page
