import CodecReport.Proofs.Page.Setup
import CodecReport.Proofs.Panel.Isolation

/-!
# What links go by

The ids, the links and the panels of a page, as a reader finds them beside the figures. Each part of a page
has its own: the frame its few ids, the list of datasets its links, a panel the id of its sheet, and a view
that can be drawn an id behind that one. Nothing else in a page has any, whatever the texts in it are.
-/

namespace CodecReport

open Markup

/-- What the links of a page go by, in the order of the page: the ids of its elements, the addresses that
links lead to, and the id and the style of every panel. -/
structure Anchors where
  ids : List String := []
  links : List String := []
  panels : List (Option String × Option String) := []

namespace Anchors

instance : Append Anchors where
  append a b := ⟨a.ids ++ b.ids, a.links ++ b.links, a.panels ++ b.panels⟩

theorem append_def (a b : Anchors) : a ++ b = ⟨a.ids ++ b.ids, a.links ++ b.links, a.panels ++ b.panels⟩ := rfl

@[simp] theorem append_empty (a : Anchors) : a ++ ({} : Anchors) = a := by
  simp [append_def]

@[simp] theorem empty_append (a : Anchors) : ({} : Anchors) ++ a = a := rfl

def ofTags (tags : List Tag) : Anchors where
  ids := tags.filterMap fun tag => tag.value? "id"
  links := tags.filterMap fun tag => tag.value? "href"
  panels := (tags.filter fun tag => tag.value? "class" = some "dataset-panel").map fun tag =>
    (tag.value? "id", tag.value? "style")

/-- The anchors of a page, as they are read in it. -/
def ofPage (page : String) : Anchors :=
  ofTags (tags (scan page))

/-- The anchors of the elements that pieces open. -/
def ofPieces (pieces : List Piece) : Anchors :=
  ofTags (pieces.filterMap Piece.tag?)

/-- The anchors of an element with the given attributes. -/
def ofAttributes (attributes : List (Name × String)) : Anchors :=
  let value? (key : String) := (attributes.map fun (name, value) => (name.text, value)).lookup key
  { ids := (value? "id").toList
    links := (value? "href").toList
    panels := if value? "class" = some "dataset-panel" then [(value? "id", value? "style")] else [] }

theorem ofPage_besideFigures (pieces : List Piece) : ofPage (html (besideFigures pieces)) = ofPieces pieces := by
  rw [ofPage, scan_besideFigures, tags_tokens]
  rfl

theorem ofTags_append (tags more : List Tag) : ofTags (tags ++ more) = ofTags tags ++ ofTags more := by
  simp [ofTags, append_def]

@[simp] theorem ofPieces_nil : ofPieces [] = {} := rfl

@[simp] theorem ofPieces_text (s : String) (rest : List Piece) : ofPieces (.text s :: rest) = ofPieces rest := rfl

@[simp] theorem ofPieces_verbatim {s : String} (hplain : '<' ∉ s.toList) (rest : List Piece) :
    ofPieces (.verbatim s hplain :: rest) = ofPieces rest := rfl

@[simp] theorem ofPieces_doctype (rest : List Piece) : ofPieces (.doctype :: rest) = ofPieces rest := rfl

@[simp] theorem ofPieces_figure (f : Figure) (rest : List Piece) :
    ofPieces (.figure f :: rest) = ofPieces rest := rfl

@[simp] theorem ofPieces_closing (name : Name) (rest : List Piece) :
    ofPieces (.closing name :: rest) = ofPieces rest := rfl

@[simp] theorem ofPieces_append (pieces more : List Piece) :
    ofPieces (pieces ++ more) = ofPieces pieces ++ ofPieces more := by
  rw [ofPieces, List.filterMap_append, ofTags_append]
  rfl

@[simp] theorem ofPieces_opening (name : Name) (attributes : List (Name × String)) (rest : List Piece) :
    ofPieces (.opening name attributes :: rest) = ofAttributes attributes ++ ofPieces rest := by
  have hfirst : ∀ tag : Tag, ofTags [tag] =
      { ids := (tag.value? "id").toList
        links := (tag.value? "href").toList
        panels := if tag.value? "class" = some "dataset-panel" then [(tag.value? "id", tag.value? "style")]
          else [] } := by
    intro tag
    have hone : ∀ key, [tag].filterMap (fun tag => tag.value? key) = (tag.value? key).toList := by
      intro key
      rw [List.filterMap_cons]
      cases tag.value? key <;> rfl
    rw [ofTags, hone, hone]
    by_cases hclass : tag.value? "class" = some "dataset-panel" <;> simp [hclass]
  have hsplit := ofPieces_append [.opening name attributes] rest
  rw [List.singleton_append] at hsplit
  rw [hsplit]
  exact congrArg (· ++ ofPieces rest) (hfirst _)

@[simp] theorem ofPieces_element (name : Name) (attributes : List (Name × String)) (inside : List Piece) :
    ofPieces (element name attributes inside) = ofAttributes attributes ++ ofPieces inside := by
  simp [element]

theorem ofPieces_flatMap {α : Type} {items : List α} {f : α → List Piece} {g : α → Anchors}
    (hg : ∀ item ∈ items, ofPieces (f item) = g item) :
    ofPieces (items.flatMap f) =
      ⟨items.flatMap fun item => (g item).ids, items.flatMap fun item => (g item).links,
        items.flatMap fun item => (g item).panels⟩ := by
  induction items with
  | nil => rfl
  | cons item rest ih =>
    obtain ⟨hfirst, hrest⟩ := List.forall_mem_cons.mp hg
    rw [List.flatMap_cons, ofPieces_append, hfirst, ih hrest]
    rfl

theorem ofPieces_flatten_of_forall {parts : List (List Piece)} (hparts : ∀ part ∈ parts, ofPieces part = {}) :
    ofPieces parts.flatten = {} := by
  have hflat : ofPieces (parts.flatMap id) = _ := ofPieces_flatMap hparts
  rw [← List.flatMap_id, hflat]
  simp

@[simp] theorem ofAttributes_nil : ofAttributes [] = {} := rfl

theorem ofAttributes_panel (id dataset : String) (hidden : Bool) :
    ofAttributes ([(.cssClass, "dataset-panel"), (.id, id), (.dataDataset, dataset)]
      ++ if hidden then [(.style, "display:none")] else []) =
      { ids := [id], panels := [(some id, if hidden then some "display:none" else none)] } := by
  cases hidden with
  | true => simp [ofAttributes, List.lookup_cons]
  | false => simp [ofAttributes, List.lookup_cons]

theorem ofAttributes_slot (viewId : String) :
    ofAttributes [(.cssClass, "viz"), (.dataView, viewId)] = {} := by
  simp [ofAttributes, List.lookup_cons]

theorem ofAttributes_container (container : String) {kind : String} (hkind : kind ≠ "dataset-panel") :
    ofAttributes [(.id, container), (.cssClass, kind)] = { ids := [container] } := by
  simp [ofAttributes, List.lookup_cons, hkind]

theorem ofAttributes_class {kind : String} (hkind : kind ≠ "dataset-panel") :
    ofAttributes [(.cssClass, kind)] = {} := by
  simp [ofAttributes, List.lookup_cons, hkind]

end Anchors

/-! ### Parts of a page -/

open Anchors

namespace Visual

theorem exists_text_of_cellPiece {kind : CellKind} {cell : Value} {piece : Piece}
    (hpiece : cellPiece kind cell = .ok piece) : ∃ s, piece = .text s := by
  unfold cellPiece at hpiece
  cases kind with
  | text =>
    cases hpiece
    exact ⟨cell.shown, rfl⟩
  | number =>
    dsimp only at hpiece
    split at hpiece
    next d _ =>
      cases hpiece
      exact ⟨d.fixed2, rfl⟩
    next => cases hpiece

theorem ofPieces_cellPieces {entry : Value × Column} {pieces : List Piece}
    (hcell : cellPieces entry = .ok pieces) : ofPieces pieces = {} := by
  obtain ⟨piece, hpiece, hresult⟩ := bind_eq_ok_iff.mp hcell
  cases hresult
  obtain ⟨s, rfl⟩ := exists_text_of_cellPiece hpiece
  simp

theorem ofPieces_rowPieces {columns : List Column} {selected : List Nat} {index : Nat} {row : List Value}
    {pieces : List Piece} (hrow : rowPieces columns selected index row = .ok pieces) : ofPieces pieces = {} := by
  obtain ⟨cells, hcells, hresult⟩ := bind_eq_ok_iff.mp hrow
  cases hresult
  have hplain : ofPieces cells.flatten = {} := by
    apply ofPieces_flatten_of_forall
    intro cell hcell
    obtain ⟨entry, _, hentry⟩ := exists_of_mem_mapM hcells hcell
    exact ofPieces_cellPieces hentry
  have hattributes : ofAttributes ((.dataRow, toString index) ::
      if selected.contains index then [(.cssClass, "selected")] else []) = {} := by
    generalize toString index = position
    cases selected.contains index <;> simp [ofAttributes, List.lookup_cons]
  rw [ofPieces_element, hattributes, hplain, append_empty]

theorem ofPieces_headPieces (columns : List Column) : ofPieces (headPieces columns) = {} := by
  have hlabels : ∀ column ∈ columns, ofPieces (element .th [] [.text column.label]) = {} := by
    intro column _
    simp
  rw [headPieces, ofPieces_flatMap hlabels]
  simp

theorem ofPieces_tablePieces {container : String} {view : View} {selected : List Nat} {pieces : List Piece}
    (htable : tablePieces container view selected = .ok pieces) : ofPieces pieces = { ids := [container] } := by
  obtain ⟨columns, _, hcolumns⟩ := bind_eq_ok_iff.mp htable
  obtain ⟨frame, _, hframe⟩ := bind_eq_ok_iff.mp hcolumns
  obtain ⟨rows, hrows, hresult⟩ := bind_eq_ok_iff.mp hframe
  cases hresult
  have hplain : ofPieces rows.flatten = {} := by
    apply ofPieces_flatten_of_forall
    intro row hrow
    obtain ⟨entry, _, hentry⟩ := exists_of_mem_mapM hrows hrow
    exact ofPieces_rowPieces hentry
  rw [ofPieces_element, ofAttributes_container container (by decide)]
  simp [ofPieces_headPieces, hplain]

/-- What is drawn of a visualization has one id, that of its element. -/
theorem ofPieces_pieces {v : Visual} {selection : Selection} {drawn : List Piece}
    (hdrawn : v.pieces selection = .ok drawn) : ofPieces drawn = { ids := [v.container] } := by
  rw [pieces] at hdrawn
  split at hdrawn
  next => exact ofPieces_tablePieces hdrawn
  next =>
    obtain ⟨figure, _, hresult⟩ := bind_eq_ok_iff.mp hdrawn
    cases hresult
    rw [figurePieces, ofPieces_element, ofAttributes_container v.container (by decide)]
    rfl
  next => cases hdrawn

end Visual

namespace Board

variable {sheet : Sheet}

/-- A slot has the id of its view if the view can be drawn; whether it can does not hang on the selection. -/
theorem ofPieces_slotPieces (hplain : ∀ c ∈ sheet.id.toList, Text.isIdChar c = true) {view : View}
    (hview : view ∈ sheet.table.views) (board : Board) (dataset : String) (selection : Selection) :
    ofPieces (board.slotPieces sheet dataset selection view) =
      { ids := if (board.drawing sheet view).isOk then [sheet.id ++ "-" ++ view.id] else [] } := by
  have hvisual : (board.visualOf sheet view).container = sheet.id ++ "-" ++ view.id := rfl
  have halike := failAlike_pieces hplain hview board selection
  have hbody : ofPieces (board.bodyPieces sheet dataset selection view) =
      { ids := if (board.drawing sheet view).isOk then [sheet.id ++ "-" ++ view.id] else [] } := by
    rw [bodyPieces]
    cases hpieces : board.pieces (board.visualOf sheet view) selection with
    | ok drawn =>
      obtain ⟨html, hhtml⟩ := halike.isOk hpieces
      rw [drawing, hhtml, ← hvisual]
      rw [pieces] at hpieces
      split at hpieces
      next => cases hpieces
      next => exact Visual.ofPieces_pieces hpieces
    | error fault =>
      rw [drawing, halike.error hpieces]
      dsimp only
      rw [ofPieces_element, ofAttributes_class (by decide)]
      rfl
  rw [slotPieces, ofPieces_element, ofAttributes_slot, hbody, empty_append]

/-- The ids of the views of a sheet that can be drawn. -/
def drawnIds (board : Board) (sheet : Sheet) : List String :=
  (sheet.table.views.filter fun view => (board.drawing sheet view).isOk).map fun view =>
    sheet.id ++ "-" ++ view.id

theorem ofPieces_panelPieces (hplain : ∀ c ∈ sheet.id.toList, Text.isIdChar c = true) (board : Board)
    (dataset : String) (selection : Selection) (hidden : Bool) :
    ofPieces (board.panelPieces dataset sheet selection hidden) =
      { ids := sheet.id :: board.drawnIds sheet
        panels := [(some sheet.id, if hidden then some "display:none" else none)] } := by
  have hheading : ofPieces (Panel.headingPieces dataset) = {} := by
    simp [Panel.headingPieces]
  have hwarnings : ofPieces (Panel.warningPieces sheet.table.warnings) = {} := by
    rw [Panel.warningPieces]
    split
    next => rfl
    next =>
      have hitems : ∀ w ∈ sheet.table.warnings, ofPieces (element .li [] [.text w.text]) = {} := by
        intro w _
        simp
      rw [ofPieces_element, ofAttributes_class (by decide), ofPieces_flatMap hitems]
      simp
  have hslots : ofPieces (sheet.table.views.flatMap (board.slotPieces sheet dataset selection)) =
      { ids := board.drawnIds sheet } := by
    rw [ofPieces_flatMap fun view hview => ofPieces_slotPieces hplain hview board dataset selection, drawnIds]
    have hfilter : ∀ views : List View, (views.flatMap fun view =>
        if (board.drawing sheet view).isOk then [sheet.id ++ "-" ++ view.id] else []) =
        (views.filter fun view => (board.drawing sheet view).isOk).map fun view => sheet.id ++ "-" ++ view.id := by
      intro views
      induction views with
      | nil => rfl
      | cons view rest ih =>
        rw [List.flatMap_cons, List.filter_cons, ih]
        cases (board.drawing sheet view).isOk <;> rfl
    simp [hfilter]
  rw [panelPieces, ofPieces_element, ofAttributes_panel, ofPieces_append, ofPieces_append, hheading, hwarnings,
    hslots]
  rfl

end Board

namespace Page

/-- The ids of the frame of a page. -/
def frameIds (book : Workbook) : List String :=
  ["announce", "announce-email"] ++ (if 1 < book.length then ["datasets-list"] else []) ++ ["results"]

theorem ofPieces_formPieces (address : Option String) :
    ofPieces (formPieces address) = { ids := ["announce", "announce-email"] } := by
  have hform : ofAttributes [(.id, "announce"), (.onsubmit, "return false;")] =
      { ids := ["announce"] } := by
    simp [ofAttributes, List.lookup_cons]
  have hlabel : ofAttributes [(.labelFor, "announce-email")] = {} := by
    simp [ofAttributes, List.lookup_cons]
  have hinput : ofAttributes ((.inputType, "email") :: (.id, "announce-email") :: (.inputName, "email") ::
      prefillEntry address) = { ids := ["announce-email"] } := by
    rcases address with _ | address
    · simp [prefillEntry, ofAttributes, List.lookup_cons]
    · rw [prefillEntry]
      by_cases hempty : address = "" <;> simp [hempty, ofAttributes, List.lookup_cons]
  simp [formPieces, hform, hlabel, hinput, append_def]

theorem ofPieces_headingPieces (title : String) : ofPieces (headingPieces title) = {} := by
  simp [headingPieces]

theorem ofPieces_navigationPieces (book : Workbook) :
    ofPieces (navigationPieces book) =
      { ids := ["datasets-list"], links := book.map fun (_, sheet) => "#" ++ sheet.id } := by
  have hlist : ofAttributes [(.id, "datasets-list")] = { ids := ["datasets-list"] } := by
    simp [ofAttributes, List.lookup_cons]
  have hlink : ∀ address : String, ofAttributes [(.href, address)] = { links := [address] } := by
    intro address
    simp [ofAttributes, List.lookup_cons]
  have hitem : ∀ name id : String, ofPieces (navigationItem name id) = { links := ["#" ++ id] } := by
    intro name id
    simp [navigationItem, hlink]
  have hitems : ∀ entry ∈ book, ofPieces (navigationItem entry.1 entry.2.id) = { links := ["#" ++ entry.2.id] } :=
    fun entry _ => hitem entry.1 entry.2.id
  rw [navigationPieces, ofPieces_element, hlist, ofPieces_flatMap hitems, List.map_eq_flatMap]
  simp [append_def]

theorem ofPieces_resultsPieces (results : List Piece) :
    ofPieces (resultsPieces results) = ({ ids := ["results"] } : Anchors) ++ ofPieces results := by
  have hresults : ofAttributes [(.id, "results")] = { ids := ["results"] } := by
    simp [ofAttributes, List.lookup_cons]
  rw [resultsPieces, ofPieces_element, hresults]

theorem ofPieces_intercalate (parts : List (List Piece)) :
    ofPieces ([lineFeed].intercalate parts) = ofPieces parts.flatten := by
  have hfeed : ofPieces [lineFeed] = {} := rfl
  induction parts with
  | nil => rfl
  | cons part rest ih =>
    cases rest with
    | nil => simp
    | cons next more =>
      show _ = ofPieces (part ++ (next :: more).flatten)
      rw [List.intercalate_cons_cons, ofPieces_append, ofPieces_append, ih, hfeed, append_empty, ofPieces_append]

theorem ofPieces_framePieces (title : String) (library body : List Piece) {styleText scriptText : String}
    (hstyle : '<' ∉ styleText.toList) (hscript : '<' ∉ scriptText.toList) :
    ofPieces (framePieces title library body hstyle hscript) = ofPieces library ++ ofPieces body := by
  have hcharset : ofAttributes [(.charset, "utf-8")] = {} := by
    simp [ofAttributes, List.lookup_cons]
  simp [framePieces, lineFeed, hcharset]

theorem ofPieces_libraryPieces (mode : String) : ofPieces (libraryPieces mode) = {} := by
  have hsource : ∀ address : String, ofAttributes [(.src, address)] = {} := by
    intro address
    simp [ofAttributes, List.lookup_cons]
  rw [libraryPieces]
  split
  next =>
    rw [ofPieces_element, ofAttributes_nil]
    rfl
  next =>
    rw [ofPieces_element, hsource]
    rfl

theorem ofPieces_documentPieces (title : String) (parts : List (List Piece)) (mode : String) :
    ofPieces (documentPieces title parts mode) = ofPieces parts.flatten := by
  rw [documentPieces, ofPieces_framePieces, ofPieces_libraryPieces, ofPieces_intercalate, empty_append]

section Whole

variable {book : Workbook} {setup : Setup}

/-- The ids that belong to a sheet: its own, and those of its views that are drawn. -/
def Setup.sheetIds (setup : Setup) (entry : String × Sheet) : List String :=
  entry.2.id :: setup.board.drawnIds entry.2

theorem hidden_iff {entry : String × Sheet} (hentry : entry ∈ book) :
    book.initial? ≠ some entry.1 ↔ 1 < book.length := by
  rcases book with _ | ⟨first, _ | ⟨second, rest⟩⟩
  · exact absurd hentry List.not_mem_nil
  · rw [List.mem_singleton.mp hentry]
    simp [Workbook.initial?]
  · simp [Workbook.initial?]

theorem ofPieces_resultPieces (hnumbered : book.Numbered) (setup : Setup) :
    ofPieces (setup.resultPieces book) =
      { ids := book.flatMap setup.sheetIds
        panels := book.map fun (_, sheet) =>
          (some sheet.id, if 1 < book.length then some "display:none" else none) } := by
  have hentry : ∀ entry ∈ book, ofPieces (setup.entryPieces book entry) =
      { ids := setup.sheetIds entry
        panels := [(some entry.2.id, if 1 < book.length then some "display:none" else none)] } := by
    intro entry hentry
    have hhidden : decide (book.initial? ≠ some entry.1) = decide (1 < book.length) :=
      decide_eq_decide.mpr (hidden_iff hentry)
    rw [Setup.entryPieces, hhidden, Board.ofPieces_panelPieces (hnumbered.isIdChar_of_mem hentry)]
    simp [Setup.sheetIds]
  rw [Setup.resultPieces]
  split
  next hempty =>
    rw [List.isEmpty_iff] at hempty
    subst hempty
    rw [failurePieces, ofPieces_element, ofAttributes_class (by decide)]
    rfl
  next =>
    rw [ofPieces_flatMap hentry, List.map_eq_flatMap]
    simp

/-- The anchors of a page. -/
theorem ofPieces_pieces (hnumbered : book.Numbered) (setup : Setup) :
    ofPieces (setup.pieces book) =
      { ids := frameIds book ++ book.flatMap setup.sheetIds
        links := if 1 < book.length then book.map fun (_, sheet) => "#" ++ sheet.id else []
        panels := book.map fun (_, sheet) =>
          (some sheet.id, if 1 < book.length then some "display:none" else none) } := by
  rw [Setup.pieces, ofPieces_documentPieces]
  by_cases hseveral : 1 < book.length
  all_goals
    simp [hseveral, ofPieces_headingPieces, ofPieces_formPieces, ofPieces_navigationPieces, ofPieces_resultsPieces,
      ofPieces_resultPieces hnumbered, frameIds, append_def]

end Whole

end Page

end CodecReport
