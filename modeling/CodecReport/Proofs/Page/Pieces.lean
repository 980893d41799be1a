import CodecReport.Page.Results
import CodecReport.Proofs.Markup.Pieces
import CodecReport.Proofs.Panel.Depiction
import CodecReport.Proofs.Text.Label

/-!
# The pieces of a page

Every part of a page is written as the pieces it is made of: the rows of a table, the notices of views that
fail, the panels, the list that links to them, and the frame around all of it. What stands in a part without
being escaped is either a numeral or an id, or a text of the library itself.
-/

namespace CodecReport

open Markup

/-! ### Numerals -/

theorem isFileChar_of_isAsciiDigit {c : Char} (hc : Text.isAsciiDigit c = true) : Text.isFileChar c = true :=
  Text.isFileChar_of_isIdChar (Text.isIdChar_of_isAsciiDigit hc)

theorem escape_repr (n : Nat) : Text.escape n.repr = n.repr := by
  apply Text.escape_of_fileChars
  intro c hc
  rw [Nat.repr, String.toList_ofList] at hc
  exact isFileChar_of_isAsciiDigit (isAsciiDigit_of_mem_decimalDigits c hc)

theorem escape_fixed2 (d : Double) : Text.escape d.fixed2 = d.fixed2 := by
  cases d with
  | nan => decide +kernel
  | infinite negative => cases negative <;> decide +kernel
  | finite negative units hunits =>
    apply Text.escape_of_fileChars
    intro c hc
    rw [fixed2_finite, String.toList_ofList] at hc
    have hbody : ∀ c ∈ decimalDigits (shownHundredths units / 100) ++ '.' :: centDigits (shownHundredths units),
        Text.isFileChar c = true := by
      intro c hc
      rcases List.mem_append.mp hc with hwhole | hrest
      · exact isFileChar_of_isAsciiDigit (isAsciiDigit_of_mem_decimalDigits c hwhole)
      · rcases List.mem_cons.mp hrest with rfl | hcent
        · decide
        · exact isFileChar_of_isAsciiDigit (isAsciiDigit_of_mem_centDigits _ c hcent)
    cases negative with
    | false => exact hbody c hc
    | true =>
      rcases List.mem_cons.mp hc with rfl | hmem
      · decide
      · exact hbody c hmem

/-! ### Tables and figures -/

namespace Visual

def cellPiece (kind : CellKind) (cell : Value) : Except Fault Piece :=
  match kind with
  | .number => match cell.toDouble with
    | .ok d => .ok (.text d.fixed2)
    | .error fault => .error (.conversion fault)
  | .text => .ok (.text cell.shown)

def cellPieces (entry : Value × Column) : Except Fault (List Piece) := do
  return element .td [] [← cellPiece entry.2.kind entry.1]

def rowPieces (columns : List Column) (selected : List Nat) (index : Nat) (row : List Value) :
    Except Fault (List Piece) := do
  let cells ← (row.zip columns).mapM cellPieces
  return element .tr
    ((.dataRow, toString index) :: if selected.contains index then [(.cssClass, "selected")] else [])
    cells.flatten

def headPieces (columns : List Column) : List Piece :=
  columns.flatMap fun c => element .th [] [.text c.label]

def tablePieces (container : String) (view : View) (selected : List Nat) : Except Fault (List Piece) := do
  let columns ← view.columns
  let rows ← (← view.frame).rows.zipIdx.mapM fun (row, index) => rowPieces columns selected index row
  return element .table [(.id, container), (.cssClass, "results-table")]
    (element .thead [] (element .tr [] (headPieces columns))
      ++ element .tbody [] rows.flatten)

def figurePieces (container : String) (figure : Figure) : List Piece :=
  element .div [(.id, container), (.cssClass, "plotly-graph-div")] [.figure figure]

/-- What a visualization is drawn as. -/
def pieces (v : Visual) (selection : Selection) : Except Fault (List Piece) :=
  match v.form, v.view with
  | .table, some view => tablePieces v.container view (v.selectedRows selection)
  | form, some view => do
    return figurePieces v.container (← figure form view v.options (v.selectedRows selection))
  | _, none => .error .formless

theorem cellText_eq (kind : CellKind) (cell : Value) : cellText kind cell = Piece.html <$> cellPiece kind cell := by
  cases kind with
  | text => rfl
  | number =>
    unfold cellText cellPiece
    cases cell.toDouble with
    | error fault => rfl
    | ok d => exact congrArg Except.ok (escape_fixed2 d).symm

theorem rowHtml_eq (columns : List Column) (selected : List Nat) (index : Nat) (row : List Value) :
    rowHtml columns selected index row = Markup.html <$> rowPieces columns selected index row := by
  have hselected : Text.escape "selected" = "selected" := Text.escape_ofList (by decide)
  have hcell : ∀ entry : Value × Column,
      (do return "<td>" ++ (← cellText entry.2.kind entry.1) ++ "</td>") = Markup.html <$> cellPieces entry := by
    intro entry
    apply bind_eq_map_bind (cellText_eq entry.2.kind entry.1)
    intro piece
    apply congrArg Except.ok
    apply String.toList_inj.mp
    simp [html_element]
  apply bind_eq_map_bind (mapM_eq_map hcell _)
  intro cells
  apply congrArg Except.ok
  apply String.toList_inj.mp
  cases selected.contains index with
  | true => simp [html_element, html_flatten, attributeHtml, escape_repr, hselected]
  | false => simp [html_element, html_flatten, attributeHtml, escape_repr]

theorem headHtml_eq (columns : List Column) : headHtml columns = Markup.html (headPieces columns) := by
  rw [headHtml, headPieces, html_flatMap]
  apply congrArg String.join
  apply List.map_congr_left
  intro c _
  apply String.toList_inj.mp
  simp [html_element]

variable {container : String}

theorem tableHtml_eq (hplain : Text.escape container = container) (view : View) (selected : List Nat) :
    tableHtml container view selected = Markup.html <$> tablePieces container view selected := by
  have hclass : Text.escape "results-table" = "results-table" := Text.escape_ofList (by decide)
  have hrow : ∀ (columns : List Column) (entry : List Value × Nat),
      rowHtml columns selected entry.2 entry.1 = Markup.html <$> rowPieces columns selected entry.2 entry.1 :=
    fun columns entry => rowHtml_eq columns selected entry.2 entry.1
  apply bind_eq_map_bind (id_map view.columns).symm
  intro columns
  apply bind_eq_map_bind (id_map view.frame).symm
  intro frame
  apply bind_eq_map_bind (mapM_eq_map (hrow columns) _)
  intro rows
  apply congrArg Except.ok
  apply String.toList_inj.mp
  simp [html_element, html_flatten, attributeHtml, headHtml_eq, hplain, hclass]

theorem html_figurePieces (hplain : Text.escape container = container) (figure : Figure) :
    Markup.html (figurePieces container figure) = figure.html container := by
  have hclass : Text.escape "plotly-graph-div" = "plotly-graph-div" := Text.escape_ofList (by decide)
  apply String.toList_inj.mp
  simp [figurePieces, html_element, attributeHtml, Figure.html, hplain, hclass]

theorem html_eq {v : Visual} (hplain : Text.escape v.container = v.container) (selection : Selection) :
    v.html selection = Markup.html <$> v.pieces selection := by
  have hchart : ∀ view, (do
      return (← figure v.form view v.options (v.selectedRows selection)).html v.container) =
      Markup.html <$> (do
        return figurePieces v.container (← figure v.form view v.options (v.selectedRows selection))) := by
    intro view
    cases figure v.form view v.options (v.selectedRows selection) with
    | error fault => rfl
    | ok drawn => exact congrArg Except.ok (html_figurePieces hplain drawn).symm
  rw [html, pieces]
  cases hview : v.view with
  | none => cases v.form <;> rfl
  | some view =>
    have hdrawn := hchart view
    cases hform : v.form with
    | table => exact tableHtml_eq hplain view _
    | _ =>
      rw [hform] at hdrawn
      exact hdrawn

end Visual

/-! ### Panels -/

namespace Panel

def headingPieces (dataset : String) : List Piece :=
  element .h2 [] [.text dataset, .text " Results"]

def warningPieces (warnings : List NonFiniteCell) : List Piece :=
  if warnings.isEmpty then []
  else element .ul [(.cssClass, "projection-warnings")]
    (warnings.flatMap fun w => element .li [] [.text w.text])

theorem html_headingPieces (dataset : String) : Markup.html (headingPieces dataset) = headingHtml dataset := by
  have hresults : Text.escape " Results" = " Results" := Text.escape_ofList (by decide)
  apply String.toList_inj.mp
  simp [headingPieces, headingHtml, html_element, hresults]

theorem html_warningPieces (warnings : List NonFiniteCell) :
    Markup.html (warningPieces warnings) = warningsHtml warnings := by
  have hclass : Text.escape "projection-warnings" = "projection-warnings" := Text.escape_ofList (by decide)
  have hitems : Markup.html (warnings.flatMap fun w => element .li [] [.text w.text]) =
      String.join (warnings.map fun w => "<li>" ++ Text.escape w.text ++ "</li>") := by
    rw [html_flatMap]
    apply congrArg String.join
    apply List.map_congr_left
    intro w _
    apply String.toList_inj.mp
    simp [html_element]
  rw [warningPieces, warningsHtml]
  split
  next => rfl
  next =>
    rw [html_element, hitems]
    apply String.toList_inj.mp
    simp [attributeHtml, hclass]

end Panel

namespace Board

/-- What a visualization is drawn as on a board. -/
def pieces (board : Board) (visual : Visual) (selection : Selection) : Except Fault (List Piece) :=
  match board.broken visual with
  | some message => .error (.foreign "RuntimeError" message)
  | none => visual.pieces selection

/-- What stands in the slot of a view. -/
def bodyPieces (board : Board) (sheet : Sheet) (dataset : String) (selection : Selection) (view : View) :
    List Piece :=
  match board.pieces (board.visualOf sheet view) selection with
  | .ok drawn => drawn
  | .error fault =>
    element .p [(.cssClass, "render-error")] [.text (Panel.failure dataset view fault).forUser]

def slotPieces (board : Board) (sheet : Sheet) (dataset : String) (selection : Selection) (view : View) :
    List Piece :=
  element .div [(.cssClass, "viz"), (.dataView, view.id)]
    (board.bodyPieces sheet dataset selection view)

/-- The panel of a dataset, every view in a slot of its own. -/
def panelPieces (board : Board) (dataset : String) (sheet : Sheet) (selection : Selection) (hidden : Bool) :
    List Piece :=
  element .div
    ([(.cssClass, "dataset-panel"), (.id, sheet.id), (.dataDataset, dataset)]
      ++ if hidden then [(.style, "display:none")] else [])
    (Panel.headingPieces dataset ++ Panel.warningPieces sheet.table.warnings
      ++ sheet.table.views.flatMap (board.slotPieces sheet dataset selection))

variable {sheet : Sheet}

/-- The ids of a sheet and of its views can stand in a page as they are. -/
theorem escape_container (hplain : ∀ c ∈ sheet.id.toList, Text.isIdChar c = true) {view : View}
    (hview : view ∈ sheet.table.views) :
    Text.escape view.id = view.id ∧ Text.escape (sheet.id ++ "-" ++ view.id) = sheet.id ++ "-" ++ view.id := by
  obtain ⟨plan, hplan, rfl⟩ := List.mem_map.mp hview
  have hids : ∀ plan ∈ ViewPlan.standard, plan.id.toList.all Text.isIdChar = true := by
    decide +kernel
  have hid : ∀ c ∈ plan.id.toList, Text.isIdChar c = true := List.all_eq_true.mp (hids plan hplan)
  refine ⟨Text.escape_of_idChars hid, Text.escape_of_idChars ?_⟩
  intro c hc
  rw [String.toList_append, String.toList_append, List.mem_append, List.mem_append] at hc
  rcases hc with (hsheet | hdash) | hviewId
  · exact hplain c hsheet
  · have hplain : "-".toList.all Text.isIdChar = true := by decide +kernel
    exact List.all_eq_true.mp hplain c hdash
  · exact hid c hviewId

theorem html_renderError (text : String) :
    Markup.html (element .p [(.cssClass, "render-error")] [.text text]) =
      "<p class=\"render-error\">" ++ Text.escape text ++ "</p>" := by
  have hclass : Text.escape "render-error" = "render-error" := Text.escape_ofList (by decide)
  apply String.toList_inj.mp
  simp [html_element, attributeHtml, hclass]

theorem draw_eq {board : Board} {visual : Visual} (hplain : Text.escape visual.container = visual.container)
    (selection : Selection) : board.draw visual selection = Markup.html <$> board.pieces visual selection := by
  rw [draw, pieces]
  cases board.broken visual with
  | none => exact Visual.html_eq hplain selection
  | some message => rfl

/-- A view of a sheet can be drawn just where there are pieces for it, whatever is selected. -/
theorem failAlike_pieces (hplain : ∀ c ∈ sheet.id.toList, Text.isIdChar c = true) {view : View}
    (hview : view ∈ sheet.table.views) (board : Board) (selection : Selection) :
    FailAlike (board.pieces (board.visualOf sheet view) selection) (board.draw (board.visualOf sheet view) []) := by
  have hvisual : (board.visualOf sheet view).container = sheet.id ++ "-" ++ view.id := rfl
  have hdraw : board.draw (board.visualOf sheet view) selection =
      Markup.html <$> board.pieces (board.visualOf sheet view) selection := by
    apply draw_eq
    rw [hvisual, (escape_container hplain hview).2]
  have halike := board.failAlike_draw (board.visualOf sheet view) selection []
  rw [hdraw] at halike
  cases hpieces : board.pieces (board.visualOf sheet view) selection with
  | ok drawn => rwa [hpieces] at halike
  | error fault => rwa [hpieces] at halike

/-- What is written of a slot, its id being a text of its own: literals are not compared with what an id
is made of. -/
theorem html_slot {viewId : String} (hid : Text.escape viewId = viewId) (body : List Piece) :
    Markup.html (element .div [(.cssClass, "viz"), (.dataView, viewId)] body) =
      "<div class=\"viz\" data-view=\"" ++ viewId ++ "\">" ++ Markup.html body ++ "</div>" := by
  have hclass : Text.escape "viz" = "viz" := Text.escape_ofList (by decide)
  apply String.toList_inj.mp
  simp [html_element, attributeHtml, hclass, hid]

theorem html_slotPieces (hplain : ∀ c ∈ sheet.id.toList, Text.isIdChar c = true) {view : View}
    (hview : view ∈ sheet.table.views) (board : Board) (dataset : String) (selection : Selection) :
    Markup.html (board.slotPieces sheet dataset selection view) =
      (board.slotOf sheet dataset selection 0 view).html := by
  obtain ⟨hid, hcontainer⟩ := escape_container hplain hview
  have hvisual : (board.visualOf sheet view).container = sheet.id ++ "-" ++ view.id := rfl
  have hdraw : board.draw (board.visualOf sheet view) selection =
      Markup.html <$> board.pieces (board.visualOf sheet view) selection := by
    apply draw_eq
    rw [hvisual, hcontainer]
  have hbody : Markup.html (board.bodyPieces sheet dataset selection view) =
      (board.slotOf sheet dataset selection 0 view).body := by
    rw [bodyPieces, Slot.body, slotOf, hdraw]
    cases board.pieces (board.visualOf sheet view) selection with
    | ok drawn => simp only [Functor.map, Except.map]
    | error fault => exact html_renderError _
  rw [slotPieces, html_slot hid, hbody]
  rfl

theorem html_panel {id : String} (hid : Text.escape id = id) (dataset : String) (hidden : Bool)
    (heading warnings slots : List Piece) :
    Markup.html (element .div
      ([(.cssClass, "dataset-panel"), (.id, id), (.dataDataset, dataset)]
        ++ if hidden then [(.style, "display:none")] else []) (heading ++ warnings ++ slots)) =
      "<div class=\"dataset-panel\" id=\"" ++ id ++ "\" data-dataset=\"" ++ Text.escape dataset
        ++ "\"" ++ (if hidden then " style=\"display:none\"" else "") ++ ">" ++ Markup.html heading
        ++ Markup.html warnings ++ Markup.html slots ++ "</div>" := by
  have hclass : Text.escape "dataset-panel" = "dataset-panel" := Text.escape_ofList (by decide)
  have hstyle : Text.escape "display:none" = "display:none" := Text.escape_ofList (by decide)
  apply String.toList_inj.mp
  cases hidden with
  | true => simp [html_element, attributeHtml, hclass, hstyle, hid]
  | false => simp [html_element, attributeHtml, hclass, hid]

theorem html_panelPieces (hplain : ∀ c ∈ sheet.id.toList, Text.isIdChar c = true) (board : Board)
    (dataset : String) (selection : Selection) (hidden : Bool) :
    Markup.html (board.panelPieces dataset sheet selection hidden) =
      (board.panelOf dataset sheet selection).html sheet hidden := by
  have hslots : Markup.html (sheet.table.views.flatMap (board.slotPieces sheet dataset selection)) =
      String.join ((sheet.table.views.map (board.slotOf sheet dataset selection 0)).map Slot.html) := by
    rw [html_flatMap, List.map_map]
    apply congrArg String.join
    apply List.map_congr_left
    intro view hview
    exact html_slotPieces hplain hview board dataset selection
  rw [panelPieces, html_panel (Text.escape_of_idChars hplain), hslots, Panel.html_headingPieces,
    Panel.html_warningPieces]
  rfl

end Board

/-! ### The frame -/

namespace Page

def navigationItem (name id : String) : List Piece :=
  element .li [] (element .a [(.href, "#" ++ id)] [.text name])

def navigationPieces (book : Workbook) : List Piece :=
  element .ul [(.id, "datasets-list")]
    (book.flatMap fun (name, sheet) => navigationItem name sheet.id)

/-- The attribute of the form's field that fills it in, if there is one. -/
def prefillEntry : Option String → List (Name × String)
  | some address => if address = "" then [] else [(.inputValue, address)]
  | none => []

def formPieces (address : Option String) : List Piece :=
  element .form [(.id, "announce"), (.onsubmit, "return false;")]
    (element .label [(.labelFor, "announce-email")]
        [.text "Get notified when new results are published:"]
      ++ [.text " ", .opening .input
        ([(.inputType, "email"), (.id, "announce-email"), (.inputName, "email")] ++ prefillEntry address)])

def headingPieces (title : String) : List Piece :=
  element .h1 [] [.text title]

def resultsPieces (results : List Piece) : List Piece :=
  element .div [(.id, "results")] results

def failurePieces (text : String) : List Piece :=
  element .p [(.cssClass, "load-error")] [.text text]

theorem lt_not_mem_ofList {cs : List Char} (hcs : '<' ∉ cs) : '<' ∉ (String.ofList cs).toList := by
  rwa [String.toList_ofList]

theorem lt_not_mem_rule {selector declarations : String} (hselector : '<' ∉ selector.toList)
    (hdeclarations : '<' ∉ declarations.toList) : '<' ∉ (rule selector declarations).toList := by
  simp [rule, hselector, hdeclarations]

theorem lt_not_mem_block {lines : List String} (hlines : ∀ line ∈ lines, '<' ∉ line.toList) :
    '<' ∉ (block lines).toList := by
  have hjoined : '<' ∉ ("\n".intercalate lines).toList := by
    induction lines with
    | nil => simp
    | cons line rest ih =>
      obtain ⟨hfirst, hrest⟩ := List.forall_mem_cons.mp hlines
      cases rest with
      | nil => simpa using hfirst
      | cons next more =>
        have hmore := ih hrest
        rw [String.intercalate_cons_cons]
        simp only [String.toList_append, List.mem_append, hfirst, hmore]
        decide
  rw [block, String.toList_append, String.toList_append, List.mem_append, List.mem_append]
  simp only [hjoined, or_false]
  decide

set_option maxRecDepth 1000 in
theorem lt_not_mem_style : '<' ∉ style.toList := by
  apply lt_not_mem_block
  repeat
    refine List.forall_mem_cons.mpr
      ⟨lt_not_mem_rule (lt_not_mem_ofList (by decide +kernel)) (lt_not_mem_ofList (by decide +kernel)), ?_⟩
  exact fun _ hmem => absurd hmem List.not_mem_nil

theorem lt_not_mem_script : '<' ∉ script.toList := by
  apply lt_not_mem_block
  repeat refine List.forall_mem_cons.mpr ⟨lt_not_mem_ofList (by decide +kernel), ?_⟩
  exact fun _ hmem => absurd hmem List.not_mem_nil

theorem lt_not_mem_libraryText : '<' ∉ libraryText.toList :=
  lt_not_mem_ofList (by decide +kernel)

def libraryPieces (mode : String) : List Piece :=
  if mode = "inline" then element .script [] [.verbatim libraryText lt_not_mem_libraryText]
  else element .script [(.src, libraryAddress)] []

def lineFeed : Piece := .text "\n"

/-- A page around its library and its body, with the texts of its style and script. -/
def framePieces (title : String) (library body : List Piece) {styleText scriptText : String}
    (hstyle : '<' ∉ styleText.toList) (hscript : '<' ∉ scriptText.toList) : List Piece :=
  .doctype :: lineFeed ::
    element .html []
      (lineFeed :: element .head []
        (lineFeed :: .opening .metaData [(.charset, "utf-8")] :: lineFeed ::
          element .title [] [.text title] ++ lineFeed :: library ++ lineFeed ::
          element .style [] [.verbatim styleText hstyle] ++ [lineFeed])
        ++ lineFeed :: element .body []
          (lineFeed :: body ++ lineFeed ::
            element .script [] [.verbatim scriptText hscript] ++ [lineFeed])
        ++ [lineFeed])
    ++ [lineFeed]

/-- A page with the given parts of its body. -/
def documentPieces (title : String) (parts : List (List Piece)) (mode : String) : List Piece :=
  framePieces title (libraryPieces mode) ([lineFeed].intercalate parts) lt_not_mem_style lt_not_mem_script

theorem html_navigationItem (name : String) {id : String} (hplain : ∀ c ∈ id.toList, Text.isIdChar c = true) :
    html (navigationItem name id) = "<li><a href=\"#" ++ id ++ "\">" ++ Text.escape name ++ "</a></li>" := by
  have hmark : Text.escape "#" = "#" := Text.escape_ofList (by decide)
  have hhref : Text.escape ("#" ++ id) = "#" ++ id := by
    rw [escape_append, hmark, Text.escape_of_idChars hplain]
  apply String.toList_inj.mp
  simp [navigationItem, html_element, attributeHtml, hhref]

theorem html_navigation (items : List Piece) :
    html (element .ul [(.id, "datasets-list")] items) =
      "<ul id=\"datasets-list\">" ++ html items ++ "</ul>" := by
  have hid : Text.escape "datasets-list" = "datasets-list" := Text.escape_ofList (by decide)
  apply String.toList_inj.mp
  simp [html_element, attributeHtml, hid]

theorem html_navigationPieces {book : Workbook}
    (hplain : ∀ entry ∈ book, ∀ c ∈ entry.2.id.toList, Text.isIdChar c = true) :
    html (navigationPieces book) = navigationHtml book := by
  have hitems : html (book.flatMap fun (name, sheet) =>
      navigationItem name sheet.id) = String.join (book.map fun (name, sheet) =>
        "<li><a href=\"#" ++ sheet.id ++ "\">" ++ Text.escape name ++ "</a></li>") := by
    rw [html_flatMap]
    apply congrArg String.join
    apply List.map_congr_left
    intro entry hentry
    exact html_navigationItem entry.1 (hplain entry hentry)
  rw [navigationPieces, html_navigation, hitems]
  rfl

set_option maxRecDepth 1000 in
theorem html_formPieces (address : Option String) : html (formPieces address) = formHtml address := by
  have hform : Text.escape "announce" = "announce" := Text.escape_ofList (by decide)
  have hinput : Text.escape "announce-email" = "announce-email" := Text.escape_ofList (by decide)
  have hfield : Text.escape "email" = "email" := Text.escape_ofList (by decide)
  have hsubmit : Text.escape "return false;" = "return false;" := Text.escape_ofList (by decide)
  have hlabel : Text.escape "Get notified when new results are published:" =
      "Get notified when new results are published:" := Text.escape_ofList (by decide)
  have hblank : Text.escape " " = " " := Text.escape_ofList (by decide)
  -- The characters of long literals are taken from the literal as it stands: reading them is slow.
  have hform' : "<form id=\"announce\" onsubmit=\"return false;\">".toList = _ := String.toList_ofList
  have hlabel' : "<label for=\"announce-email\">Get notified when new results are published:</label> ".toList = _ :=
    String.toList_ofList
  have htext' : "Get notified when new results are published:".toList = _ := String.toList_ofList
  have hinput' : "<input type=\"email\" id=\"announce-email\" name=\"email\"".toList = _ := String.toList_ofList
  have hprefill : attributesHtml (prefillEntry address) = prefillAttribute address := by
    rcases address with _ | address
    · rfl
    · rw [prefillEntry, prefillAttribute]
      by_cases hempty : address = ""
      · rw [if_pos hempty, if_pos hempty]
        rfl
      · rw [if_neg hempty, if_neg hempty]
        apply String.toList_inj.mp
        simp [attributeHtml]
  unfold formPieces formHtml
  generalize prefillEntry address = entries at hprefill ⊢
  generalize prefillAttribute address = written at hprefill ⊢
  subst hprefill
  apply String.toList_inj.mp
  simp only [html_element, html_append, html_cons, Piece.html_text, hlabel, hblank, String.toList_append,
    -String.reduceToList]
  rw [hform', hlabel', htext', hinput']
  simp [attributeHtml, hform, hinput, hfield, hsubmit]

theorem html_headingPieces (title : String) : html (headingPieces title) = headingHtml title := by
  unfold headingPieces headingHtml
  apply String.toList_inj.mp
  simp [html_element]

theorem html_resultsPieces (results : List Piece) :
    html (resultsPieces results) = resultsHtml (html results) := by
  have hid : Text.escape "results" = "results" := Text.escape_ofList (by decide)
  unfold resultsPieces resultsHtml
  apply String.toList_inj.mp
  simp [html_element, attributeHtml, hid]

theorem html_failurePieces (text : String) :
    html (failurePieces text) = failureHtml (Text.escape text) := by
  have hclass : Text.escape "load-error" = "load-error" := Text.escape_ofList (by decide)
  unfold failurePieces failureHtml
  apply String.toList_inj.mp
  simp [html_element, attributeHtml, hclass]

theorem html_verbatimScript {text : String} (hplain : '<' ∉ text.toList) :
    html (element .script [] [.verbatim text hplain]) = "<script>" ++ text ++ "</script>" := by
  apply String.toList_inj.mp
  simp [html_element]

theorem html_scriptSource {address : String} (haddress : Text.escape address = address) :
    html (element .script [(.src, address)] []) = "<script src=\"" ++ address ++ "\"></script>" := by
  apply String.toList_inj.mp
  simp [html_element, attributeHtml, haddress]

theorem html_libraryPieces (mode : String) : html (libraryPieces mode) = libraryHtml mode := by
  rw [libraryPieces, libraryHtml]
  split
  next => exact html_verbatimScript _
  next =>
    apply html_scriptSource
    exact Text.escape_ofList (by decide)

theorem html_intercalate (parts : List (List Piece)) :
    html ([lineFeed].intercalate parts) = "\n".intercalate (parts.map html) := by
  have hfeed : html [lineFeed] = "\n" := by decide +kernel
  induction parts with
  | nil => rfl
  | cons part rest ih =>
    cases rest with
    | nil => simp
    | cons next more =>
      rw [List.intercalate_cons_cons, html_append, html_append, hfeed, ih]
      exact String.intercalate_cons_cons.symm

theorem html_framePieces (title : String) (library body : List Piece) {styleText scriptText : String}
    (hstyle : '<' ∉ styleText.toList) (hscript : '<' ∉ scriptText.toList) :
    html (framePieces title library body hstyle hscript) =
      "<!DOCTYPE html>\n<html>\n<head>\n<meta charset=\"utf-8\">\n"
        ++ "<title>" ++ Text.escape title ++ "</title>\n"
        ++ html library ++ "\n"
        ++ "<style>" ++ styleText ++ "</style>\n</head>\n<body>\n"
        ++ html body ++ "\n"
        ++ "<script>" ++ scriptText ++ "</script>\n</body>\n</html>\n" := by
  have hfeed : lineFeed.html = "\n" := by decide +kernel
  have hcharset : Text.escape "utf-8" = "utf-8" := Text.escape_ofList (by decide)
  unfold framePieces
  apply String.toList_inj.mp
  simp [html_element, attributeHtml, hfeed, hcharset]

theorem html_documentPieces (title : String) (parts : List (List Piece)) (mode : String) :
    html (documentPieces title parts mode) = document title (parts.map html) mode := by
  rw [documentPieces, html_framePieces, html_intercalate, html_libraryPieces]
  rfl

end Page

end CodecReport
