import CodecReport.Chart.Visual
import CodecReport.Selection.Network
import CodecReport.Workbook

/-!
# Panels

A panel shows one dataset in the standard views. A slot of a panel holds what was drawn of a view, or the
notice of why it could not be drawn; one failing view does not keep the others from being shown.
-/

namespace CodecReport

inductive SlotContent
  /-- A visualization, by its place in the network, and its element. -/
  | drawn (visual : MemberId) (html : String)
  | failed (notice : Notice)

structure Slot where
  container : String
  viewId : String
  content : SlotContent

structure Panel where
  dataset : String
  height : Double
  slots : List Slot

namespace Slot

def visual? (slot : Slot) : Option MemberId :=
  match slot.content with
  | .drawn visual _ => some visual
  | .failed _ => none

def notice? (slot : Slot) : Option Notice :=
  match slot.content with
  | .drawn .. => none
  | .failed notice => some notice

/-- What a slot shows: the element, or the wording for the reader of the page. -/
def body (slot : Slot) : String :=
  match slot.content with
  | .drawn _ html => html
  | .failed notice => "<p class=\"render-error\">" ++ Text.escape notice.forUser ++ "</p>"

def html (slot : Slot) : String :=
  "<div class=\"viz\" data-view=\"" ++ slot.viewId ++ "\">" ++ slot.body ++ "</div>"

end Slot

namespace Panel

def visuals (panel : Panel) : List MemberId := panel.slots.filterMap Slot.visual?

def notices (panel : Panel) : List Notice := panel.slots.filterMap Slot.notice?

def failure (dataset : String) (view : View) (fault : Fault) : Notice where
  message := "failed to draw " ++ view.id ++ ": " ++ fault.message
  userMessage := some (view.title ++ " could not be drawn.")
  context := [("dataset", .text dataset), ("view", .text view.id)]

def warningsHtml (warnings : List NonFiniteCell) : String :=
  if warnings.isEmpty then ""
  else "<ul class=\"projection-warnings\">"
    ++ String.join (warnings.map fun w => "<li>" ++ Text.escape w.text ++ "</li>") ++ "</ul>"

def headingHtml (dataset : String) : String :=
  "<h2>" ++ Text.escape dataset ++ " Results</h2>"

def html (panel : Panel) (sheet : Sheet) (hidden : Bool) : String :=
  "<div class=\"dataset-panel\" id=\"" ++ sheet.id ++ "\" data-dataset=\"" ++ Text.escape panel.dataset
    ++ "\"" ++ (if hidden then " style=\"display:none\"" else "") ++ ">"
    ++ headingHtml panel.dataset ++ warningsHtml sheet.table.warnings
    ++ String.join (panel.slots.map Slot.html) ++ "</div>"

end Panel

end CodecReport
