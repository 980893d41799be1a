import CodecReport.Panel.Basic

/-!
# The board

The board shows one panel at a time. Its visualizations form the one group of its network, so that a
selection in one of them reaches all the others; clearing the board dissolves the group. Visualizations of
earlier panels stay in the network as members of no group.
-/

namespace CodecReport

/-- The board: the workbook it shows, the width and proportion of its charts, every visualization it ever
drew with the network they form, and the panel on show. `broken` tells which visualizations fail to draw,
with the message they fail with. -/
structure Board where
  book : Workbook
  width : Double
  aspect : Double
  network : Network := { groups := [{}] }
  visuals : List Visual := []
  current : Option Panel := none
  broken : Visual → Option String := fun _ => none

namespace Board

def defaultWidth : Double := Double.ofInt 960

/-- The height of a chart for a width of one: nine sixteenths. -/
def defaultAspect : Double := Double.ofInt 9 / Double.ofInt 16

def panelGroup : GroupId := 0

def members (board : Board) : List MemberId := board.network.membersOf panelGroup

def selectionOf (board : Board) (m : MemberId) : Selection :=
  board.network.selectionAt m

def draw (board : Board) (visual : Visual) (selection : Selection) : Except Fault String :=
  match board.broken visual with
  | some message => .error (.foreign "RuntimeError" message)
  | none => visual.html selection

/-- Takes the panel on show away. -/
def clear (board : Board) : Board :=
  { board with network := board.network.dissolve panelGroup, current := none }

def height (board : Board) : Double := board.width * board.aspect

/-- The visualization of a view, with the options that the view gives and, for a chart, the height. -/
def visualOf (board : Board) (sheet : Sheet) (view : View) : Visual :=
  let options := if view.form = .table then view.options
    else Entries.put "height" (.float board.height) view.options
  Visual.onView { form := view.form, container := sheet.id ++ "-" ++ view.id } view options

/-- Puts up one more view. A view that is drawn joins the panel's group. -/
def place (board : Board) (sheet : Sheet) (dataset : String) (view : View) : Slot × Board :=
  let visual := board.visualOf sheet view
  match board.draw visual [] with
  | .ok html =>
    let m := board.network.members.length
    ({ container := visual.container, viewId := view.id, content := .drawn m html },
      { board with
        network := (board.network.addMember { name := visual.container }).join panelGroup m
        visuals := board.visuals ++ [visual] })
  | .error fault =>
    ({ container := visual.container, viewId := view.id
       content := .failed (Panel.failure dataset view fault) }, board)

def placeAll (sheet : Sheet) (dataset : String) : List View → Board → List Slot × Board
  | [], board => ([], board)
  | view :: rest, board =>
    let (slot, board) := board.place sheet dataset view
    let (slots, board) := placeAll sheet dataset rest board
    (slot :: slots, board)

/-- Shows the panel of a dataset in place of the one on show. An unknown dataset changes nothing. -/
def render (board : Board) (dataset : String) : Except Fault Board := do
  let sheet ← board.book.find dataset
  let (slots, board) := placeAll sheet dataset sheet.table.views board.clear
  return { board with current := some { dataset, height := board.height, slots } }

def shown (board : Board) : List MemberId :=
  (board.current.map Panel.visuals).getD []

def selectedRows (board : Board) (m : MemberId) : List Nat :=
  match board.visuals[m]? with
  | some visual => visual.selectedRows (board.selectionOf m)
  | none => []

/-- Draws the element of a slot anew; a view that failed stays as it is. -/
def redrawSlot (board : Board) (slot : Slot) : Except Fault Slot :=
  match slot.content with
  | .failed _ => .ok slot
  | .drawn m _ =>
    match board.visuals[m]? with
    | some visual => do
      return { slot with content := .drawn m (← board.draw visual (board.selectionOf m)) }
    | none => .ok slot

/-- Draws slots anew up to the first one that fails. -/
def redrawSlots (board : Board) : List Slot → Option Fault × List Slot
  | [] => (none, [])
  | slot :: rest =>
    match board.redrawSlot slot with
    | .error fault => (some fault, slot :: rest)
    | .ok fresh =>
      let (fault, slots) := board.redrawSlots rest
      (fault, fresh :: slots)

/-- Draws the panel on show anew, after selections have changed. -/
def redraw (board : Board) : Except Fault Unit × Board :=
  match board.current with
  | none => (.ok (), board)
  | some panel =>
    let (fault, slots) := board.redrawSlots panel.slots
    (match fault with | some f => .error f | none => .ok (),
      { board with current := some { panel with slots } })

/-- The element of the panel on show; nothing when none is. -/
def html (board : Board) (hidden : Bool) : Except Fault String :=
  match board.current with
  | none => .ok ""
  | some panel => do return panel.html (← board.book.find panel.dataset) hidden

def relay {α : Type} (board : Board) (steps : Network.Step α) : Except RelayFault α × Board :=
  let (outcome, network) := Steps.runOn board.network steps
  (outcome, { board with network })

def select (board : Board) (m : MemberId) (selection : Selection) : Board :=
  (board.relay (Network.select m selection)).2

end Board

end CodecReport
