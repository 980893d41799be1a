import CodecReport.Panel.Board

/-!
# Moves on a board

Everything that can be done to a board and to the visualizations it ever drew, those of earlier panels
included: a panel is shown, redrawn or taken away, selections are made, listeners come and go, the datasets
are forgotten and drawing is made to fail. A move that is stopped keeps what was done before it stopped.
-/

namespace CodecReport

/-- What is done to a board. A visualization is given by its place in the network. -/
inductive Move
  /-- The panel of a dataset is shown. -/
  | render (dataset : String)
  | clear
  | redraw
  /-- A user selects: the visualization takes the selection and announces it. -/
  | select (visual : MemberId) (selection : Selection)
  /-- A visualization is given a selection, which it does not announce. -/
  | assign (visual : MemberId) (selection : Selection)
  /-- A listener is added that only records that it was called. -/
  | listen (visual : MemberId) (event : String)
  /-- The listeners to an announcement are removed, or all of them. -/
  | unlisten (visual : MemberId) (event : Option String)
  /-- A selection is passed on to the panel's group on behalf of a visualization. -/
  | broadcast (source : MemberId) (selection : Selection)
  /-- The datasets are forgotten. -/
  | teardown
  /-- A form of visualization fails from now on. -/
  | spoil (form : Form) (message : String)
  /-- Every form is drawn again. -/
  | mend
  deriving DecidableEq, Repr

inductive Answer
  | done
  | shown (visuals : List MemberId)
  | reached (count : Nat)
  deriving DecidableEq, Repr

inductive MoveFault
  | board (fault : Fault)
  | relay (fault : RelayFault)

namespace Board

def blank (book : Workbook) (width aspect : Double) : Board := { book, width, aspect }

abbrev Moving := Steps MoveFault Board

def putUp (sheet : Sheet) (dataset : String) (view : View) : Moving Slot :=
  modifyGet (·.place sheet dataset view)

/-- Shows the panel of a dataset: the dataset is looked up, the board is cleared, the views are put up one
after the other, and then the panel counts as shown. -/
def display (dataset : String) : Moving (List MemberId) := do
  let sheet ← Steps.ofResult (((← get).book.find dataset).mapError .board)
  modify clear
  let slots ← sheet.table.views.mapM (putUp sheet dataset)
  modify fun board => { board with current := some { dataset, height := board.height, slots } }
  return (← get).shown

def onNetwork (change : Network → Network) : Moving Unit :=
  modify fun board => { board with network := change board.network }

def refresh : Moving Unit := do
  let (outcome, board) := (← get).redraw
  set board
  Steps.ofResult (outcome.mapError .board)

def relaying {α : Type} (steps : Network.Step α) : Moving α := do
  let (outcome, board) := (← get).relay steps
  set board
  Steps.ofResult (outcome.mapError .relay)

/-- The board on which a form of visualization fails. -/
def spoil (form : Form) (message : String) (board : Board) : Board :=
  { board with
    broken := fun visual => if visual.form = form then some message else board.broken visual }

def perform : Move → Moving Answer
  | .render dataset => .shown <$> display dataset
  | .clear => (fun _ => .done) <$> (modify clear : Moving Unit)
  | .redraw => (fun _ => .done) <$> refresh
  | .select m selection => (fun _ => .done) <$> relaying (Network.select m selection)
  | .assign m selection => (fun _ => .done) <$> onNetwork (Network.setSelection m selection)
  | .listen m event => (fun _ => .done) <$> onNetwork (Network.listen m event .record)
  | .unlisten m (some event) => (fun _ => .done) <$> onNetwork (Network.unlisten m event)
  | .unlisten m none => (fun _ => .done) <$> onNetwork (Network.unlistenAll m)
  | .broadcast m selection => .reached <$> relaying (Network.broadcast panelGroup (some m) selection)
  | .teardown => (fun _ => .done) <$> (modify fun board => { board with book := [] } : Moving Unit)
  | .spoil form message =>
    (fun _ => .done) <$> (modify (spoil form message) : Moving Unit)
  | .mend =>
    (fun _ => .done) <$> (modify fun board => { board with broken := fun _ => none } : Moving Unit)

def reply (board : Board) (move : Move) : Except MoveFault Answer :=
  (Steps.runOn board (perform move)).1

def after (board : Board) (move : Move) : Board :=
  (Steps.runOn board (perform move)).2

/-- The board behind moves made one after the other, whether or not they were stopped. -/
def play (board : Board) (moves : List Move) : Board :=
  moves.foldl after board

end Board

end CodecReport
