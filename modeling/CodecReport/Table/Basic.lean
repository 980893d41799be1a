import CodecReport.Value.Basic

/-!
# Tables

A table has named columns of cells, all of one length. The tables of the library show one record per row
and keep account of the cells that are not finite.
-/

namespace CodecReport

inductive CellKind
  | text
  | number
  deriving DecidableEq, Repr

structure Column where
  name : String
  label : String
  kind : CellKind
  deriving DecidableEq, Repr

abbrev Frame := Entries (List Value)

namespace Frame

/-- The number of rows; a frame without columns has none. -/
def rowCount (frame : Frame) : Nat :=
  match frame with
  | [] => 0
  | (_, cells) :: _ => cells.length

def row (frame : Frame) (i : Nat) : List Value :=
  frame.map fun (_, cells) => cells.getD i .null

/-- The first rows of columns, as many as told: the heads of all columns, then the rows of their tails. -/
def rowsOf (columns : List (List Value)) : (count : Nat) → List (List Value)
  | 0 => []
  | count + 1 => columns.map (·.headD .null) :: rowsOf (columns.map List.tail) count

def rows (frame : Frame) : List (List Value) :=
  rowsOf (frame.map (·.2)) (rowCount frame)

theorem rowsOf_eq_map (columns : List (List Value)) (count : Nat) :
    rowsOf columns count = (List.range count).map fun i => columns.map (·.getD i .null) := by
  induction count generalizing columns with
  | zero => rfl
  | succ n ih =>
    have hhead : (fun c : List Value => c.headD .null) = fun c => c.getD 0 .null := by
      funext c; cases c <;> rfl
    have htail : (fun i => (columns.map List.tail).map fun c => c.getD i .null)
        = fun i => columns.map fun c => c.getD (i + 1) .null := by
      funext i
      rw [List.map_map]
      refine List.map_congr_left fun c _ => ?_
      cases c <;> rfl
    rw [rowsOf, ih, List.range_succ_eq_map, List.map_cons, List.map_map, hhead, htail]
    rfl

/-- Row `i` holds the cells at position `i`. -/
theorem rows_eq_map (frame : Frame) : rows frame = (List.range (rowCount frame)).map (row frame) := by
  rw [rows, rowsOf_eq_map]
  refine List.map_congr_left fun i _ => ?_
  rw [row, List.map_map]
  rfl

@[simp] theorem length_rows (frame : Frame) : (rows frame).length = rowCount frame := by
  simp [rows_eq_map]

end Frame

structure NonFiniteCell where
  dataset : String
  row : Nat
  column : String
  value : Double
  deriving DecidableEq

def NonFiniteCell.text (c : NonFiniteCell) : String :=
  c.dataset ++ ": row " ++ toString c.row ++ " column '" ++ c.column ++ "' is " ++ c.value.text

structure Table where
  dataset : String
  columns : List Column
  frame : Frame
  warnings : List NonFiniteCell := []

namespace Table

def rowCount (t : Table) : Nat := t.frame.rowCount

def columnNames (t : Table) : List String := t.columns.map (·.name)

def rows (t : Table) : List (List Value) := t.frame.rows

end Table

end CodecReport
