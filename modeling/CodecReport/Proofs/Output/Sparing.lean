import CodecReport.Output
import CodecReport.Proofs.Outcome

/-!
# Faults that are not told as faults of the configuration

A run tells some faults as faults of its configuration and ends with a status of its own. None of what is done
once output is written ends with such a fault: a setting that cannot be told, a value that is no number and a
view that cannot be drawn are faults of other kinds.
-/

namespace CodecReport

/-- If a step ends with a fault, it is one of these. -/
def FailsWithin {α : Type} (faults : Fault → Prop) (result : Except Fault α) : Prop :=
  ∀ fault, result = .error fault → faults fault

namespace FailsWithin

variable {faults : Fault → Prop} {α β : Type}

theorem ok (a : α) : FailsWithin faults (.ok a) := nofun

theorem error {fault : Fault} (h : faults fault) : FailsWithin faults (.error fault : Except Fault α) := by
  intro found hfound
  obtain rfl := Except.error.inj hfound
  exact h

theorem bind {result : Except Fault α} {next : α → Except Fault β} (h : FailsWithin faults result)
    (hnext : ∀ a, FailsWithin faults (next a)) : FailsWithin faults (result >>= next) := by
  cases result with
  | ok a => exact hnext a
  | error fault => exact error (h fault rfl)

theorem map {result : Except Fault α} (f : α → β) (h : FailsWithin faults result) :
    FailsWithin faults (f <$> result) := by
  cases result with
  | ok a => exact ok _
  | error fault => exact error (h fault rfl)

theorem mapM {step : α → Except Fault β} (h : ∀ a, FailsWithin faults (step a)) (items : List α) :
    FailsWithin faults (items.mapM step) := by
  induction items with
  | nil => exact ok []
  | cons a rest ih =>
    rw [List.mapM_cons]
    exact (h a).bind fun _ => ih.bind fun _ => ok _

theorem mapError {ε : Type} {told : ε → Fault} (h : ∀ e, faults (told e)) (result : Except ε α) :
    FailsWithin faults (result.mapError told) := by
  cases result with
  | ok a => exact ok a
  | error e => exact error (h e)

end FailsWithin

/-- A fault that is not told as one of the configuration. -/
def Fault.SparesConfig (fault : Fault) : Prop :=
  ∀ f, fault ≠ .config f

theorem Fault.sparesConfig_disk (f : DiskFault) : SparesConfig (.disk f) := nofun

/-- No fault that a step ends with is told as one of the configuration. -/
abbrev SparesConfig {α : Type} (result : Except Fault α) : Prop :=
  FailsWithin Fault.SparesConfig result

namespace SparesConfig

open FailsWithin

/-! ### Settings -/

theorem entry (v : Value) (key : String) : SparesConfig (Value.entry? v key) := by
  cases v <;> first | exact ok _ | exact error nofun

theorem entryD (v : Value) (key : String) (default : Value) : SparesConfig (v.entryD key default) :=
  (entry v key).bind fun _ => ok _

theorem configSection (v : Value) (name : String) : SparesConfig (v.configSection name) :=
  (entryD v name .null).bind fun _ => ok _

theorem told (v : Value) : SparesConfig v.told := by
  rw [Value.told]
  split <;> first | exact ok _ | exact error nofun

theorem toldEntry (v : Value) (key default : String) : SparesConfig (v.toldEntry key default) :=
  (entryD v key _).bind told

theorem members (v : Value) : SparesConfig v.members := by
  cases v <;> first | exact ok _ | exact error nofun

/-! ### Views -/

theorem resolveAll (v : View) (refs : List ColumnRef) : SparesConfig (v.resolveAll refs) := by
  refine mapM (fun ref => ?_) refs
  rw [ColumnRef.resolve]
  split <;> first | exact ok _ | exact error nofun

theorem frame (v : View) : SparesConfig v.frame := by
  refine (mapM (fun ref => ?_) v.refs).bind fun _ => ok _
  refine bind ?_ fun _ => ok _
  rw [ColumnRef.resolve]
  split <;> first | exact ok _ | exact error nofun

theorem coordinatesOf (cells : List Value) : SparesConfig (coordinatesOf cells) := by
  refine mapM (fun cell => ?_) cells
  rw [Value.coordinate]
  split <;> first | exact ok _ | exact error nofun

theorem categories (v : View) : SparesConfig v.categories := by
  refine (frame v).bind fun cells => ?_
  cases cells <;> first | exact ok _ | exact error nofun

theorem seriesColumns (v : View) : SparesConfig v.seriesColumns :=
  (resolveAll v _).bind fun _ => ok _

theorem lengths (v : View) (column : Column) : SparesConfig (v.lengths column) :=
  (frame v).bind fun _ => coordinatesOf _

theorem points (v : View) : SparesConfig v.points := by
  refine (frame v).bind fun cells => (resolveAll v _).bind fun columns => ?_
  split
  · exact (coordinatesOf _).bind fun _ => (coordinatesOf _).bind fun _ => ok _
  · exact error nofun

theorem axisLabel (axis : Value) (default : String) : SparesConfig (Picture.axisLabel axis default) :=
  (entry axis _).bind fun _ => ok _

theorem fromZero (axis : Value) : SparesConfig (ChartOptions.fromZero axis) :=
  (entry axis _).bind fun _ => ok _

/-! ### Pages and panels -/

theorem settings (config : Value) : SparesConfig (Page.settings config) :=
  configSection _ _

theorem prefill (page : Value) : SparesConfig (Page.prefill page) := by
  refine (entryD page _ _).bind fun query => ?_
  dsimp only
  split
  · exact (told query).bind fun _ => ok _
  · exact ok _

theorem highlights (page : Value) : SparesConfig (Page.highlights page) :=
  (entryD page _ _).bind fun _ => members _

theorem highlightKeys (wanted : List Value) : SparesConfig (Page.highlightKeys wanted) :=
  mapM (fun v => (told v).map Text.lower) wanted

theorem board (book : Workbook) (page : Value) : SparesConfig (Page.board book page) := by
  refine (entryD page _ _).bind fun width => ?_
  split <;> first | exact ok _ | exact error nofun

end SparesConfig

end CodecReport
