import CodecReport.Proofs.Output.Leaving

/-!
# Pictures that are kept

Of all strokes of a picture only the one that keeps it leaves something behind, under the name that it is
given. A picture is finished with this stroke, so a visualization that is saved leaves one picture.
-/

namespace CodecReport

open FailsWithin

theorem Act.Writes.stroke_of_ne {faults : Fault → Prop} {stroke : Stroke} (hname : stroke.name ≠ "savefig") :
    Writes faults (Act.stroke stroke) {} := by
  have hnone : stroke.keptAs? = none := by
    rw [Stroke.keptAs?]
    split
    · exact if_neg hname
    · rfl
  have hstroke : Writes faults (Act.stroke stroke) _ := Writes.stroke stroke
  rw [hnone] at hstroke
  exact hstroke

namespace Picture

open Act

theorem writes_finish (out : Path) (dpi : Value) :
    Writes Fault.SparesConfig (finish out dpi) { pictures := [out.text] } := by
  refine (Writes.stroke_of_ne (by decide)).andThen fun _ _ => ?_
  refine (Writes.makeFolders Fault.sparesConfig_disk _).andThen fun _ _ => ?_
  exact (Writes.stroke _).followed fun _ => Writes.stroke_of_ne (by decide)

theorem writes_drawSeries (v : View) (width : Double) (k : Nat) (column : Column) :
    Writes Fault.SparesConfig (drawSeries v width k column) {} :=
  .ofResult_bind (SparesConfig.lengths v column) fun _ _ =>
    .ofResult_bind (SparesConfig.categories v) fun _ _ => Writes.stroke_of_ne (by simp)

theorem writes_bars (v : View) (options : ChartOptions) (out : Path) (dpi : Value) :
    Writes Fault.SparesConfig (bars v options out dpi) { pictures := [out.text] } := by
  refine .ofResult_bind (SparesConfig.categories v) fun categories _ => ?_
  refine .ofResult_bind (SparesConfig.seriesColumns v) fun series _ => ?_
  refine (Writes.startPicture rfl).andThen fun _ _ => ?_
  refine (Writes.forM_empty fun _ _ => writes_drawSeries ..).andThen fun _ _ => ?_
  refine (Writes.stroke_of_ne (by simp)).andThen fun _ _ => ?_
  refine (Writes.stroke_of_ne (by simp)).andThen fun _ _ => ?_
  refine .ofResult_bind (SparesConfig.axisLabel _ _) fun _ _ => ?_
  refine (Writes.stroke_of_ne (by simp)).andThen fun _ _ => ?_
  refine .ofResult_bind (SparesConfig.axisLabel _ _) fun _ _ => ?_
  refine (Writes.stroke_of_ne (by simp)).andThen fun _ _ => ?_
  refine (Writes.stroke_of_ne (by simp)).andThen fun _ _ => ?_
  refine (Writes.stroke_of_ne (by simp)).andThen fun _ _ => ?_
  dsimp only
  split
  · exact (Writes.stroke_of_ne (by simp)).andThen fun _ _ => writes_finish out dpi
  · exact writes_finish out dpi

theorem writes_annotate (point : Double × Double × String) : Writes Fault.SparesConfig (annotate point) {} :=
  Writes.stroke_of_ne (by simp)

theorem writes_scatter (v : View) (options : ChartOptions) (out : Path) (dpi : Value) :
    Writes Fault.SparesConfig (scatter v options out dpi) { pictures := [out.text] } := by
  refine .ofResult_bind (SparesConfig.points v) fun p _ => ?_
  refine (Writes.startPicture rfl).andThen fun _ _ => ?_
  refine (Writes.stroke_of_ne (by simp)).andThen fun _ _ => ?_
  refine (Writes.forM_empty fun point _ => writes_annotate point).andThen fun _ _ => ?_
  refine .ofResult_bind (SparesConfig.axisLabel _ _) fun _ _ => ?_
  refine (Writes.stroke_of_ne (by simp)).andThen fun _ _ => ?_
  refine .ofResult_bind (SparesConfig.axisLabel _ _) fun _ _ => ?_
  refine (Writes.stroke_of_ne (by simp)).andThen fun _ _ => ?_
  have hlast : Writes Fault.SparesConfig (do
      Act.stroke { name := "title", args := [.text v.title] }
      Act.stroke { name := "grid", args := [.bool true], named := [("alpha", number (decimal 3 (-1)))] }
      finish out dpi) { pictures := [out.text] } :=
    (Writes.stroke_of_ne (by simp)).andThen fun _ _ =>
      (Writes.stroke_of_ne (by simp)).andThen fun _ _ => writes_finish out dpi
  have hlimited {limited : Bool} {stroke : Stroke} (hname : stroke.name ≠ "savefig") {rest : Act Unit}
      (hrest : Writes Fault.SparesConfig rest { pictures := [out.text] }) : Writes Fault.SparesConfig
      (if limited then (do Act.stroke stroke; rest) else rest) { pictures := [out.text] } := by
    split
    · exact (Writes.stroke_of_ne hname).andThen fun _ _ => hrest
    · exact hrest
  refine .ofResult_bind (SparesConfig.fromZero _) fun _ _ => hlimited (by simp) ?_
  exact .ofResult_bind (SparesConfig.fromZero _) fun _ _ => hlimited (by simp) hlast

end Picture

namespace Visual

open Act

/-- A chart that is saved leaves its picture; what is no chart of its own is not saved. -/
theorem writes_save (v : Visual) (out : Path) (dpi : Value) :
    Writes Fault.SparesConfig (v.save out dpi) { pictures := [out.text] } := by
  rw [save]
  split
  · exact Picture.writes_bars ..
  · exact Picture.writes_scatter ..
  · exact .throw nofun _
  · exact .throw nofun _
  · exact .throw nofun _
  · exact .throw nofun _

end Visual

/-- The name of the picture that a visualization is saved as; only charts that were drawn are. -/
def pictureName? (folder : Path) (dataset : String) (v : Visual) : Option String :=
  match v.form.isChart, v.view with
  | true, some view => some (folder.child (pictureLabel dataset ++ "_" ++ view.id ++ ".png")).text
  | _, _ => none

theorem writes_savePictures (folder : Path) (dataset : String) (dpi : Value) (visuals : List Visual) :
    Act.Writes Fault.SparesConfig (savePictures folder dataset dpi visuals)
      { pictures := visuals.filterMap (pictureName? folder dataset) } := by
  induction visuals with
  | nil => exact .pure []
  | cons visual rest ih =>
    have hsplit : ({ pictures := (visual :: rest).filterMap (pictureName? folder dataset) } : Products) =
        { pictures := (pictureName? folder dataset visual).toList } ++
          { pictures := rest.filterMap (pictureName? folder dataset) } := by
      rw [List.filterMap_cons]
      cases pictureName? folder dataset visual <;> rfl
    rw [hsplit, savePictures, pictureName?]
    cases visual.form.isChart with
    | false => exact ih
    | true =>
      cases visual.view with
      | none => exact ih
      | some view =>
        refine (visual.writes_save _ dpi).bind fun _ _ => ?_
        exact (Act.Writes.print _).andThen fun _ _ => ih.followed fun _ => .pure _

end CodecReport
