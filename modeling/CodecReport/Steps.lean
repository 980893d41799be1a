/-!
# Running steps

Steps change a state and may be stopped by a fault; what was done before the fault stays done. The
equations say what a run of composed steps does, so that nothing else has to look into how steps are
put together.
-/

namespace CodecReport

/-- Steps on a state of type `σ` that a fault of type `ε` may stop. -/
abbrev Steps (ε σ : Type) := ExceptT ε (StateM σ)

namespace Steps

variable {ε σ α β : Type}

def runOn (s : σ) (steps : Steps ε σ α) : Except ε α × σ :=
  Id.run (StateT.run (ExceptT.run steps) s)

def ofResult (result : Except ε α) : Steps ε σ α :=
  ExceptT.mk (pure result)

@[simp] theorem runOn_pure (s : σ) (a : α) : runOn s (pure a : Steps ε σ α) = (.ok a, s) := rfl

@[simp] theorem runOn_throw (s : σ) (e : ε) : runOn s (throw e : Steps ε σ α) = (.error e, s) := rfl

@[simp] theorem runOn_get (s : σ) : runOn s (get : Steps ε σ σ) = (.ok s, s) := rfl

@[simp] theorem runOn_set (s t : σ) : runOn s (set t : Steps ε σ PUnit) = (.ok ⟨⟩, t) := rfl

@[simp] theorem runOn_modify (s : σ) (f : σ → σ) :
    runOn s (modify f : Steps ε σ PUnit) = (.ok ⟨⟩, f s) := rfl

@[simp] theorem runOn_ofResult (s : σ) (result : Except ε α) :
    runOn s (ofResult result) = (result, s) := rfl

/-- Steps go on only where the ones before them were not stopped. -/
theorem runOn_bind (s : σ) (steps : Steps ε σ α) (next : α → Steps ε σ β) :
    runOn s (steps >>= next) = match runOn s steps with
      | (.ok a, t) => runOn t (next a)
      | (.error e, t) => (.error e, t) := by
  rcases hrun : runOn s steps with ⟨_ | a, t⟩ <;>
    simp only [runOn, ExceptT.run_bind, StateT.run_bind, Id.run] at hrun ⊢ <;> rw [hrun] <;> rfl

theorem runOn_bind_ok {s t : σ} {steps : Steps ε σ α} {a : α} (hrun : runOn s steps = (.ok a, t))
    (next : α → Steps ε σ β) : runOn s (steps >>= next) = runOn t (next a) := by
  rw [runOn_bind, hrun]

theorem runOn_bind_error {s t : σ} {steps : Steps ε σ α} {e : ε} (hrun : runOn s steps = (.error e, t))
    (next : α → Steps ε σ β) : runOn s (steps >>= next) = (.error e, t) := by
  rw [runOn_bind, hrun]

/-- Steps may be replaced by others that do the same, behind whatever was done before. -/
theorem runOn_bind_congr {next other : α → Steps ε σ β} (hnext : ∀ a t, runOn t (next a) = runOn t (other a))
    (s : σ) (steps : Steps ε σ α) : runOn s (steps >>= next) = runOn s (steps >>= other) := by
  rw [runOn_bind, runOn_bind]
  rcases runOn s steps with ⟨_ | a, t⟩
  · rfl
  · exact hnext a t

/-- Steps one after the other either both come to an end, or the first ones are stopped. -/
theorem runOn_bind_cases {s : σ} {steps : Steps ε σ α} {next : α → Steps ε σ β}
    {result : Except ε β × σ} (hrun : runOn s (steps >>= next) = result) :
    (∃ a t, runOn s steps = (.ok a, t) ∧ runOn t (next a) = result) ∨
      ∃ e t, runOn s steps = (.error e, t) ∧ result = (.error e, t) := by
  rw [runOn_bind] at hrun
  rcases hfirst : runOn s steps with ⟨e | a, t⟩
  · rw [hfirst] at hrun
    exact .inr ⟨e, t, rfl, hrun.symm⟩
  · rw [hfirst] at hrun
    exact .inl ⟨a, t, rfl, hrun⟩

/-- Steps that come to an end have done so up to any place between them. -/
theorem ok_of_bind {s : σ} {steps : Steps ε σ α} {next : α → Steps ε σ β} {b : β}
    (hok : (runOn s (steps >>= next)).1 = .ok b) :
    ∃ a t, runOn s steps = (.ok a, t) ∧ (runOn t (next a)).1 = .ok b := by
  rw [runOn_bind] at hok
  rcases hsteps : runOn s steps with ⟨e | a, t⟩ <;> rw [hsteps] at hok
  · cases hok
  · exact ⟨a, t, rfl, hok⟩

theorem ok_of_ofResult_bind {s : σ} {result : Except ε α} {next : α → Steps ε σ β} {b : β}
    (hok : (runOn s (ofResult result >>= next)).1 = .ok b) :
    ∃ a, result = .ok a ∧ (runOn s (next a)).1 = .ok b := by
  cases result with
  | error fault => cases hok
  | ok a => exact ⟨a, rfl, hok⟩

theorem runOn_map (s : σ) (steps : Steps ε σ α) (f : α → β) :
    runOn s (f <$> steps) = ((runOn s steps).1.map f, (runOn s steps).2) := by
  rw [map_eq_pure_bind, runOn_bind]
  rcases runOn s steps with ⟨_ | a, t⟩ <;> rfl

/-- A step for every item of a list, each of which only changes the state. -/
theorem runOn_forIn {ι : Type} (items : List ι) (change : ι → σ → σ) (s : σ) :
    runOn s (forIn items PUnit.unit fun item _ => do
      modify (change item)
      pure (ForInStep.yield PUnit.unit) : Steps ε σ PUnit) =
      (.ok ⟨⟩, items.foldl (fun s item => change item s) s) := by
  induction items generalizing s with
  | nil => rfl
  | cons item rest ih =>
    rw [List.forIn_cons, bind_assoc, runOn_bind_ok (runOn_modify s _), pure_bind]
    exact ih (change item s)

end Steps

end CodecReport
