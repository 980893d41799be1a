import Mathlib.Data.List.Forall2

/-!
# Steps that give a result or a fault

When a chain of fallible steps gives a result, and what a fallible step over a list gives.
-/

namespace CodecReport

variable {ε ε' α β : Type}

theorem bind_eq_ok_iff {x : Except ε α} {f : α → Except ε β} {b : β} :
    x >>= f = .ok b ↔ ∃ a, x = .ok a ∧ f a = .ok b := by
  cases x with
  | error e => simp [bind, Except.bind]
  | ok a => simp [bind, Except.bind]

theorem map_eq_ok_iff {x : Except ε α} {f : α → β} {b : β} :
    f <$> x = .ok b ↔ ∃ a, x = .ok a ∧ f a = b := by
  cases x with
  | error e => simp [Functor.map, Except.map]
  | ok a => simp [Functor.map, Except.map]

theorem mapError_eq_ok_iff {x : Except ε α} {f : ε → ε'} {a : α} :
    x.mapError f = .ok a ↔ x = .ok a := by
  cases x with
  | error e => simp [Except.mapError]
  | ok a => simp [Except.mapError]

theorem exists_ok_of_isOk {x : Except ε α} (hok : x.isOk = true) : ∃ a, x = .ok a := by
  cases x with
  | error e => cases hok
  | ok a => exact ⟨a, rfl⟩

theorem eq_ok_getD_of_isOk {x : Except ε α} (hok : x.isOk = true) (fallback : α) :
    x = .ok (x.toOption.getD fallback) := by
  obtain ⟨a, rfl⟩ := exists_ok_of_isOk hok
  rfl

@[simp] theorem pure_eq_ok (a : α) : (pure a : Except ε α) = .ok a :=
  rfl

theorem mapM_eq_ok_iff {f : α → Except ε β} {xs : List α} {ys : List β} :
    xs.mapM f = .ok ys ↔ List.Forall₂ (fun x y => f x = .ok y) xs ys := by
  induction xs generalizing ys with
  | nil => cases ys <;> simp
  | cons x xs ih =>
    rw [List.mapM_cons, bind_eq_ok_iff, List.forall₂_cons_left_iff]
    constructor
    · intro h
      obtain ⟨y, hy, htail⟩ := h
      obtain ⟨ys', hys, heq⟩ := bind_eq_ok_iff.mp htail
      rw [pure_eq_ok, Except.ok.injEq] at heq
      exact ⟨y, ys', hy, ih.mp hys, heq.symm⟩
    · intro h
      obtain ⟨y, ys', hy, htail, rfl⟩ := h
      exact ⟨y, hy, bind_eq_ok_iff.mpr ⟨ys', ih.mpr htail, rfl⟩⟩

/-- Where a step can only give what a function says, a list of results is the function over the list. -/
theorem mapM_eq_ok_map {f : α → Except ε β} {g : α → β} (hg : ∀ x y, f x = .ok y → g x = y)
    {xs : List α} {ys : List β} (hok : xs.mapM f = .ok ys) :
    ys = xs.map g ∧ ∀ x ∈ xs, f x = .ok (g x) := by
  rw [mapM_eq_ok_iff] at hok
  induction hok with
  | nil => exact ⟨rfl, fun _ h => absurd h List.not_mem_nil⟩
  | @cons x y xs ys hfirst _ ih =>
    obtain rfl := hg x y hfirst
    obtain ⟨rfl, hrest⟩ := ih
    exact ⟨rfl, List.forall_mem_cons.mpr ⟨hfirst, hrest⟩⟩

theorem mapM_of_ok {f : α → Except ε β} {g : α → β} {xs : List α} (hok : ∀ x ∈ xs, f x = .ok (g x)) :
    xs.mapM f = .ok (xs.map g) := by
  rw [mapM_eq_ok_iff, List.forall₂_map_right_iff, List.forall₂_same]
  exact hok

theorem exists_of_mem_forall₂ {R : α → β → Prop} {xs : List α} {ys : List β} (h : List.Forall₂ R xs ys) {y : β}
    (hy : y ∈ ys) : ∃ x ∈ xs, R x y := by
  induction h with
  | nil => exact absurd hy List.not_mem_nil
  | @cons x first xs rest hfirst _ ih =>
    rcases List.mem_cons.mp hy with rfl | hmem
    · exact ⟨x, List.mem_cons_self, hfirst⟩
    · obtain ⟨found, hfound, hrelated⟩ := ih hmem
      exact ⟨found, List.mem_cons_of_mem x hfound, hrelated⟩

theorem exists_of_mem_mapM {f : α → Except ε β} {xs : List α} {ys : List β} (hok : xs.mapM f = .ok ys)
    {y : β} (hy : y ∈ ys) : ∃ x ∈ xs, f x = .ok y :=
  exists_of_mem_forall₂ (mapM_eq_ok_iff.mp hok) hy

/-- Where a step gives an image of what another one gives, so do the steps over a list. -/
theorem mapM_eq_map {γ : Type} {f : α → Except ε β} {g : α → Except ε γ} {h : β → γ}
    (hg : ∀ x, g x = h <$> f x) (xs : List α) : xs.mapM g = List.map h <$> xs.mapM f := by
  induction xs with
  | nil => rfl
  | cons x rest ih =>
    rw [List.mapM_cons, List.mapM_cons, hg, ih]
    cases f x with
    | error fault => rfl
    | ok y => cases rest.mapM f <;> rfl

/-- Steps that go on from an image go on from what it is an image of. -/
theorem bind_eq_map_bind {γ δ : Type} {x : Except ε β} {y : Except ε α} {f : α → β} {g : γ → δ}
    {k : β → Except ε δ} {next : α → Except ε γ} (hx : x = f <$> y) (hnext : ∀ a, k (f a) = g <$> next a) :
    x >>= k = g <$> (y >>= next) := by
  rw [hx]
  cases y with
  | error fault => rfl
  | ok a => exact hnext a

theorem exists_bind_pure_ok_iff {x : Except ε α} {g : α → β} :
    (∃ b, (x >>= fun a => pure (g a)) = .ok b) ↔ ∃ a, x = .ok a := by
  simp only [bind_eq_ok_iff, pure_eq_ok, Except.ok.injEq]
  constructor
  · intro h
    obtain ⟨_, a, ha, -⟩ := h
    exact ⟨a, ha⟩
  · intro h
    obtain ⟨a, ha⟩ := h
    exact ⟨g a, a, ha, rfl⟩

/-- Related partners for the members of a list make a related list. -/
theorem exists_forall₂_iff {R : α → β → Prop} {xs : List α} :
    (∃ ys, List.Forall₂ R xs ys) ↔ ∀ x ∈ xs, ∃ y, R x y := by
  induction xs with
  | nil => exact iff_of_true ⟨[], .nil⟩ fun _ h => nomatch h
  | cons x xs ih =>
    rw [List.forall_mem_cons, ← ih]
    constructor
    · intro h
      obtain ⟨_, _ | ⟨hy, hys⟩⟩ := h
      exact ⟨⟨_, hy⟩, _, hys⟩
    · intro h
      obtain ⟨⟨y, hy⟩, ys, hys⟩ := h
      exact ⟨y :: ys, .cons hy hys⟩

/-- A step over a list gives a result when it does for every member. -/
theorem exists_mapM_ok_iff {f : α → Except ε β} {xs : List α} :
    (∃ ys, xs.mapM f = .ok ys) ↔ ∀ x ∈ xs, ∃ y, f x = .ok y := by
  simp only [mapM_eq_ok_iff]
  exact exists_forall₂_iff

/-- The one fault that a step can end with. -/
def FailsOnlyWith (e : ε) (x : Except ε α) : Prop :=
  ∀ e', x = .error e' → e' = e

namespace FailsOnlyWith

variable {e : ε}

theorem ok (a : α) : FailsOnlyWith e (.ok a) :=
  fun _ h => nomatch h

theorem bind {x : Except ε α} {f : α → Except ε β} (hx : FailsOnlyWith e x)
    (hf : ∀ a, FailsOnlyWith e (f a)) : FailsOnlyWith e (x >>= f) := by
  cases x with
  | error e' =>
    intro e'' h
    obtain rfl := Except.error.inj h
    exact hx _ rfl
  | ok a => exact hf a

theorem mapM {f : α → Except ε β} (hf : ∀ a, FailsOnlyWith e (f a)) (xs : List α) :
    FailsOnlyWith e (xs.mapM f) := by
  induction xs with
  | nil => exact ok []
  | cons x xs ih =>
    rw [List.mapM_cons]
    exact (hf x).bind fun y => ih.bind fun ys => ok (y :: ys)

end FailsOnlyWith

/-- Two computations fail with the same fault, or neither fails. -/
def FailAlike (x : Except ε α) (y : Except ε β) : Prop :=
  x.map (fun _ => ()) = y.map (fun _ => ())

namespace FailAlike

variable {γ δ : Type} {x : Except ε α} {y : Except ε β}

theorem refl (x : Except ε α) : FailAlike x x := rfl

theorem pure (a : α) (b : β) : FailAlike (pure a : Except ε α) (pure b : Except ε β) := rfl

theorem isOk (h : FailAlike x y) {a : α} (hx : x = .ok a) : ∃ b, y = .ok b := by
  cases y with
  | ok b => exact ⟨b, rfl⟩
  | error fault =>
    rw [hx] at h
    cases h

theorem error (h : FailAlike x y) {fault : ε} (hx : x = .error fault) : y = .error fault := by
  cases y with
  | ok b =>
    rw [hx] at h
    cases h
  | error found =>
    rw [hx] at h
    cases h
    rfl

theorem bind (h : FailAlike x y) {f : α → Except ε γ} {g : β → Except ε δ}
    (hnext : ∀ a b, FailAlike (f a) (g b)) : FailAlike (x >>= f) (y >>= g) := by
  cases x with
  | ok a =>
    obtain ⟨b, rfl⟩ := h.isOk rfl
    exact hnext a b
  | error fault =>
    obtain rfl := h.error rfl
    exact .refl _

theorem bind_self (x : Except ε α) {f : α → Except ε γ} {g : α → Except ε δ}
    (hnext : ∀ a, FailAlike (f a) (g a)) : FailAlike (x >>= f) (x >>= g) := by
  cases x with
  | ok a => exact hnext a
  | error fault => exact .refl _

theorem mapM {ι : Type} {f : ι → Except ε α} {g : ι → Except ε β} (h : ∀ i, FailAlike (f i) (g i))
    (items : List ι) : FailAlike (items.mapM f) (items.mapM g) := by
  induction items with
  | nil => exact .refl _
  | cons i rest ih =>
    rw [List.mapM_cons, List.mapM_cons]
    exact (h i).bind fun _ _ => ih.bind fun _ _ => .pure _ _

end FailAlike

end CodecReport
