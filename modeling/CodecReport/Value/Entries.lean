/-!
# Entries

A mapping from texts that keeps the order in which its keys were first written: what a document, a frame
of columns and a set of options have in common. Writing a key again keeps its position.
-/

namespace CodecReport

/-- A mapping from texts, as its entries in order. -/
abbrev Entries (α : Type) := List (String × α)

namespace Entries

variable {α β : Type}

def keys (es : Entries α) : List String := es.map Prod.fst

def get? (es : Entries α) (key : String) : Option α := es.lookup key

/-- The entries with a key written: a known key keeps its position, a new one goes to the end. -/
def put (key : String) (value : α) : Entries α → Entries α
  | [] => [(key, value)]
  | (k, v) :: rest => if k = key then (k, value) :: rest else (k, v) :: put key value rest

/-- The entries written one after the other. -/
def ofList (pairs : List (String × α)) : Entries α :=
  pairs.foldl (fun es (key, value) => put key value es) []

@[simp] theorem get?_nil (key : String) : get? ([] : Entries α) key = none := rfl

theorem get?_put_self (key : String) (value : α) (es : Entries α) :
    get? (put key value es) key = some value := by
  induction es with
  | nil => simp [put, get?]
  | cons e rest ih =>
    obtain ⟨k, v⟩ := e
    by_cases hk : k = key
    · simp [put, hk, get?]
    · have hne : (key == k) = false := by simpa using Ne.symm hk
      simpa [put, hk, get?, List.lookup_cons, hne] using ih

theorem get?_put_of_ne {key other : String} (hne : other ≠ key) (value : α) (es : Entries α) :
    get? (put key value es) other = get? es other := by
  induction es with
  | nil =>
    have hbeq : (other == key) = false := by simpa using hne
    simp [put, get?, List.lookup_cons, hbeq]
  | cons e rest ih =>
    obtain ⟨k, v⟩ := e
    by_cases hk : k = key
    · have : (other == key) = false := by simpa using hne
      simp [put, hk, get?, List.lookup_cons, this]
    · simp only [put, hk, if_false, get?, List.lookup_cons]
      split
      · rfl
      · exact ih

/-- Writing keeps the order of the keys and adds a new one at the end. -/
theorem keys_put (key : String) (value : α) (es : Entries α) :
    keys (put key value es) = if key ∈ keys es then keys es else keys es ++ [key] := by
  induction es with
  | nil => simp [put, keys]
  | cons e rest ih =>
    obtain ⟨k, v⟩ := e
    by_cases hk : k = key
    · simp [put, hk, keys]
    · have hne : key ≠ k := Ne.symm hk
      simp only [keys] at ih
      simp only [put, hk, if_false, keys, List.map_cons, List.mem_cons, hne, false_or, ih]
      by_cases hmem : key ∈ rest.map Prod.fst <;> simp [hmem]

theorem get?_eq_none_iff {key : String} {es : Entries α} : get? es key = none ↔ key ∉ es.keys := by
  rw [get?, List.lookup_eq_none_iff, keys, List.mem_map]
  constructor
  · rintro hnone ⟨entry, hentry, rfl⟩
    simpa using hnone entry hentry
  · intro hkey entry hentry
    simpa using fun heq : key = entry.1 => hkey ⟨entry, hentry, heq.symm⟩

/-- Where keys do not repeat, every entry is found under its key. -/
theorem get?_of_mem {es : Entries α} (hnodup : es.keys.Nodup) {entry : String × α} (hentry : entry ∈ es) :
    get? es entry.1 = some entry.2 := by
  induction es with
  | nil => exact absurd hentry List.not_mem_nil
  | cons first rest ih =>
    obtain ⟨k, v⟩ := first
    obtain ⟨hfirst, hrest⟩ := List.nodup_cons.mp hnodup
    rcases List.mem_cons.mp hentry with rfl | hmem
    · rw [get?, List.lookup_cons_self]
    · have hne : entry.1 ≠ k := by
        intro heq
        exact hfirst (List.mem_map.mpr ⟨entry, hmem, heq⟩)
      have hbeq : (entry.1 == k) = false := by simpa using hne
      simpa only [get?, List.lookup_cons, hbeq] using ih hrest hmem

theorem put_of_new {key : String} (value : α) {es : Entries α} (hnew : key ∉ es.keys) :
    put key value es = es ++ [(key, value)] := by
  induction es with
  | nil => rfl
  | cons first rest ih =>
    obtain ⟨k, v⟩ := first
    simp only [keys, List.map_cons, List.mem_cons, not_or] at hnew
    rw [put, if_neg (Ne.symm hnew.1), ih hnew.2, List.cons_append]

theorem nodup_keys_put (key : String) (value : α) {es : Entries α} (hnodup : es.keys.Nodup) :
    (put key value es).keys.Nodup := by
  rw [keys_put]
  split
  · exact hnodup
  · rename_i hnew
    rw [List.nodup_append]
    refine ⟨hnodup, by simp, ?_⟩
    intro k hk other hother heq
    rw [List.mem_singleton] at hother
    exact hnew (hother ▸ heq ▸ hk)

theorem nodup_keys_ofList (pairs : List (String × α)) : (ofList pairs).keys.Nodup := by
  have hfold : ∀ es : Entries α, es.keys.Nodup →
      (pairs.foldl (fun es (key, value) => put key value es) es).keys.Nodup := by
    induction pairs with
    | nil => exact fun _ h => h
    | cons pair rest ih => exact fun es h => ih _ (nodup_keys_put pair.1 pair.2 h)
  exact hfold [] List.nodup_nil

/-- Pairs whose keys do not repeat are their own entries. -/
theorem ofList_of_nodup {pairs : List (String × α)} (hnodup : (keys pairs).Nodup) : ofList pairs = pairs := by
  have hfold : ∀ es : Entries α, (keys (es ++ pairs)).Nodup →
      pairs.foldl (fun es (key, value) => put key value es) es = es ++ pairs := by
    clear hnodup
    induction pairs with
    | nil => simp
    | cons pair rest ih =>
      intro es h
      have hnew : pair.1 ∉ es.keys := by
        intro hmem
        rw [keys, List.map_append, List.map_cons, List.nodup_append] at h
        exact h.2.2 _ hmem _ List.mem_cons_self rfl
      have hput : put pair.1 pair.2 es = es ++ [pair] := put_of_new pair.2 hnew
      show rest.foldl (fun es (key, value) => put key value es) (put pair.1 pair.2 es) = _
      rw [hput, ih _ (by rwa [List.append_assoc]), List.append_assoc]
      rfl
  exact hfold [] hnodup

end Entries

end CodecReport
