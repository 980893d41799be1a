import CodecReport.Proofs.Document.Layout

/-!
# Names of datasets

The members of an object that is read have names that do not repeat: of several members with one name the
last one counts. So the names of the datasets of a document do not repeat either.
-/

namespace CodecReport

/-- The names of the members of an object do not repeat. -/
def Value.NamesOnce : Value → Prop
  | .map members => (Entries.keys members).Nodup
  | _ => True

namespace Json

theorem namesOnce_readNumber {cs left : List Char} {v : Value} (hread : readNumber cs = .ok (v, left)) :
    v.NamesOnce := by
  unfold readNumber at hread
  dsimp only at hread
  generalize (if (cs.head? == some '-') = true then cs.drop 1 else cs) = body at hread
  split at hread
  next => cases hread
  next =>
    split at hread
    next =>
      split at hread
      next => cases hread
      next =>
        cases hread
        trivial
    next =>
      cases hread
      trivial

theorem namesOnce_readPlain {cs left : List Char} {v : Value} (hread : readPlain cs = .ok (v, left)) :
    v.NamesOnce := by
  unfold readPlain at hread
  split at hread
  next word found hfound =>
    cases hread
    have hwords : ∀ entry ∈ words, entry.2.NamesOnce := by
      intro entry hentry
      simp only [words, List.mem_cons, List.not_mem_nil, or_false] at hentry
      rcases hentry with rfl | rfl | rfl | rfl | rfl | rfl <;> trivial
    exact hwords _ (List.mem_of_find?_eq_some hfound)
  next =>
    split at hread
    next =>
      obtain ⟨_, _, hresult⟩ := bind_eq_ok_iff.mp hread
      cases hresult
      trivial
    next => exact namesOnce_readNumber hread

theorem namesOnce_readValue {size depth : Nat} {cs left : List Char} {v : Value}
    (hread : readValue size depth cs = .ok (v, left)) : v.NamesOnce := by
  unfold readValue at hread
  split at hread
  next =>
    split at hread
    next => cases hread
    next =>
      split at hread
      next =>
        cases hread
        trivial
      next =>
        obtain ⟨_, _, hresult⟩ := bind_eq_ok_iff.mp hread
        cases hresult
        trivial
  next =>
    split at hread
    next => cases hread
    next =>
      split at hread
      next =>
        cases hread
        exact List.nodup_nil
      next =>
        obtain ⟨_, _, hresult⟩ := bind_eq_ok_iff.mp hread
        cases hresult
        exact Entries.nodup_keys_ofList _
  next => exact namesOnce_readPlain hread

theorem namesOnce_decode {cs : List Char} {v : Value} (hdecode : decode cs = .ok v) : v.NamesOnce := by
  rw [decode, mapError_eq_ok_iff, readAll] at hdecode
  obtain ⟨⟨found, left⟩, hread, hresult⟩ := bind_eq_ok_iff.mp hdecode
  have hnames := namesOnce_readValue hread
  dsimp only at hresult
  split at hresult
  next =>
    cases hresult
    exact hnames
  next => cases hresult

end Json

namespace Document

theorem namesOnce_valueOf {raw : Raw} {v : Value} (hvalue : valueOf raw = .ok v) : v.NamesOnce := by
  cases raw with
  | text s =>
    rw [valueOf, mapError_eq_ok_iff, Json.decodeText] at hvalue
    split at hvalue
    next => cases hvalue
    next => exact Json.namesOnce_decode hvalue
  | bytes bs =>
    obtain ⟨cs, _, hdecode⟩ := bind_eq_ok_iff.mp hvalue
    rw [mapError_eq_ok_iff] at hdecode
    exact Json.namesOnce_decode hdecode

theorem names_of_datasets {entries : Entries Value} {document : Document}
    (hdocument : datasets entries = .ok document) : Entries.keys document = Entries.keys entries := by
  induction entries generalizing document with
  | nil =>
    cases hdocument
    rfl
  | cons entry rest ih =>
    obtain ⟨first, _, hmore⟩ := bind_eq_ok_iff.mp hdocument
    obtain ⟨more, hrest, hresult⟩ := bind_eq_ok_iff.mp hmore
    cases hresult
    exact congrArg (entry.1 :: ·) (ih hrest)

/-- The names of the datasets of a document that was read do not repeat. -/
theorem nodup_names_of_read {raw : Raw} {document : Document} (hread : read raw = .ok document) :
    (Entries.keys document).Nodup := by
  rw [read] at hread
  obtain ⟨v, hvalue, hdocument⟩ := bind_eq_ok_iff.mp hread
  rw [mapError_eq_ok_iff] at hdocument
  cases v with
  | map entries =>
    rw [names_of_datasets hdocument]
    exact namesOnce_valueOf hvalue
  | _ => cases hdocument

end Document

end CodecReport
