import CodecReport.Proofs.Document.Nesting

/-!
# Faults of reading

Whatever a source holds, reading it ends with a document or with a fault, and the fault is one of loading
unless the text exceeds a limit of its reader: an integer of more digits than it may have, or more arrays
and objects open at once than may nest. Both limits are real. A text that starts with too many brackets,
or has too long an integer where a value begins, ends with the fault of that limit.
-/

namespace CodecReport

open Text

namespace Json

/-! ### Texts beyond the limits -/

theorem IsInteger.takeWhile_eq {row rest : List Char} (h : IsInteger row rest) :
    (row ++ rest).takeWhile isAsciiDigit = row := by
  rw [List.takeWhile_append_of_pos h.digits]
  cases rest with
  | nil => simp
  | cons c rest =>
    have hend := h.ends c rfl
    simp only [Bool.not_eq_true'] at hend
    rw [List.takeWhile_cons_of_neg (by rw [hend]; exact Bool.false_ne_true), List.append_nil]

theorem wholeDigits_append {row rest : List Char} (h : IsInteger row rest) (hrow : row ≠ []) :
    wholeDigits (row ++ rest) = row := by
  obtain ⟨c, more, rfl⟩ := List.exists_cons_of_ne_nil hrow
  unfold wholeDigits
  split
  · rename_i heq
    obtain ⟨rfl, -⟩ := List.cons.inj heq
    exact absurd rfl h.nonzero
  · exact h.takeWhile_eq

theorem words_find?_of_digit {c : Char} (hc : isAsciiDigit c) (cs : List Char) :
    (words.find? fun (word, _) => word.toList.isPrefixOf (c :: cs)) = none := by
  have hheads : ∀ entry ∈ words, !entry.1.toList.head?.any isAsciiDigit := by decide
  have hfilled : ∀ entry ∈ words, entry.1.toList ≠ [] := by decide
  refine List.find?_eq_none.mpr fun (word, value) hentry hfront => ?_
  obtain ⟨d, more, hword⟩ := List.exists_cons_of_ne_nil (hfilled _ hentry)
  have hd := hheads _ hentry
  simp only at hword hfront hd
  rw [hword, List.isPrefixOf_cons_cons, Bool.and_eq_true, beq_iff_eq] at hfront
  rw [hword, hfront.1, List.head?_cons, Option.any_some, hc] at hd
  cases hd

theorem readPlain_of_digit {c : Char} (hc : isAsciiDigit c) (cs : List Char) :
    readPlain (c :: cs) = readNumber (c :: cs) := by
  unfold readPlain
  rw [words_find?_of_digit hc]
  simp only
  split
  · rename_i heq
    obtain ⟨rfl, -⟩ := List.cons.inj heq
    cases hc
  · rfl

theorem readNumber_of_long {row rest : List Char} (h : IsInteger row rest)
    (hlong : integerDigitLimit < row.length) :
    readNumber (row ++ rest) = .error (.integerDigits row.length) := by
  have hrow : row ≠ [] := by
    rintro rfl
    exact Nat.not_lt_zero _ hlong
  have hsign : ((row ++ rest).head? == some '-') = false := by
    obtain ⟨c, more, rfl⟩ := List.exists_cons_of_ne_nil hrow
    have hc := h.digits c List.mem_cons_self
    simp only [List.cons_append, List.head?_cons, beq_eq_false_iff_ne, ne_eq, Option.some.injEq]
    rintro rfl
    cases hc
  rw [readNumber]
  simp only [hsign, Bool.false_eq_true, if_false, wholeDigits_append h hrow, List.drop_left, h.fraction,
    fractionDigits_of_empty h.fraction, h.exponent]
  rw [if_neg (by simpa using hrow)]
  simp only [List.isEmpty_nil, Option.isNone_none, Bool.and_self, if_true, if_pos hlong]

theorem readValue_of_long {row rest : List Char} (h : IsInteger row rest)
    (hlong : integerDigitLimit < row.length) (size levels : Nat) :
    readValue size levels (row ++ rest) = .error (.integerDigits row.length) := by
  rw [← readNumber_of_long h hlong]
  cases row with
  | nil => exact absurd hlong (Nat.not_lt_zero _)
  | cons c row =>
    have hc := h.digits c List.mem_cons_self
    rw [List.cons_append, ← readPlain_of_digit hc]
    unfold readValue
    split
    · rename_i heq
      obtain ⟨rfl, -⟩ := List.cons.inj heq
      cases hc
    · rename_i heq
      obtain ⟨rfl, -⟩ := List.cons.inj heq
      cases hc
    · rfl

theorem skipSpace_cons {c : Char} (hspace : isSpace c = false) (cs : List Char) :
    skipSpace (c :: cs) = c :: cs :=
  List.dropWhile_cons_of_neg (by rw [hspace]; exact Bool.false_ne_true)

/-- A fault at the start of an array is the fault of the whole array. -/
theorem readValue_bracket {size levels : Nat} {c : Char} {cs : List Char} {halt : Halt}
    (hspace : isSpace c = false) (hclose : c ≠ ']')
    (h : readValue size levels (c :: cs) = .error halt) :
    readValue size (levels + 1) ('[' :: c :: cs) = .error halt := by
  unfold readValue
  simp only [skipSpace_cons hspace]
  split
  · rename_i heq
    exact absurd (List.cons.inj heq).1 hclose
  · rw [readItems, h]
    rfl

/-- A fault in the first value of an object is the fault of the whole object. -/
theorem readValue_brace (name : String) {size levels : Nat} {text : List Char} {c : Char} {cs : List Char}
    {halt : Halt} (hname : readString text = .ok (name, ':' :: c :: cs)) (hspace : isSpace c = false)
    (h : readValue size levels (c :: cs) = .error halt) :
    readValue size (levels + 1) ('\x7b' :: '"' :: text) = .error halt := by
  have hcolon : skipSpace (':' :: c :: cs) = ':' :: c :: cs := rfl
  have hmembers : readMembers (readValue size levels) (size + 1) ('"' :: text) = .error halt := by
    rw [readMembers.eq_def]
    simp only [hname, bind, Except.bind, hcolon, skipSpace_cons hspace, h]
  have hquote : skipSpace ('"' :: text) = '"' :: text := rfl
  unfold readValue
  simp only [hquote]
  split
  · rename_i heq
    cases heq
  · rw [hmembers]
    rfl

theorem readValue_brackets {size levels : Nat} {c : Char} {cs : List Char} {halt : Halt}
    (hspace : isSpace c = false) (hclose : c ≠ ']') (h : readValue size levels (c :: cs) = .error halt)
    (more : Nat) :
    readValue size (levels + more) (List.replicate more '[' ++ c :: cs) = .error halt := by
  induction more with
  | zero => exact h
  | succ more ih =>
    cases more with
    | zero => exact readValue_bracket hspace hclose h
    | succ more => exact readValue_bracket rfl (by decide) ih

end Json

namespace Document

open Json

/-- The characters of a source; none when its bytes spell no text. -/
def Raw.chars? : Raw → Option (List Char)
  | .text s => some s.toList
  | .bytes bs => (decodeBytes bs).toOption

/-- Reading gives a document or a fault of loading. -/
def LoadsOrRefuses (raw : Raw) : Prop :=
  (∃ doc, read raw = .ok doc) ∨ ∃ fault, read raw = .error (.load fault)

/-- Where the value of a text cannot be read, the text cannot. -/
theorem read_of_readValue {c : Char} {cs : List Char} {halt : Halt} (hmark : c ≠ '\ufeff')
    (hspace : isSpace c = false)
    (h : readValue (c :: cs).length nestingLimit (c :: cs) = .error halt) :
    read (.text (String.ofList (c :: cs))) = .error (ofJsonFault (halt.located (c :: cs))) := by
  have hall : readAll (c :: cs) = .error halt := by
    rw [readAll, skipSpace_cons hspace, h]
    rfl
  rw [read, valueOf, String.toList_ofList, decodeText, if_neg (by simpa using hmark), decode, hall]
  rfl

/-- A fault with which a document is refused although it is none of loading. -/
inductive Exceeds (cs : List Char) : Fault → Prop
  | integerDigits {count : Nat} : integerDigitLimit < count → HasInteger count cs →
      Exceeds cs (.integerDigits count)
  | tooDeep {inObject : Bool} {before : List Char} : before <+: cs → nestingLimit < openAfter before →
      Exceeds cs (.tooDeep inObject)

theorem exceeds_of_decode {cs : List Char} {fault : JsonFault} (h : decode cs = .error fault) :
    (∃ load, ofJsonFault fault = .load load) ∨ Exceeds cs (ofJsonFault fault) := by
  rw [decode] at h
  cases hread : readAll cs with
  | ok value =>
    rw [hread] at h
    cases h
  | error halt =>
    rw [hread] at h
    obtain rfl := Except.error.inj h
    obtain ⟨cause, left, rfl⟩ | ⟨count, rfl, hlimit, hrow⟩ | ⟨inObject, rfl, before, hbefore, hdeep⟩ :=
      readAll_eq_error hread
    · exact .inl ⟨_, rfl⟩
    · exact .inr (.integerDigits hlimit hrow)
    · have hopen := congrArg Nesting.depth (hdeep 0)
      rw [Nat.zero_add] at hopen
      exact .inr (.tooDeep hbefore (Nat.lt_of_lt_of_eq (Nat.lt_succ_self _) hopen.symm))

theorem exceeds_of_valueOf {raw : Raw} {fault : Fault} (h : valueOf raw = .error fault) :
    (∃ load, fault = .load load) ∨ ∃ cs, raw.chars? = some cs ∧ Exceeds cs fault := by
  cases raw with
  | text s =>
    rw [valueOf, decodeText] at h
    split at h
    · exact .inl ⟨_, (Except.error.inj h).symm⟩
    · cases hdecode : decode s.toList with
      | ok value =>
        rw [hdecode] at h
        cases h
      | error found =>
        rw [hdecode] at h
        obtain rfl := Except.error.inj h
        exact (exceeds_of_decode hdecode).imp_right fun hexceeds => ⟨s.toList, rfl, hexceeds⟩
  | bytes bs =>
    rw [valueOf] at h
    cases hchars : decodeBytes bs with
    | error found =>
      rw [hchars] at h
      exact .inl ⟨_, (Except.error.inj h).symm⟩
    | ok cs =>
      rw [hchars] at h
      cases hdecode : decode cs with
      | ok value =>
        simp only [Except.mapError, bind, Except.bind, hdecode, reduceCtorEq] at h
      | error found =>
        simp only [Except.mapError, bind, Except.bind, hdecode, Except.error.injEq] at h
        obtain rfl := h
        refine (exceeds_of_decode hdecode).imp_right fun hexceeds => ⟨cs, ?_, hexceeds⟩
        rw [Raw.chars?, hchars]
        rfl

/-- Reading gives a document or a fault of loading unless the text exceeds a limit, and then the fault is of
that limit. -/
theorem loadsOrRefuses_or_exceeds (raw : Raw) :
    LoadsOrRefuses raw ∨ ∃ cs fault, raw.chars? = some cs ∧ read raw = .error fault ∧ Exceeds cs fault := by
  cases hvalue : valueOf raw with
  | ok value =>
    left
    rw [LoadsOrRefuses, read, hvalue]
    cases hdoc : ofValue value with
    | ok doc => exact .inl ⟨doc, by simp only [bind, Except.bind, hdoc, Except.mapError]⟩
    | error found => exact .inr ⟨.layout found, by simp only [bind, Except.bind, hdoc, Except.mapError]⟩
  | error fault =>
    have hread : read raw = .error fault := by
      rw [read, hvalue]
      rfl
    obtain ⟨load, rfl⟩ | ⟨cs, hcs, hexceeds⟩ := exceeds_of_valueOf hvalue
    · exact .inl (.inr ⟨load, hread⟩)
    · exact .inr ⟨cs, fault, hcs, hread, hexceeds⟩

theorem read_long {levels : Nat} {row rest : List Char} (hlevels : levels ≤ nestingLimit)
    (hrow : IsInteger row rest) (hlong : integerDigitLimit < row.length) :
    read (.text (String.ofList (List.replicate levels '[' ++ (row ++ rest)))) =
      .error (.integerDigits row.length) := by
  have hvalue (size : Nat) := readValue_of_long hrow hlong size (nestingLimit - levels)
  cases row with
  | nil => exact absurd hlong (Nat.not_lt_zero _)
  | cons c row =>
    obtain ⟨hspace, hclose, hmark⟩ : isSpace c = false ∧ c ≠ ']' ∧ c ≠ '\ufeff' := by
      have hc := hrow.digits c List.mem_cons_self
      refine ⟨Bool.eq_false_iff.mpr fun h => ?_, ?_, ?_⟩
      · simp only [isSpace, Bool.or_eq_true, beq_iff_eq] at h
        obtain ((rfl | rfl) | rfl) | rfl := h <;> cases hc
      · rintro rfl
        cases hc
      · rintro rfl
        cases hc
    have hnested (size : Nat) := readValue_brackets hspace hclose (hvalue size) levels
    rw [Nat.sub_add_cancel hlevels] at hnested
    cases levels with
    | zero => exact read_of_readValue hmark hspace (hnested _)
    | succ levels => exact read_of_readValue (by decide) rfl (hnested _)

theorem read_deep {levels : Nat} (hlevels : nestingLimit < levels) (rest : List Char) :
    read (.text (String.ofList (List.replicate levels '[' ++ rest))) = .error (.tooDeep false) := by
  obtain ⟨more, rfl⟩ := Nat.exists_eq_add_of_lt hlevels
  have htext : List.replicate (nestingLimit + more + 1) '[' ++ rest =
      List.replicate nestingLimit '[' ++ '[' :: (List.replicate more '[' ++ rest) := by
    rw [Nat.add_assoc, ← List.replicate_append_replicate, List.append_assoc]
    rfl
  have hnested (size : Nat) :
      readValue size nestingLimit (List.replicate (nestingLimit + more + 1) '[' ++ rest) =
        .error (.tooDeep false) := by
    have hlast : readValue size 0 ('[' :: (List.replicate more '[' ++ rest)) = .error (.tooDeep false) := rfl
    have h := readValue_brackets rfl (by decide) hlast nestingLimit
    rw [Nat.zero_add] at h
    rw [htext]
    exact h
  exact read_of_readValue (by decide) rfl (hnested _)

/-- A document that gives, in place of its only dataset, an integer of 4301 digits. -/
def longInteger : Raw :=
  .text (String.ofList (['\x7b', '"', 'd', '"', ':'] ++ (List.replicate 4301 '1' ++ ['\x7d'])))

theorem read_longInteger : ¬ LoadsOrRefuses longInteger := by
  have hrow : IsInteger (List.replicate 4301 '1') ['\x7d'] :=
    ⟨fun c hc => (List.mem_replicate.mp hc).2 ▸ rfl, by decide, fun c hc => Option.some.inj hc ▸ by decide,
      rfl, rfl⟩
  have hlong : integerDigitLimit < (List.replicate 4301 '1').length := by
    rw [List.length_replicate]
    decide
  have hread : read longInteger = .error (.integerDigits (List.replicate 4301 '1').length) :=
    read_of_readValue (by decide) rfl
      (readValue_brace "d" rfl rfl (readValue_of_long hrow hlong _ 979))
  rintro (⟨doc, hdoc⟩ | ⟨fault, hfault⟩)
  · rw [hread] at hdoc
    cases hdoc
  · rw [hread] at hfault
    cases hfault

end Document

end CodecReport
