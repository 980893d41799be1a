import CodecReport.Number.Numeral
import CodecReport.Number.Reading
import CodecReport.Proofs.Number.Shortest

/-!
# Numerals read back

What is written of a number reads back as that number. A numeral is digits, with or without a point among
them, and an exponent mark or none; its reading puts the digits together and moves the point. For the fewest
digits the reading has the value of the decimal they were taken from, and for two places it is the number of
hundredths that was written.
-/

namespace CodecReport

open Text Double

/-! ### Digits -/

namespace Text

theorem isAsciiDigit_eq (c : Char) : isAsciiDigit c = c.isDigit := rfl

theorem digitsValue_from (start : Nat) (cs : List Char) :
    cs.foldl (fun value c => 10 * value + (c.toNat - '0'.toNat)) start =
      start * 10 ^ cs.length + digitsValue cs := by
  induction cs generalizing start with
  | nil => simp [digitsValue]
  | cons c rest ih =>
    have hvalue : digitsValue (c :: rest) =
        (c.toNat - '0'.toNat) * 10 ^ rest.length + digitsValue rest := by
      rw [digitsValue, List.foldl_cons, ih, Nat.mul_zero, Nat.zero_add]
    rw [List.foldl_cons, ih, hvalue, List.length_cons, Nat.pow_succ]
    ring

theorem digitsValue_append (xs ys : List Char) :
    digitsValue (xs ++ ys) = digitsValue xs * 10 ^ ys.length + digitsValue ys := by
  rw [digitsValue, List.foldl_append]
  exact digitsValue_from _ ys

theorem digitsValue_zeros (count : Nat) : digitsValue (List.replicate count '0') = 0 := by
  induction count with
  | zero => rfl
  | succ n ih =>
    rw [List.replicate_succ, digitsValue, List.foldl_cons]
    exact ih

/-- Only the digits and the marks of a numeral: a point, an exponent letter and signs. -/
def isNumeralChar (c : Char) : Bool :=
  isAsciiDigit c || c == '.' || c == 'e' || c == '+' || c == '-'

theorem isAsciiDigit_iff {c : Char} : isAsciiDigit c = true ↔ 48 ≤ c.toNat ∧ c.toNat ≤ 57 := by
  rw [isAsciiDigit, Bool.and_eq_true, decide_eq_true_eq, decide_eq_true_eq]
  exact Iff.rfl

/-- A numeral has neither blanks nor underscores nor characters outside ASCII. -/
theorem plain_of_isNumeralChar {c : Char} (hc : isNumeralChar c = true) :
    c.toNat < 128 ∧ isAsciiBlank c = false ∧ c ≠ '_' := by
  simp only [isNumeralChar, Bool.or_eq_true, beq_iff_eq, or_assoc] at hc
  rcases hc with hdigit | rfl | rfl | rfl | rfl
  · obtain ⟨hlow, hhigh⟩ := isAsciiDigit_iff.mp hdigit
    have hspace : c ≠ ' ' := by
      rintro rfl
      exact absurd hlow (by decide)
    have hblank : ¬ (9 ≤ c.toNat ∧ c.toNat ≤ 13) := by omega
    refine ⟨by omega, ?_, ?_⟩
    · simpa [isAsciiBlank, hspace] using hblank
    · rintro rfl
      exact absurd hhigh (by decide)
  · decide
  · decide
  · decide
  · decide

theorem isNumeralChar_of_isAsciiDigit {c : Char} (hc : isAsciiDigit c = true) :
    isNumeralChar c = true := by
  simp [isNumeralChar, hc]

theorem trimBy_of_forall {drop : Char → Bool} {cs : List Char} (hkeep : ∀ c ∈ cs, drop c = false) :
    trimBy drop cs = cs := by
  have hstay : ∀ l : List Char, (∀ c ∈ l, drop c = false) → l.dropWhile drop = l := by
    intro l hl
    cases l with
    | nil => rfl
    | cons c rest => rw [List.dropWhile_cons_of_neg (by simp [hl c List.mem_cons_self])]
  rw [trimBy, hstay cs hkeep, hstay, List.reverse_reverse]
  intro c hc
  exact hkeep c (List.mem_reverse.mp hc)

theorem plainNumeral_of_numeral {cs : List Char} (hcs : ∀ c ∈ cs, isNumeralChar c = true) :
    plainNumeral (String.ofList cs) = cs := by
  have hascii : isAscii cs = true := by
    rw [isAscii, List.all_eq_true]
    intro c hc
    rw [decide_eq_true_eq]
    exact (plain_of_isNumeralChar (hcs c hc)).1
  rw [plainNumeral, String.toList_ofList, if_pos hascii]
  exact trimBy_of_forall fun c hc => (plain_of_isNumeralChar (hcs c hc)).2.1

end Text

theorem misplacedUnderscore_of_forall {cs : List Char} (hcs : ∀ c ∈ cs, c ≠ '_') (afterDigit : Bool) :
    misplacedUnderscore afterDigit cs = false := by
  induction cs generalizing afterDigit with
  | nil => rfl
  | cons c rest ih =>
    have hrest := ih (fun d hd => hcs d (List.mem_cons_of_mem _ hd)) (isAsciiDigit c)
    rw [misplacedUnderscore.eq_def]
    split
    · contradiction
    · rename_i heq
      rw [List.cons.injEq] at heq
      exact absurd heq.1 (hcs c List.mem_cons_self)
    · rename_i heq
      rw [List.cons.injEq] at heq
      obtain ⟨rfl, rfl⟩ := heq
      exact hrest

theorem toList_toString (n : Nat) : (toString n).toList = decimalDigits n := by
  show (Nat.repr n).toList = Nat.toDigits 10 n
  rw [Nat.repr, String.toList_ofList]

theorem decimalDigits_ne_nil (n : Nat) : decimalDigits n ≠ [] :=
  Nat.toDigits_ne_nil

theorem isAsciiDigit_of_mem_decimalDigits {n : Nat} : ∀ c ∈ decimalDigits n, isAsciiDigit c = true := by
  intro c hc
  rw [isAsciiDigit_eq]
  exact Nat.isDigit_of_mem_toDigits (by decide) (by decide) hc

theorem isAsciiDigit_of_mem_zeros {count : Nat} :
    ∀ c ∈ List.replicate count '0', isAsciiDigit c = true := by
  intro c hc
  rw [List.eq_of_mem_replicate hc]
  rfl

@[simp] theorem digitsValue_decimalDigits (n : Nat) : digitsValue (decimalDigits n) = n := by
  have hvalue := Nat.ofDigitChars_ten_toDigits (n := n)
  rw [Nat.ofDigitChars_eq_foldl] at hvalue
  exact hvalue

/-! ### Parts of a numeral -/

/-- No digit stands in front. -/
def NoDigitAhead (cs : List Char) : Prop :=
  cs.takeWhile isAsciiDigit = []

theorem noDigitAhead_nil : NoDigitAhead [] := rfl

theorem takeWhile_digits {digits rest : List Char} (hdigits : ∀ c ∈ digits, isAsciiDigit c = true)
    (hrest : NoDigitAhead rest) : (digits ++ rest).takeWhile isAsciiDigit = digits := by
  rw [List.takeWhile_append_of_pos hdigits, hrest, List.append_nil]

theorem dropWhile_digits {digits rest : List Char} (hdigits : ∀ c ∈ digits, isAsciiDigit c = true)
    (hrest : NoDigitAhead rest) : (digits ++ rest).dropWhile isAsciiDigit = rest := by
  have hsplit := List.takeWhile_append_dropWhile (p := isAsciiDigit) (l := rest)
  rw [hrest, List.nil_append] at hsplit
  rw [List.dropWhile_append_of_pos hdigits, hsplit]

namespace Decimal

variable {whole fraction rest : List Char}

theorem readUnsigned?_point (negative : Bool) (hwhole : ∀ c ∈ whole, isAsciiDigit c = true) (hne : whole ≠ [])
    (hfraction : ∀ c ∈ fraction, isAsciiDigit c = true) (hrest : NoDigitAhead rest) :
    readUnsigned? negative (whole ++ '.' :: (fraction ++ rest)) =
      (readPower? rest).map (ofDigits negative whole fraction) := by
  have hpoint : NoDigitAhead ('.' :: (fraction ++ rest)) := rfl
  have hempty : (whole.isEmpty && fraction.isEmpty) = false := by
    rw [List.isEmpty_eq_false_iff.mpr hne, Bool.false_and]
  simp only [readUnsigned?, takeWhile_digits hwhole hpoint, dropWhile_digits hwhole hpoint,
    takeWhile_digits hfraction hrest, dropWhile_digits hfraction hrest, hempty]
  rfl

theorem readUnsigned?_exponent (negative : Bool) (hwhole : ∀ c ∈ whole, isAsciiDigit c = true) (hne : whole ≠ [])
    (mark : List Char) : readUnsigned? negative (whole ++ 'e' :: mark) =
      (readPower? ('e' :: mark)).map (ofDigits negative whole []) := by
  have hmark : NoDigitAhead ('e' :: mark) := rfl
  have hempty : (whole.isEmpty && ([] : List Char).isEmpty) = false := by
    rw [List.isEmpty_eq_false_iff.mpr hne, Bool.false_and]
  rw [readUnsigned?, takeWhile_digits hwhole hmark, dropWhile_digits hwhole hmark]
  show (if (whole.isEmpty && ([] : List Char).isEmpty) = true then none else
    (readPower? ('e' :: mark)).map (ofDigits negative whole [])) = _
  rw [hempty]
  rfl

theorem readPower?_nil : readPower? [] = some 0 := rfl

theorem readPower?_exponentMark (power : Int) : readPower? (exponentMark power) = some power := by
  have hdigits : ∀ c ∈ List.replicate (2 - (decimalDigits power.natAbs).length) '0' ++
      decimalDigits power.natAbs, isAsciiDigit c = true := by
    intro c hc
    rcases List.mem_append.mp hc with hzero | hdigit
    · exact isAsciiDigit_of_mem_zeros c hzero
    · exact isAsciiDigit_of_mem_decimalDigits c hdigit
  have hvalue : digitsValue (List.replicate (2 - (decimalDigits power.natAbs).length) '0' ++
      decimalDigits power.natAbs) = power.natAbs := by
    rw [digitsValue_append, digitsValue_zeros, Nat.zero_mul, Nat.zero_add, digitsValue_decimalDigits]
  have hne : (List.replicate (2 - (decimalDigits power.natAbs).length) '0' ++
      decimalDigits power.natAbs).isEmpty = false := by
    rw [List.isEmpty_eq_false_iff]
    exact List.append_ne_nil_of_right_ne_nil _ (decimalDigits_ne_nil _)
  have hall := List.all_eq_true.mpr hdigits
  rw [exponentMark]
  generalize List.replicate (2 - (decimalDigits power.natAbs).length) '0' ++
    decimalDigits power.natAbs = digits at hvalue hne hall
  by_cases hneg : power < 0
  · have hpower : -|power| = power := by rw [abs_of_neg hneg, Int.neg_neg]
    simp [readPower?, takeSign, hneg, hvalue, hne, hall, hpower]
  · have hpower : |power| = power := abs_of_nonneg (not_lt.mp hneg)
    simp [readPower?, takeSign, hneg, hvalue, hne, hall, hpower]

/-! ### The fewest digits -/

/-- The numeral of a decimal without its sign. -/
def body (d : Decimal) : List Char :=
  let digits := decimalDigits d.coefficient
  let power := d.exponent + digits.length - 1
  if firstPositional ≤ power && power < firstExponential then positional digits power
  else exponential digits power

theorem numeral_eq (d : Decimal) : d.numeral = signed d.negative d.body := rfl

/-- Characters of numerals of which the first one is a digit. -/
structure IsBody (cs : List Char) : Prop where
  chars : ∀ c ∈ cs, isNumeralChar c = true
  head : ∃ c rest, cs = c :: rest ∧ isAsciiDigit c = true

theorem IsBody.of_digits {digits rest : List Char} (hdigits : ∀ c ∈ digits, isAsciiDigit c = true)
    (hne : digits ≠ []) (hrest : ∀ c ∈ rest, isNumeralChar c = true) : IsBody (digits ++ rest) where
  chars := by
    intro c hc
    rcases List.mem_append.mp hc with hdigit | htail
    · exact isNumeralChar_of_isAsciiDigit (hdigits c hdigit)
    · exact hrest c htail
  head := by
    cases digits with
    | nil => exact absurd rfl hne
    | cons c more => exact ⟨c, more ++ rest, rfl, hdigits c List.mem_cons_self⟩

theorem isNumeralChar_point {fraction : List Char} (hfraction : ∀ c ∈ fraction, isNumeralChar c = true) :
    ∀ c ∈ '.' :: fraction, isNumeralChar c = true := by
  intro c hc
  rcases List.mem_cons.mp hc with rfl | hmem
  · rfl
  · exact hfraction c hmem

theorem isNumeralChar_exponentMark (power : Int) : ∀ c ∈ exponentMark power, isNumeralChar c = true := by
  intro c hc
  simp only [exponentMark, List.mem_cons, List.mem_append] at hc
  rcases hc with rfl | rfl | hzero | hdigit
  · rfl
  · split <;> rfl
  · exact isNumeralChar_of_isAsciiDigit (isAsciiDigit_of_mem_zeros c hzero)
  · exact isNumeralChar_of_isAsciiDigit (isAsciiDigit_of_mem_decimalDigits c hdigit)

/-- How a numeral reads: as the decimal it was written from, with `k` zeros put behind the coefficient, where
`k` is zero unless they reach behind the point. -/
structure ReadsAs (d : Decimal) (cs : List Char) : Prop where
  isBody : IsBody cs
  reads : ∃ k : Nat, (k = 0 ∨ d.exponent - k = -1) ∧
    readUnsigned? d.negative cs = some ⟨d.negative, d.coefficient * 10 ^ k, d.exponent - k⟩

theorem readsAs_exponential (d : Decimal) : ReadsAs d
    (exponential (decimalDigits d.coefficient) (d.exponent + (decimalDigits d.coefficient).length - 1)) := by
  have hdigits := isAsciiDigit_of_mem_decimalDigits (n := d.coefficient)
  have hvalue := digitsValue_decimalDigits d.coefficient
  cases hsplit : decimalDigits d.coefficient with
  | nil => exact absurd hsplit (decimalDigits_ne_nil _)
  | cons digit more =>
    rw [hsplit] at hdigits hvalue
    have hfirst : ∀ c ∈ [digit], isAsciiDigit c = true := by
      intro c hc
      rw [List.mem_singleton] at hc
      exact hdigits c (hc ▸ List.mem_cons_self)
    have hmark := isNumeralChar_exponentMark
    cases more with
    | nil =>
      refine ⟨.of_digits hfirst (List.cons_ne_nil _ _) (hmark _), 0, .inl rfl, ?_⟩
      have hread := readUnsigned?_exponent d.negative hfirst (List.cons_ne_nil _ _)
        (exponentMark (d.exponent + ((1 : Nat) : Int) - 1)).tail
      have hhead : 'e' :: (exponentMark (d.exponent + ((1 : Nat) : Int) - 1)).tail =
          exponentMark (d.exponent + ((1 : Nat) : Int) - 1) := rfl
      rw [hhead, readPower?_exponentMark] at hread
      show readUnsigned? d.negative ([digit] ++ exponentMark (d.exponent + ((1 : Nat) : Int) - 1)) = _
      rw [hread, Option.map_some, ofDigits, List.append_nil, hvalue]
      congr 2
      · rw [Nat.pow_zero, Nat.mul_one]
      · simp
    | cons second more =>
      have hfraction : ∀ c ∈ second :: more, isAsciiDigit c = true :=
        fun c hc => hdigits c (List.mem_cons_of_mem _ hc)
      have hrest : ∀ c ∈ second :: more, isNumeralChar c = true :=
        fun c hc => isNumeralChar_of_isAsciiDigit (hfraction c hc)
      refine ⟨.of_digits hfirst (List.cons_ne_nil _ _) (isNumeralChar_point ?_), 0, .inl rfl, ?_⟩
      · intro c hc
        rcases List.mem_append.mp hc with hmem | hmem
        · exact hrest c hmem
        · exact hmark _ c hmem
      · have hpower : NoDigitAhead
            (exponentMark (d.exponent + ((digit :: second :: more).length : Int) - 1)) := rfl
        have hread := readUnsigned?_point d.negative hfirst (List.cons_ne_nil _ _) hfraction hpower
        rw [readPower?_exponentMark] at hread
        refine hread.trans ?_
        rw [Option.map_some, ofDigits, List.singleton_append, hvalue]
        congr 2
        · rw [Nat.pow_zero, Nat.mul_one]
        · simp only [List.length_cons]
          omega

theorem readsAs_small {d : Decimal}
    (hpower : d.exponent + (decimalDigits d.coefficient).length - 1 < 0) : ReadsAs d
    (positional (decimalDigits d.coefficient) (d.exponent + (decimalDigits d.coefficient).length - 1)) := by
  have hzero : ∀ c ∈ ['0'], isAsciiDigit c = true := List.forall_mem_singleton.mpr rfl
  have hne : ['0'] ≠ [] := List.cons_ne_nil _ _
  generalize hcount : (-(d.exponent + (decimalDigits d.coefficient).length - 1) - 1).toNat = count
  have hfraction : ∀ c ∈ List.replicate count '0' ++ decimalDigits d.coefficient,
      isAsciiDigit c = true := by
    intro c hc
    rcases List.mem_append.mp hc with hmem | hmem
    · exact isAsciiDigit_of_mem_zeros c hmem
    · exact isAsciiDigit_of_mem_decimalDigits c hmem
  rw [positional, if_pos hpower, hcount]
  refine ⟨.of_digits hzero hne (isNumeralChar_point ?_), 0, .inl rfl, ?_⟩
  · exact fun c hc => isNumeralChar_of_isAsciiDigit (hfraction c hc)
  · have hread := readUnsigned?_point d.negative hzero hne hfraction noDigitAhead_nil
    rw [List.append_nil] at hread
    refine hread.trans ?_
    rw [readPower?_nil, Option.map_some, ofDigits, digitsValue_append, digitsValue_append,
      digitsValue_zeros, digitsValue_decimalDigits]
    congr 2
    · show 0 * _ + (0 * _ + d.coefficient) = _
      ring
    · rw [List.length_append, List.length_replicate]
      omega

theorem readsAs_large {d : Decimal}
    (hpower : ¬ d.exponent + (decimalDigits d.coefficient).length - 1 < 0) : ReadsAs d
    (positional (decimalDigits d.coefficient) (d.exponent + (decimalDigits d.coefficient).length - 1)) := by
  have hlength := List.length_pos_iff.mpr (decimalDigits_ne_nil d.coefficient)
  generalize hwhole : (d.exponent + (decimalDigits d.coefficient).length - 1).toNat + 1 = whole
  generalize hcount : whole + 1 - (decimalDigits d.coefficient).length = count
  generalize hpadded : decimalDigits d.coefficient ++ List.replicate count '0' = padded
  have hpaddedLength : padded.length = (decimalDigits d.coefficient).length + count := by
    rw [← hpadded, List.length_append, List.length_replicate]
  have hdigits : ∀ c ∈ padded, isAsciiDigit c = true := by
    intro c hc
    rw [← hpadded] at hc
    rcases List.mem_append.mp hc with hmem | hmem
    · exact isAsciiDigit_of_mem_decimalDigits c hmem
    · exact isAsciiDigit_of_mem_zeros c hmem
  have hvalue : digitsValue padded = d.coefficient * 10 ^ count := by
    rw [← hpadded, digitsValue_append, digitsValue_zeros, digitsValue_decimalDigits, Nat.add_zero,
      List.length_replicate]
  have htake : ∀ c ∈ padded.take whole, isAsciiDigit c = true :=
    fun c hc => hdigits c (List.mem_of_mem_take hc)
  have hdrop : ∀ c ∈ padded.drop whole, isAsciiDigit c = true :=
    fun c hc => hdigits c (List.mem_of_mem_drop hc)
  have hne : padded.take whole ≠ [] := by
    rw [← List.length_pos_iff, List.length_take]
    omega
  simp only [positional, if_neg hpower, hwhole, hcount, hpadded]
  refine ⟨.of_digits htake hne (isNumeralChar_point ?_), count, ?_, ?_⟩
  · exact fun c hc => isNumeralChar_of_isAsciiDigit (hdrop c hc)
  · omega
  · have hread := readUnsigned?_point d.negative htake hne hdrop noDigitAhead_nil
    rw [List.append_nil] at hread
    refine hread.trans ?_
    rw [readPower?_nil, Option.map_some, ofDigits, List.take_append_drop, hvalue, List.length_drop]
    congr 2
    omega

/-- The numeral of a decimal reads as a decimal of the same value. -/
theorem readsAs_body (d : Decimal) : ReadsAs d d.body := by
  rw [body]
  split
  · by_cases hpower : d.exponent + (decimalDigits d.coefficient).length - 1 < 0
    · exact readsAs_small hpower
    · exact readsAs_large hpower
  · exact readsAs_exponential d

theorem toDouble_congr {d e : Decimal} (hd : Moderate d.exponent) (he : Moderate e.exponent)
    (hnegative : d.negative = e.negative) (hunits : d.units = e.units) : d.toDouble = e.toDouble := by
  have hdenD : 0 < 10 ^ (-d.exponent).toNat := Nat.pow_pos (by decide)
  have hdenE : 0 < 10 ^ (-e.exponent).toNat := Nat.pow_pos (by decide)
  have hnearD := isNearest_nearestUnits (d.coefficient * 10 ^ d.exponent.toNat * unitsPerOne) hdenD
  have hnearE := isNearest_nearestUnits (e.coefficient * 10 ^ e.exponent.toNat * unitsPerOne) hdenE
  rw [← units_eq_div] at hnearD hnearE
  rw [← hunits] at hnearE
  have hsame := hnearD.unique hnearE
  rw [toDouble_eq hd, toDouble_eq he, ofRatio, ofRatio, ofUnitRatio, ofUnitRatio, hnegative]
  simp only [hsame]

theorem units_shift (d : Decimal) (k : Nat) :
    (⟨d.negative, d.coefficient * 10 ^ k, d.exponent - k⟩ : Decimal).units = d.units := by
  have hpow : (10 : ℚ) ^ d.exponent = (10 ^ k : Nat) * 10 ^ (d.exponent - k) :=
    ten_zpow_split k (by omega)
  rw [units_mk, units, hpow]
  push_cast
  ring

end Decimal

open Decimal

/-! ### Numbers -/

/-- A numeral is no word. -/
theorem ofWord?_of_isBody {cs : List Char} (hcs : IsBody cs) (negative : Bool) :
    ofWord? negative cs = none := by
  obtain ⟨c, rest, rfl, hc⟩ := hcs.head
  have hlower : c.toLower = c := by
    have hhigh := (isAsciiDigit_iff.mp hc).2
    apply dif_neg
    intro hupper
    have hlow : 65 ≤ c.toNat := hupper.1
    omega
  have hword : ∀ word : String, word.toList.head?.all (fun first => !isAsciiDigit first) = true →
      String.ofList ((c :: rest).map Char.toLower) ≠ word := by
    intro word hfirst heq
    rw [← heq, String.toList_ofList, List.map_cons, hlower, List.head?_cons, Option.all_some, hc] at hfirst
    cases hfirst
  have hinf := hword "inf" (by decide)
  have hinfinity := hword "infinity" (by decide)
  have hnan := hword "nan" (by decide)
  rw [ofWord?, if_neg (not_or.mpr ⟨hinf, hinfinity⟩), if_neg hnan]

/-- A numeral with or without a sign reads as what its digits read as. -/
theorem ofText?_of_isBody {cs : List Char} (hcs : IsBody cs) (negative : Bool) :
    ofText? (String.ofList (signed negative cs)) = (readUnsigned? negative cs).map toDouble := by
  have hchars : ∀ c ∈ signed negative cs, isNumeralChar c = true := by
    cases negative with
    | false => exact hcs.chars
    | true =>
      intro c hc
      rcases List.mem_cons.mp hc with rfl | hmem
      · rfl
      · exact hcs.chars c hmem
  have hunderscore : ∀ c ∈ signed negative cs, c ≠ '_' := by
    intro c hc
    exact (plain_of_isNumeralChar (hchars c hc)).2.2
  have hfilter : (signed negative cs).filter (· != '_') = signed negative cs := by
    rw [List.filter_eq_self]
    intro c hc
    rw [bne_iff_ne]
    exact hunderscore c hc
  have hsign : takeSign (signed negative cs) = (negative, cs) := by
    obtain ⟨c, rest, rfl, hc⟩ := hcs.head
    cases negative with
    | true => rfl
    | false =>
      rw [signed, if_neg Bool.false_ne_true, takeSign.eq_def]
      split
      · rename_i heq
        rw [List.cons.injEq] at heq
        rw [heq.1] at hc
        cases hc
      · rename_i heq
        rw [List.cons.injEq] at heq
        rw [heq.1] at hc
        cases hc
      · rfl
  simp only [ofText?, plainNumeral_of_numeral hchars, misplacedUnderscore_of_forall hunderscore, hfilter,
    hsign, ofWord?_of_isBody hcs, Bool.false_eq_true, if_false]

theorem ofText?_nonFiniteText {d : Double} (hd : d.isFinite = false) :
    ofText? d.nonFiniteText = some d := by
  cases d with
  | nan => decide +kernel
  | infinite negative => cases negative <;> decide +kernel
  | finite => cases hd

/-- The fewest digits read back as the number they were taken from. -/
theorem ofText?_text (d : Double) : ofText? d.text = some d := by
  cases d with
  | nan => exact ofText?_nonFiniteText rfl
  | infinite negative => exact ofText?_nonFiniteText rfl
  | finite negative units hunits =>
    have hmoderate : Moderate (shortest negative units).exponent := by
      rcases eq_or_ne units 0 with rfl | hpos
      · rw [shortest_zero]
        show Moderate 0
        exact ⟨by decide, by decide⟩
      · exact moderate_shortest negative hunits hpos
    obtain ⟨hbody, k, hk, hread⟩ := readsAs_body (shortest negative units)
    have hmoderate' : Moderate ((shortest negative units).exponent - k) := by
      rcases hk with rfl | hk
      · simpa using hmoderate
      · rw [hk]
        exact ⟨by decide, by decide⟩
    have hsame : (⟨(shortest negative units).negative, (shortest negative units).coefficient * 10 ^ k,
        (shortest negative units).exponent - k⟩ : Decimal).toDouble = (shortest negative units).toDouble :=
      toDouble_congr hmoderate' hmoderate rfl (units_shift _ k)
    rw [text, numeral_eq, ofText?_of_isBody hbody, hread, Option.map_some, hsame,
      toDouble_shortest negative hunits]

/-! ### Two places -/

/-- The whole number of hundredths that `fixed2` writes. -/
def shownHundredths (units : Nat) : Nat :=
  roundDiv .toEven (units * 100) unitsPerOne

/-- Two digits for the hundredths behind the point. -/
def centDigits (count : Nat) : List Char :=
  List.replicate (2 - (decimalDigits (count % 100)).length) '0' ++ decimalDigits (count % 100)

theorem fixed2_finite {negative : Bool} {units : Nat} (hunits : Representable units) :
    (finite negative units hunits).fixed2 = String.ofList (signed negative
      (decimalDigits (shownHundredths units / 100) ++ '.' :: centDigits (shownHundredths units))) :=
  rfl

theorem length_centDigits (count : Nat) : (centDigits count).length = 2 := by
  have hmost : (decimalDigits (count % 100)).length ≤ 2 := by
    rw [decimalDigits, Nat.length_toDigits_le_iff (by decide) (by decide)]
    exact Nat.mod_lt count (by decide)
  rw [centDigits, List.length_append, List.length_replicate]
  omega

theorem isAsciiDigit_of_mem_centDigits (count : Nat) : ∀ c ∈ centDigits count, isAsciiDigit c = true := by
  intro c hc
  rcases List.mem_append.mp hc with hmem | hmem
  · exact isAsciiDigit_of_mem_zeros c hmem
  · exact isAsciiDigit_of_mem_decimalDigits c hmem

/-- A number written with two places reads as the hundredths that were written. -/
theorem ofText?_fixed2_finite {negative : Bool} {units : Nat} (hunits : Representable units) :
    ofText? (finite negative units hunits).fixed2 =
      some (toDouble ⟨negative, shownHundredths units, -2⟩) := by
  generalize hcount : shownHundredths units = count
  have hwhole := isAsciiDigit_of_mem_decimalDigits (n := count / 100)
  have hfraction := isAsciiDigit_of_mem_centDigits count
  have hne := decimalDigits_ne_nil (count / 100)
  have hbody : IsBody (decimalDigits (count / 100) ++ '.' :: centDigits count) :=
    .of_digits hwhole hne
      (isNumeralChar_point fun c hc => isNumeralChar_of_isAsciiDigit (hfraction c hc))
  have hread := readUnsigned?_point negative hwhole hne hfraction noDigitAhead_nil
  rw [List.append_nil] at hread
  have hvalue : digitsValue (decimalDigits (count / 100) ++ centDigits count) = count := by
    rw [digitsValue_append, length_centDigits, digitsValue_decimalDigits, centDigits, digitsValue_append,
      digitsValue_zeros, digitsValue_decimalDigits, Nat.zero_mul, Nat.zero_add]
    exact Nat.div_add_mod' count 100
  rw [fixed2_finite, hcount, ofText?_of_isBody hbody, hread, readPower?_nil, Option.map_some,
    Option.map_some, ofDigits, hvalue, length_centDigits]
  rfl

end CodecReport
