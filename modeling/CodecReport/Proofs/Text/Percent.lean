import CodecReport.Text.Percent

/-!
# Percent encoding is undone

An encoded text is one run of ASCII characters, so decoding reads the bytes of the whole text back and then the
characters from the bytes. Both steps go on behind a character with what is left, whatever that is.
-/

namespace CodecReport.Text

/-! ### UTF-8 -/

def utf8Bytes (c : Char) : List Nat :=
  (String.utf8EncodeChar c).map UInt8.toNat

theorem scalar_toNat (c : Char) : scalar c.toNat = c := by
  have hvalid : c.toNat.isValidChar := c.valid
  rw [scalar, dif_pos hvalid]
  exact Char.ext (UInt32.toNat_inj.mp rfl)

theorem utf8Step_ascii {b : Nat} (hb : b < 0x80) (rest : List Nat) : utf8Step b rest = .ok (b, []) :=
  if_pos hb

/-- A first byte with the bytes it asks for makes a character, whatever stands behind them. -/
theorem utf8Step_of_lead {b low high first code : Nat} {later : List Nat}
    (hlead : leadByte? b = some (later.length + 1, low, high)) (hb : 0x80 ≤ b) (hfirst : low ≤ first ∧ first ≤ high)
    (hlater : ∀ x ∈ later, isContinuation x = true)
    (hcode : joinBytes (leadPayload (later.length + 1) b) (first :: later) = code) (rest : List Nat) :
    utf8Step b (first :: later ++ rest) = .ok (code, first :: later) := by
  have hmore : followers (later.length + 1) low high (first :: later ++ rest) = first :: later := by
    have hall : (later ++ []).takeWhile isContinuation = later ++ [] := List.takeWhile_append_of_pos hlater
    rw [List.append_nil] at hall
    simp [followers, hfirst, hall]
  rw [utf8Step, if_neg (by omega), hlead]
  simp only [hmore, List.length_cons, if_true, hcode]

section Lead

variable {v : Nat}

theorem leadByte?_two (hlow : 0x80 ≤ v) (hhigh : v < 0x800) :
    leadByte? (v / 64 % 32 + 0xC0) = some (1, 0x80, 0xBF) := by
  rw [leadByte?, if_pos (by omega)]

/-- The second of three bytes keeps the code above those of two bytes and out of the surrogates. -/
theorem leadByte?_three (hlow : 0x800 ≤ v) (hhigh : v < 0x10000) (hvalid : v < 0xD800 ∨ 0xDFFF < v) :
    ∃ low high, leadByte? (v / 4096 % 16 + 0xE0) = some (2, low, high) ∧
      low ≤ v / 64 % 64 + 0x80 ∧ v / 64 % 64 + 0x80 ≤ high := by
  by_cases hzero : v < 0x1000
  · exact ⟨0xA0, 0xBF, by rw [leadByte?, if_neg (by omega), if_pos (by omega)], by omega, by omega⟩
  by_cases hsurrogate : 0xD000 ≤ v ∧ v < 0xE000
  · refine ⟨0x80, 0x9F, ?_, by omega, by omega⟩
    rw [leadByte?, if_neg (by omega), if_neg (by omega), if_pos (by omega)]
  · refine ⟨0x80, 0xBF, ?_, by omega, by omega⟩
    rw [leadByte?, if_neg (by omega), if_neg (by omega), if_neg (by omega), if_pos (by omega)]

/-- The second of four bytes keeps the code above those of three bytes and within the characters. -/
theorem leadByte?_four (hlow : 0x10000 ≤ v) (hhigh : v < 0x110000) :
    ∃ low high, leadByte? (v / 262144 % 8 + 0xF0) = some (3, low, high) ∧
      low ≤ v / 4096 % 64 + 0x80 ∧ v / 4096 % 64 + 0x80 ≤ high := by
  by_cases hzero : v < 0x40000
  · refine ⟨0x90, 0xBF, ?_, by omega, by omega⟩
    rw [leadByte?, if_neg (by omega), if_neg (by omega), if_neg (by omega), if_neg (by omega), if_pos (by omega)]
  by_cases hlast : 0x100000 ≤ v
  · refine ⟨0x80, 0x8F, ?_, by omega, by omega⟩
    rw [leadByte?, if_neg (by omega), if_neg (by omega), if_neg (by omega), if_neg (by omega), if_neg (by omega),
      if_neg (by omega), if_pos (by omega)]
  · refine ⟨0x80, 0xBF, ?_, by omega, by omega⟩
    rw [leadByte?, if_neg (by omega), if_neg (by omega), if_neg (by omega), if_neg (by omega), if_neg (by omega),
      if_pos (by omega)]

end Lead

section Bytes

variable {c : Char}

theorem utf8Bytes_one (hc : c.toNat < 0x80) : utf8Bytes c = [c.toNat] := by
  have hone : c.toNat ≤ 127 := Nat.le_of_lt_succ hc
  have hbyte : c.toNat % 2 ^ 8 = c.toNat := Nat.mod_eq_of_lt (Nat.lt_trans hc (by decide))
  simp only [utf8Bytes, String.utf8EncodeChar, Char.toNat_val, if_pos hone, List.map_cons, List.map_nil,
    UInt8.toNat_ofNat', hbyte]

theorem utf8Bytes_two (hlow : 0x80 ≤ c.toNat) (hhigh : c.toNat < 0x800) :
    utf8Bytes c = [c.toNat / 64 % 32 + 0xC0, c.toNat % 64 + 0x80] := by
  have hone : ¬c.toNat ≤ 127 := by omega
  have htwo : c.toNat ≤ 2047 := by omega
  simp only [utf8Bytes, String.utf8EncodeChar, Char.toNat_val, if_neg hone, if_pos htwo, List.map_cons,
    List.map_nil, UInt8.toNat_ofNat', List.cons.injEq, and_true]
  omega

theorem utf8Bytes_three (hlow : 0x800 ≤ c.toNat) (hhigh : c.toNat < 0x10000) :
    utf8Bytes c = [c.toNat / 4096 % 16 + 0xE0, c.toNat / 64 % 64 + 0x80, c.toNat % 64 + 0x80] := by
  have hone : ¬c.toNat ≤ 127 := by omega
  have htwo : ¬c.toNat ≤ 2047 := by omega
  have hthree : c.toNat ≤ 65535 := by omega
  simp only [utf8Bytes, String.utf8EncodeChar, Char.toNat_val, if_neg hone, if_neg htwo, if_pos hthree,
    List.map_cons, List.map_nil, UInt8.toNat_ofNat', List.cons.injEq, and_true]
  omega

theorem utf8Bytes_four (hlow : 0x10000 ≤ c.toNat) :
    utf8Bytes c = [c.toNat / 262144 % 8 + 0xF0, c.toNat / 4096 % 64 + 0x80, c.toNat / 64 % 64 + 0x80,
      c.toNat % 64 + 0x80] := by
  have hone : ¬c.toNat ≤ 127 := by omega
  have htwo : ¬c.toNat ≤ 2047 := by omega
  have hthree : ¬c.toNat ≤ 65535 := by omega
  simp only [utf8Bytes, String.utf8EncodeChar, Char.toNat_val, if_neg hone, if_neg htwo, if_neg hthree,
    List.map_cons, List.map_nil, UInt8.toNat_ofNat', List.cons.injEq, and_true]
  omega

end Bytes

theorem isContinuation_low (n : Nat) : isContinuation (n % 64 + 0x80) = true := by
  simp only [isContinuation, Bool.and_eq_true, decide_eq_true_eq]
  omega

/-- The bytes of a character are read as that character, whatever stands behind them. -/
theorem utf8Step_utf8Bytes (c : Char) :
    ∃ b more, utf8Bytes c = b :: more ∧ ∀ rest, utf8Step b (more ++ rest) = .ok (c.toNat, more) := by
  have hvalid : c.toNat < 0xD800 ∨ 0xDFFF < c.toNat ∧ c.toNat < 0x110000 := c.valid
  by_cases hone : c.toNat < 0x80
  · exact ⟨c.toNat, [], utf8Bytes_one hone, fun rest => utf8Step_ascii hone _⟩
  by_cases htwo : c.toNat < 0x800
  · refine ⟨_, _, utf8Bytes_two (by omega) htwo, utf8Step_of_lead (leadByte?_two (by omega) htwo) (by omega)
      (by omega) (by simp) ?_⟩
    simp only [joinBytes, leadPayload, List.length_nil, List.foldl_cons, List.foldl_nil]
    omega
  by_cases hthree : c.toNat < 0x10000
  · obtain ⟨low, high, hlead, hrange⟩ := leadByte?_three (by omega) hthree (by omega)
    refine ⟨_, _, utf8Bytes_three (by omega) hthree, utf8Step_of_lead hlead (by omega) hrange
      (by simp [isContinuation_low]) ?_⟩
    simp only [joinBytes, leadPayload, List.length_cons, List.length_nil, List.foldl_cons, List.foldl_nil]
    omega
  · obtain ⟨low, high, hlead, hrange⟩ := leadByte?_four (v := c.toNat) (by omega) (by omega)
    refine ⟨_, _, utf8Bytes_four (by omega), utf8Step_of_lead hlead (by omega) hrange
      (by simp [isContinuation_low]) ?_⟩
    simp only [joinBytes, leadPayload, List.length_cons, List.length_nil, List.foldl_cons, List.foldl_nil]
    omega

/-- The bytes of a text are read as that text, with a step for each of them to spend. -/
theorem decodeUtf8Leniently_utf8Bytes (cs : List Char) {fuel : Nat} (hfuel : (cs.flatMap utf8Bytes).length ≤ fuel) :
    decodeUtf8Leniently fuel (cs.flatMap utf8Bytes) = cs := by
  induction cs generalizing fuel with
  | nil => cases fuel <;> rfl
  | cons c rest ih =>
    obtain ⟨b, more, hbytes, hstep⟩ := utf8Step_utf8Bytes c
    rw [List.flatMap_cons, hbytes] at hfuel ⊢
    rw [List.length_append, List.length_cons] at hfuel
    obtain ⟨fuel, rfl⟩ : ∃ less, fuel = less + 1 := ⟨fuel - 1, by omega⟩
    rw [List.cons_append, decodeUtf8Leniently, hstep]
    simp only [List.drop_left, scalar_toNat]
    rw [ih (by omega)]

/-! ### Percent signs -/

/-- What an encoded text is made of: characters of ASCII that mean nothing between the parts of a query. -/
def IsQuoted (c : Char) : Prop :=
  c.toNat < 128 ∧ c ∉ ['&', '=', '?']

theorem isQuoted_of_isUnreserved {c : Char} (hc : isUnreserved c = true) : IsQuoted c := by
  refine ⟨?_, ?_⟩
  · have hupper (h : c.isUpper = true) : c.toNat ≤ 90 := (of_decide_eq_true h).2
    have hlower (h : c.isLower = true) : c.toNat ≤ 122 := of_decide_eq_true (Bool.and_eq_true_iff.mp h).2
    have hdigit (h : c.isDigit = true) : c.toNat ≤ 57 := of_decide_eq_true (Bool.and_eq_true_iff.mp h).2
    simp only [isUnreserved, Bool.or_eq_true, beq_iff_eq] at hc
    rcases hc with (((hletter | rfl) | rfl) | rfl) | rfl
    · rcases Bool.or_eq_true_iff.mp hletter with halpha | hnumber
      · rcases Bool.or_eq_true_iff.mp halpha with hcapital | hsmall
        · exact Nat.lt_of_le_of_lt (hupper hcapital) (by decide)
        · exact Nat.lt_of_le_of_lt (hlower hsmall) (by decide)
      · exact Nat.lt_of_le_of_lt (hdigit hnumber) (by decide)
    all_goals decide
  · intro hmark
    have hmarks : ['&', '=', '?'].all (!isUnreserved ·) = true := by decide
    have hfree := List.all_eq_true.mp hmarks c hmark
    rw [hc] at hfree
    cases hfree

theorem hexValue?_hexDigit : ∀ n < 16, hexValue? (hexDigit n) = some n := by
  decide

theorem hexDigit_ne_plus : ∀ n < 16, hexDigit n ≠ '+' := by
  decide

theorem isQuoted_hexDigit {n : Nat} (hn : n < 16) : IsQuoted (hexDigit n) := by
  have hall : ∀ n < 16, (hexDigit n).toNat < 128 ∧ hexDigit n ∉ ['&', '=', '?'] := by decide
  exact hall n hn

theorem isQuoted_of_mem_percentByte {b : UInt8} {c : Char} (hc : c ∈ percentByte b.toNat) : IsQuoted c := by
  have hbyte : b.toNat < 256 := b.toNat_lt
  simp only [percentByte, List.mem_cons, List.not_mem_nil, or_false] at hc
  rcases hc with rfl | rfl | rfl
  · exact ⟨by decide, by decide⟩
  · exact isQuoted_hexDigit (by omega)
  · exact isQuoted_hexDigit (by omega)

theorem isQuoted_of_mem_quotePlus {cs : List Char} {c : Char} (hc : c ∈ quotePlus cs) : IsQuoted c := by
  obtain ⟨d, _, hc⟩ := List.mem_flatMap.mp hc
  rw [quoteCharPlus] at hc
  split at hc
  next hd => rw [List.mem_singleton.mp hc]; exact isQuoted_of_isUnreserved hd
  next =>
    split at hc
    next => rw [List.mem_singleton.mp hc]; exact ⟨by decide, by decide⟩
    next =>
      obtain ⟨b, _, hc⟩ := List.mem_flatMap.mp hc
      exact isQuoted_of_mem_percentByte hc

/-! ### Reading an encoded text -/

def plusAsBlank (c : Char) : Char :=
  if c = '+' then ' ' else c

theorem percentBytes_cons_of_ne {c : Char} (hc : c ≠ '%') (rest : List Char) :
    percentBytes (c :: rest) = c.toNat :: percentBytes rest := by
  rw [percentBytes]
  rintro a b more rfl
  exact absurd rfl hc

theorem percentBytes_percentByte (b : UInt8) (rest : List Char) :
    percentBytes ((percentByte b.toNat).map plusAsBlank ++ rest) = b.toNat :: percentBytes rest := by
  have hbyte : b.toNat < 256 := b.toNat_lt
  have hhigh : b.toNat / 16 < 16 := by omega
  have hlow : b.toNat % 16 < 16 := by omega
  have hkept : (percentByte b.toNat).map plusAsBlank = percentByte b.toNat := by
    simp [percentByte, plusAsBlank, hexDigit_ne_plus _ hhigh, hexDigit_ne_plus _ hlow]
  rw [hkept]
  show percentBytes ('%' :: hexDigit (b.toNat / 16) :: hexDigit (b.toNat % 16) :: rest) = _
  rw [percentBytes, hexValue?_hexDigit _ hhigh, hexValue?_hexDigit _ hlow]
  simp only [Nat.div_add_mod]

theorem percentBytes_percentBytes (bytes : List UInt8) (rest : List Char) :
    percentBytes ((bytes.flatMap fun b => percentByte b.toNat).map plusAsBlank ++ rest) =
      bytes.map UInt8.toNat ++ percentBytes rest := by
  induction bytes with
  | nil => rfl
  | cons b more ih =>
    rw [List.flatMap_cons, List.map_append, List.append_assoc, percentBytes_percentByte, ih]
    rfl

/-- The encoding of a character gives the bytes of the character, whatever stands behind it. -/
theorem percentBytes_quoteCharPlus (c : Char) (rest : List Char) :
    percentBytes ((quoteCharPlus c).map plusAsBlank ++ rest) = utf8Bytes c ++ percentBytes rest := by
  rw [quoteCharPlus]
  split
  next hc =>
    have hplus : c ≠ '+' := by rintro rfl; exact absurd hc (by decide)
    have hpercent : c ≠ '%' := by rintro rfl; exact absurd hc (by decide)
    rw [utf8Bytes_one (isQuoted_of_isUnreserved hc).1, List.map_singleton, plusAsBlank, if_neg hplus]
    exact percentBytes_cons_of_ne hpercent rest
  next =>
    split
    next hblank =>
      subst hblank
      rfl
    next => exact percentBytes_percentBytes _ rest

theorem percentBytes_quotePlus (cs : List Char) :
    percentBytes ((quotePlus cs).map plusAsBlank) = cs.flatMap utf8Bytes := by
  induction cs with
  | nil => rfl
  | cons c rest ih =>
    rw [quotePlus, List.flatMap_cons, List.map_append, percentBytes_quoteCharPlus, List.flatMap_cons]
    exact congrArg (utf8Bytes c ++ ·) ih

/-- A text of ASCII characters is one run. -/
theorem percentDecodeFrom_of_ascii {cs : List Char} (hcs : ∀ c ∈ cs, c.toNat < 128) (run : List Char) :
    percentDecodeFrom run cs = decodeRun (cs.reverse ++ run) := by
  induction cs generalizing run with
  | nil => rfl
  | cons c rest ih =>
    obtain ⟨hc, hrest⟩ := List.forall_mem_cons.mp hcs
    rw [percentDecodeFrom, if_pos hc, ih hrest, List.reverse_cons, List.append_assoc]
    rfl

/-- What is encoded is decoded, whatever characters it has. -/
theorem unquotePlus_quotePlus (cs : List Char) : unquotePlus (quotePlus cs) = cs := by
  have hascii : ∀ c ∈ (quotePlus cs).map plusAsBlank, c.toNat < 128 := by
    intro c hc
    obtain ⟨d, hd, rfl⟩ := List.mem_map.mp hc
    rw [plusAsBlank]
    split
    · decide
    · exact (isQuoted_of_mem_quotePlus hd).1
  rw [show unquotePlus (quotePlus cs) = percentDecodeFrom [] ((quotePlus cs).map plusAsBlank) from rfl,
    percentDecodeFrom_of_ascii hascii, decodeRun, List.append_nil, List.reverse_reverse, percentBytes_quotePlus]
  exact decodeUtf8Leniently_utf8Bytes cs (Nat.le_refl _)

end CodecReport.Text
