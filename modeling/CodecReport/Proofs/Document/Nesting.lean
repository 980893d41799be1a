import CodecReport.Fault
import Mathlib.Data.List.TakeWhile

/-!
# How far a reader of JSON gets

Every reader takes some characters off the text and stops: at the end of what it reads, at a malformed
place, or at one of two limits, of the digits of an integer and of the arrays and objects that are open at
once. `Within` says so about all of them, with `Nesting` counting what is open by the characters alone: it
knows strings, in which brackets mean nothing, but nothing else of the grammar. The limits are therefore
reached only by texts that are seen to exceed them without being read.
-/

namespace CodecReport

open Text

namespace Json

/-! ### Nesting -/

inductive Mode
  | plain
  | quoted
  /-- Inside a string, behind a backslash. -/
  | escaped
  deriving DecidableEq, Repr

/-- A place in a JSON text: how many arrays and objects are open there, and whether it lies in a string. -/
structure Nesting where
  depth : Nat
  mode : Mode := .plain
  deriving DecidableEq, Repr

namespace Nesting

def step : Nesting → Char → Nesting
  | ⟨depth, .plain⟩, '"' => ⟨depth, .quoted⟩
  | ⟨depth, .plain⟩, '[' => ⟨depth + 1, .plain⟩
  | ⟨depth, .plain⟩, '\x7b' => ⟨depth + 1, .plain⟩
  | ⟨depth, .plain⟩, ']' => ⟨depth - 1, .plain⟩
  | ⟨depth, .plain⟩, '\x7d' => ⟨depth - 1, .plain⟩
  | ⟨depth, .plain⟩, _ => ⟨depth, .plain⟩
  | ⟨depth, .quoted⟩, '"' => ⟨depth, .plain⟩
  | ⟨depth, .quoted⟩, '\\' => ⟨depth, .escaped⟩
  | ⟨depth, .quoted⟩, _ => ⟨depth, .quoted⟩
  | ⟨depth, .escaped⟩, _ => ⟨depth, .quoted⟩

def after (start : Nesting) (cs : List Char) : Nesting := cs.foldl step start

@[simp] theorem after_nil (start : Nesting) : start.after [] = start := rfl

@[simp] theorem after_cons (start : Nesting) (c : Char) (cs : List Char) :
    start.after (c :: cs) = (start.step c).after cs := rfl

theorem after_append (start : Nesting) (cs ds : List Char) :
    start.after (cs ++ ds) = (start.after cs).after ds := List.foldl_append

end Nesting

/-- How many arrays and objects are open at the end of a text. -/
def openAfter (cs : List Char) : Nat := (Nesting.after ⟨0, .plain⟩ cs).depth

/-- Outside of strings the text leads from `up` to `down` open arrays and objects, however many more are
open around it. -/
def Leads (up down : Nat) (cs : List Char) : Prop :=
  ∀ outer, Nesting.after ⟨outer + up, .plain⟩ cs = ⟨outer + down, .plain⟩

theorem Leads.append {a b c : Nat} {cs ds : List Char} (hcs : Leads a b cs) (hds : Leads b c ds) :
    Leads a c (cs ++ ds) := fun outer => by
  rw [Nesting.after_append, hcs, hds]

theorem Leads.lift {a b : Nat} {cs : List Char} (h : Leads a b cs) (more : Nat) :
    Leads (a + more) (b + more) cs := fun outer => by
  have h' := h (outer + more)
  rw [Nat.add_assoc, Nat.add_assoc, Nat.add_comm more, Nat.add_comm more] at h'
  exact h'

/-- Characters that neither open nor close anything. -/
def isFlat (c : Char) : Bool :=
  c != '"' && c != '[' && c != ']' && c != '\x7b' && c != '\x7d'

theorem Nesting.step_of_isFlat {c : Char} (h : isFlat c) (depth : Nat) :
    Nesting.step ⟨depth, .plain⟩ c = ⟨depth, .plain⟩ := by
  simp only [isFlat, Bool.and_eq_true, bne_iff_ne] at h
  obtain ⟨⟨⟨⟨hquote, hopen⟩, hclose⟩, hbrace⟩, hunbrace⟩ := h
  unfold step
  split <;> simp_all

theorem Leads.of_flat {cs : List Char} (h : ∀ c ∈ cs, isFlat c) (a : Nat) : Leads a a cs := by
  intro outer
  induction cs with
  | nil => rfl
  | cons c cs ih =>
    rw [Nesting.after_cons, Nesting.step_of_isFlat (h c List.mem_cons_self)]
    exact ih fun d hd => h d (List.mem_cons_of_mem _ hd)

theorem Leads.bracket : Leads 0 1 ['['] := fun _ => rfl

theorem Leads.brace : Leads 0 1 ['\x7b'] := fun _ => rfl

theorem Leads.unbracket : Leads 1 0 [']'] := fun _ => rfl

theorem Leads.unbrace : Leads 1 0 ['\x7d'] := fun _ => rfl

theorem Leads.comma : Leads 0 0 [','] := fun _ => rfl

theorem Leads.colon : Leads 0 0 [':'] := fun _ => rfl

/-! ### What a reader may end with -/

/-- A row of digits that starts with no zero, where `rest` behind it goes on with no digit, no fraction and
no exponent. -/
structure IsInteger (row rest : List Char) : Prop where
  digits : ∀ c ∈ row, isAsciiDigit c
  nonzero : row.head? ≠ some '0'
  ends : ∀ c ∈ rest.head?, !isAsciiDigit c
  fraction : (fractionDigits rest).1 = []
  exponent : (exponentAt rest).1 = none

/-- An integer of `count` digits stands in the text, outside of strings. -/
def HasInteger (count : Nat) (cs : List Char) : Prop :=
  ∃ before row rest opened, cs = before ++ (row ++ rest) ∧ Leads 0 opened before ∧ IsInteger row rest ∧
    row.length = count

/-- Somewhere in the text `levels` more arrays and objects are open than before it. -/
def Deep (levels : Nat) (cs : List Char) : Prop :=
  ∃ before, before <+: cs ∧ Leads 0 levels before

/-- How reading `cs` may end where at most `levels` arrays and objects may be opened: with a text that leads
from `up` to `down` of them taken off, with a malformed place, or at a limit that the text exceeds. -/
def Within {α : Type} (levels up down : Nat) (cs : List Char) : Except Halt (α × List Char) → Prop
  | .ok (_, left) => ∃ taken, cs = taken ++ left ∧ Leads up down taken
  | .error (.malformed _ _) => True
  | .error (.integerDigits count) => integerDigitLimit < count ∧ HasInteger count cs
  | .error (.tooDeep _) => Deep (levels + 1) cs

namespace Within

variable {α β : Type} {levels up down : Nat} {cs : List Char}

theorem malformed (cause : JsonCause) (left : List Char) :
    Within (α := α) levels up down cs (.error (.malformed cause left)) := trivial

/-- What is read behind a text that opens `opened` arrays and objects. -/
theorem prepend {opened : Nat} {taken left : List Char} {outcome : Except Halt (α × List Char)}
    (htaken : Leads 0 opened taken) (h : Within levels (up + opened) down left outcome) :
    Within (levels + opened) up down (taken ++ left) outcome := by
  match outcome with
  | .ok (_, rest) =>
    obtain ⟨more, rfl, hmore⟩ := h
    have hlead := htaken.lift up
    rw [Nat.zero_add, Nat.add_comm] at hlead
    exact ⟨taken ++ more, (List.append_assoc ..).symm, hlead.append hmore⟩
  | .error (.malformed _ _) => trivial
  | .error (.integerDigits _) =>
    obtain ⟨hlimit, before, row, rest, more, rfl, hbefore, hinteger⟩ := h
    have hlead := hbefore.lift opened
    rw [Nat.zero_add] at hlead
    exact ⟨hlimit, taken ++ before, row, rest, more + opened, (List.append_assoc ..).symm,
      htaken.append hlead, hinteger⟩
  | .error (.tooDeep _) =>
    obtain ⟨before, hbefore, hlead⟩ := h
    have hdeep := htaken.append (by simpa only [Nat.zero_add] using hlead.lift opened)
    rw [Nat.add_right_comm] at hdeep
    exact ⟨taken ++ before, (List.prefix_append_right_inj taken).mpr hbefore, hdeep⟩

theorem bind {x : Except Halt (α × List Char)} {f : α × List Char → Except Halt (β × List Char)}
    (hx : Within levels 0 0 cs x) (hf : ∀ a left, Within levels up down left (f (a, left))) :
    Within levels up down cs (x >>= f) := by
  match x with
  | .ok (a, left) =>
    obtain ⟨taken, rfl, htaken⟩ := hx
    exact prepend htaken (hf a left)
  | .error (.malformed _ _) => trivial
  | .error (.integerDigits _) => exact hx
  | .error (.tooDeep _) => exact hx

theorem map {x : Except Halt (α × List Char)} (hx : Within levels up down cs x) (g : α → β) :
    Within levels up down cs (x >>= fun p => pure (g p.1, p.2)) := by
  match x with
  | .ok (_, _) => exact hx
  | .error (.malformed _ _) => trivial
  | .error (.integerDigits _) => exact hx
  | .error (.tooDeep _) => exact hx

theorem close {taken left : List Char} (htaken : Leads up down taken) (a : α) :
    Within levels up down (taken ++ left) (.ok (a, left)) := ⟨taken, rfl, htaken⟩

end Within

theorem skipSpace_eq (cs : List Char) : ∃ spaces, cs = spaces ++ skipSpace cs ∧ ∀ c ∈ spaces, isFlat c := by
  refine ⟨cs.takeWhile isSpace, List.takeWhile_append_dropWhile.symm, fun c hc => ?_⟩
  have hspace := List.mem_takeWhile_imp hc
  simp only [isSpace, Bool.or_eq_true, beq_iff_eq] at hspace
  obtain ((rfl | rfl) | rfl) | rfl := hspace <;> decide

/-- Spaces in front of a text do not count. -/
theorem Within.of_skipSpace {α : Type} {levels up down : Nat} {cs : List Char}
    {outcome : Except Halt (α × List Char)} (h : Within levels up down (skipSpace cs) outcome) :
    Within levels up down cs outcome := by
  obtain ⟨spaces, heq, hflat⟩ := skipSpace_eq cs
  rw [heq]
  exact Within.prepend (Leads.of_flat hflat 0) h

/-! ### Strings -/

/-- How reading a string behind its opening quote may end. -/
def WithinString {α : Type} (cs : List Char) : Except Halt (α × List Char) → Prop
  | .ok (_, left) => ∃ taken, cs = taken ++ left ∧
      ∀ depth, Nesting.after ⟨depth, .quoted⟩ taken = ⟨depth, .plain⟩
  | .error halt => ∃ cause left, halt = .malformed cause left

theorem WithinString.prepend {α β : Type} (taken : List Char) {left : List Char}
    {x : Except Halt (α × List Char)}
    (htaken : ∀ depth, Nesting.after ⟨depth, .quoted⟩ taken = ⟨depth, .quoted⟩) (h : WithinString left x)
    (g : α → β) : WithinString (taken ++ left) (x >>= fun p => pure (g p.1, p.2)) := by
  match x with
  | .ok (_, _) =>
    obtain ⟨more, rfl, hmore⟩ := h
    exact ⟨taken ++ more, (List.append_assoc ..).symm, fun depth => by
      rw [Nesting.after_append, htaken, hmore]⟩
  | .error _ => exact h

/-- Characters that a string goes on behind. -/
theorem Nesting.step_quoted {c : Char} (hquote : c ≠ '"') (hescape : c ≠ '\\') (depth : Nat) :
    Nesting.step ⟨depth, .quoted⟩ c = ⟨depth, .quoted⟩ := by
  unfold step
  split <;> simp_all

theorem Nesting.step_hexDigit {c : Char} {value : Nat} (h : hexValue? c = some value) (depth : Nat) :
    Nesting.step ⟨depth, .quoted⟩ c = ⟨depth, .quoted⟩ :=
  step_quoted (by rintro rfl; cases h) (by rintro rfl; cases h) depth

theorem within_stringUnits (opening cs : List Char) : WithinString cs (stringUnits opening cs) := by
  fun_induction stringUnits opening cs with
  | case1 => exact ⟨_, _, rfl⟩
  | case2 rest => exact ⟨['"'], rfl, fun _ => rfl⟩
  | case3 => exact ⟨_, _, rfl⟩
  | case4 => exact ⟨_, _, rfl⟩
  | case5 a b c d next rest code hcode ih =>
    obtain ⟨_, ha, _, hb, _, hc, _, hd, _⟩ := by simpa [hexUnit?, Option.bind_eq_some_iff] using hcode
    refine WithinString.prepend ['\\', 'u', a, b, c, d] (fun depth => ?_) ih (code :: ·)
    have hescape : Nesting.step ⟨depth, .quoted⟩ '\\' = ⟨depth, .escaped⟩ := rfl
    have hmark : Nesting.step ⟨depth, .escaped⟩ 'u' = ⟨depth, .quoted⟩ := rfl
    simp only [Nesting.after_cons, Nesting.after_nil, hescape, hmark, Nesting.step_hexDigit ha,
      Nesting.step_hexDigit hb, Nesting.step_hexDigit hc, Nesting.step_hexDigit hd]
  | case6 => exact ⟨_, _, rfl⟩
  | case7 => exact ⟨_, _, rfl⟩
  | case8 c rest _ _ character _ ih =>
    exact WithinString.prepend ['\\', c] (fun _ => rfl) ih (character.toNat :: ·)
  | case9 => exact ⟨_, _, rfl⟩
  | case10 c rest hquote hlone _ _ hother _ ih =>
    have hescape : c ≠ '\\' := by
      rintro rfl
      cases rest with
      | nil => exact hlone rfl rfl
      | cons next rest => exact hother next rest rfl rfl
    exact WithinString.prepend [c] (Nesting.step_quoted hquote hescape) ih (c.toNat :: ·)

/-- A string leaves the nesting as it was. -/
theorem within_readString (levels : Nat) (cs : List Char) : Within levels 0 0 ('"' :: cs) (readString cs) := by
  have h := within_stringUnits ('"' :: cs) cs
  rw [readString]
  match hunits : stringUnits ('"' :: cs) cs with
  | .ok (units, left) =>
    rw [hunits] at h
    obtain ⟨taken, htaken, hmode⟩ := h
    exact ⟨'"' :: taken, by rw [List.cons_append, ← htaken], fun outer => hmode outer⟩
  | .error halt =>
    rw [hunits] at h
    obtain ⟨cause, left, rfl⟩ := h
    trivial

/-! ### Numbers and words -/

/-- `left` is what stands behind some characters that open and close nothing. -/
def SkipsFlat (cs left : List Char) : Prop :=
  ∃ taken, cs = taken ++ left ∧ ∀ c ∈ taken, isFlat c

namespace SkipsFlat

theorem refl (cs : List Char) : SkipsFlat cs cs := ⟨[], rfl, fun _ hc => absurd hc List.not_mem_nil⟩

theorem trans {cs mid left : List Char} (hcs : SkipsFlat cs mid) (hmid : SkipsFlat mid left) :
    SkipsFlat cs left := by
  obtain ⟨first, rfl, hfirst⟩ := hcs
  obtain ⟨second, rfl, hsecond⟩ := hmid
  refine ⟨first ++ second, (List.append_assoc ..).symm, fun c hc => ?_⟩
  exact (List.mem_append.mp hc).elim (hfirst c) (hsecond c)

theorem cons {c : Char} (hc : isFlat c) (cs : List Char) : SkipsFlat (c :: cs) cs :=
  ⟨[c], rfl, fun _ hd => List.mem_singleton.mp hd ▸ hc⟩

end SkipsFlat

theorem isFlat_of_isAsciiDigit {c : Char} (h : isAsciiDigit c) : isFlat c := by
  simp only [isFlat, Bool.and_eq_true, bne_iff_ne]
  refine ⟨⟨⟨⟨?_, ?_⟩, ?_⟩, ?_⟩, ?_⟩ <;> (rintro rfl; revert h; decide)

theorem skipsFlat_digits (cs : List Char) : SkipsFlat cs (cs.dropWhile isAsciiDigit) :=
  ⟨cs.takeWhile isAsciiDigit, List.takeWhile_append_dropWhile.symm,
    fun _ hc => isFlat_of_isAsciiDigit (List.mem_takeWhile_imp hc)⟩

theorem wholeDigits_spec (cs : List Char) :
    wholeDigits cs <+: cs ∧ ∀ c ∈ wholeDigits cs, isAsciiDigit c := by
  unfold wholeDigits
  split
  · exact ⟨⟨_, rfl⟩, fun c hc => List.mem_singleton.mp hc ▸ by decide⟩
  · exact ⟨List.takeWhile_prefix _, fun _ hc => List.mem_takeWhile_imp hc⟩

theorem skipsFlat_wholeDigits (cs : List Char) : SkipsFlat cs (cs.drop (wholeDigits cs).length) := by
  obtain ⟨hfront, hdigits⟩ := wholeDigits_spec cs
  exact ⟨wholeDigits cs, (List.prefix_iff_eq_append.mp hfront).symm,
    fun c hc => isFlat_of_isAsciiDigit (hdigits c hc)⟩

theorem fractionDigits_of_empty {cs : List Char} (h : (fractionDigits cs).1 = []) :
    (fractionDigits cs).2 = cs := by
  unfold fractionDigits at h ⊢
  split at h
  · simp only at h ⊢
    split at h
    next hempty => rw [if_pos hempty]
    next hempty => exact absurd (List.isEmpty_iff.mpr h) hempty
  · rfl

/-- The digits of a whole part that has more than one are an integer, unless a fraction or an exponent
follows. -/
theorem isInteger_wholeDigits {cs : List Char} (hlong : 1 < (wholeDigits cs).length)
    (hfraction : (fractionDigits (cs.drop (wholeDigits cs).length)).1 = [])
    (hexponent : (exponentAt (cs.drop (wholeDigits cs).length)).1 = none) :
    IsInteger (wholeDigits cs) (cs.drop (wholeDigits cs).length) := by
  have hwhole : wholeDigits cs = cs.takeWhile isAsciiDigit ∧ cs.head? ≠ some '0' := by
    unfold wholeDigits at hlong ⊢
    split at hlong
    · exact absurd hlong (Nat.lt_irrefl 1)
    next hzero =>
      refine ⟨rfl, fun hhead => ?_⟩
      obtain ⟨rest, rfl⟩ := List.head?_eq_some_iff.mp hhead
      exact hzero rest rfl
  obtain ⟨hrow, hzero⟩ := hwhole
  refine ⟨(wholeDigits_spec cs).2, fun hhead => hzero ?_, fun c hc => ?_, hfraction, hexponent⟩
  · obtain ⟨more, hmore⟩ := (wholeDigits_spec cs).1
    obtain ⟨row, hstart⟩ := List.head?_eq_some_iff.mp hhead
    rw [← hmore, hstart]
    rfl
  · have hfront := List.prefix_iff_eq_append.mp (List.takeWhile_prefix (l := cs) isAsciiDigit)
    have hleft := List.append_cancel_left (hfront.trans List.takeWhile_append_dropWhile.symm)
    have hstop := List.head?_dropWhile_not isAsciiDigit cs
    rw [hrow, hleft] at hc
    rw [Option.mem_def.mp hc] at hstop
    rw [hstop, Bool.not_false]

theorem skipsFlat_fractionDigits (cs : List Char) : SkipsFlat cs (fractionDigits cs).2 := by
  unfold fractionDigits
  split
  · simp only
    split
    · exact .refl _
    · exact (SkipsFlat.cons (by decide) _).trans (skipsFlat_digits _)
  · exact .refl _

theorem skipsFlat_takeSign (cs : List Char) : SkipsFlat cs (takeSign cs).2 := by
  unfold takeSign
  split
  · exact .cons (by decide) _
  · exact .cons (by decide) _
  · exact .refl _

theorem skipsFlat_exponentAt (cs : List Char) : SkipsFlat cs (exponentAt cs).2 := by
  unfold exponentAt
  split
  · rename_i mark rest
    split
    · rename_i hmark
      have hflat : isFlat mark := by
        simp only [Bool.or_eq_true, beq_iff_eq] at hmark
        obtain rfl | rfl := hmark <;> decide
      simp only
      split
      · exact .refl _
      · exact (SkipsFlat.cons hflat rest).trans ((skipsFlat_takeSign rest).trans (skipsFlat_digits _))
    · exact .refl _
  · exact .refl _

theorem SkipsFlat.within {α : Type} {cs left : List Char} (h : SkipsFlat cs left) (levels : Nat) (a : α) :
    Within levels 0 0 cs (.ok (a, left)) := by
  obtain ⟨taken, rfl, hflat⟩ := h
  exact .close (.of_flat hflat 0) a

theorem within_readNumber (levels : Nat) (cs : List Char) : Within levels 0 0 cs (readNumber cs) := by
  rw [readNumber]
  have hbody : SkipsFlat cs (if cs.head? == some '-' then cs.drop 1 else cs) := by
    split
    · rename_i hsign
      obtain ⟨rest, rfl⟩ := List.head?_eq_some_iff.mp (eq_of_beq hsign)
      exact .cons (by decide) rest
    · exact .refl _
  generalize (if cs.head? == some '-' then cs.drop 1 else cs) = body at hbody
  have hleft := (hbody.trans (skipsFlat_wholeDigits body)).trans
    ((skipsFlat_fractionDigits _).trans (skipsFlat_exponentAt _))
  simp only
  split
  · exact .malformed _ _
  · split
    next hplain =>
      rw [Bool.and_eq_true, List.isEmpty_iff, Option.isNone_iff_eq_none] at hplain
      obtain ⟨hfraction, hexponent⟩ := hplain
      rw [fractionDigits_of_empty hfraction] at hexponent
      split
      next hlimit =>
        obtain ⟨taken, rfl, hflat⟩ := hbody
        have hlong : 1 < (wholeDigits body).length := Nat.lt_of_le_of_lt (by decide) hlimit
        have hsplit := List.prefix_iff_eq_append.mp (wholeDigits_spec body).1
        exact ⟨hlimit, taken, _, _, 0, congrArg (taken ++ ·) hsplit.symm, .of_flat hflat 0,
          isInteger_wholeDigits hlong hfraction hexponent, rfl⟩
      next => exact hleft.within levels _
    next => exact hleft.within levels _

theorem all_isFlat_of_mem_words : ∀ entry ∈ words, entry.1.toList.all isFlat := by
  decide

theorem within_readPlain (levels : Nat) (cs : List Char) : Within levels 0 0 cs (readPlain cs) := by
  unfold readPlain
  split
  · rename_i word value hfind
    have hstart := List.find?_some hfind
    obtain ⟨rest, rfl⟩ := List.isPrefixOf_iff_prefix.mp hstart
    have hflat := List.all_eq_true.mp (all_isFlat_of_mem_words _ (List.mem_of_find?_eq_some hfind))
    rw [List.drop_left]
    exact .close (.of_flat hflat 0) value
  · split
    · exact (within_readString levels _).map Value.text
    · exact within_readNumber levels _

/-! ### Arrays, objects and whole documents -/

section Members

variable {levels : Nat} {element : Reader Value} (helement : ∀ cs, Within levels 0 0 cs (element cs))

include helement

theorem within_readItems (fuel : Nat) (cs : List Char) : Within levels 1 0 cs (readItems element fuel cs) := by
  induction fuel generalizing cs with
  | zero => exact .malformed _ _
  | succ fuel ih =>
    rw [readItems]
    refine (helement cs).bind fun value left => .of_skipSpace ?_
    simp only
    split
    · rename_i heq
      rw [heq]
      exact .close .unbracket _
    · rename_i rest heq
      rw [heq]
      exact Within.prepend .comma ((ih _).of_skipSpace.map (value :: ·))
    · exact .malformed _ _

theorem within_readMembers (fuel : Nat) (cs : List Char) :
    Within levels 1 0 cs (readMembers element fuel cs) := by
  induction fuel generalizing cs with
  | zero => exact .malformed _ _
  | succ fuel ih =>
    unfold readMembers
    split
    · refine (within_readString levels _).bind fun name left => .of_skipSpace ?_
      simp only
      split
      · rename_i rest heq
        rw [heq]
        refine Within.prepend .colon (.of_skipSpace ?_)
        refine (helement _).bind fun value left => .of_skipSpace ?_
        simp only
        split
        · rename_i heq
          rw [heq]
          exact .close .unbrace _
        · rename_i rest heq
          rw [heq]
          exact Within.prepend .comma ((ih _).of_skipSpace.map ((name, value) :: ·))
        · exact .malformed _ _
      · exact .malformed _ _
    · exact .malformed _ _

end Members

theorem within_readValue (size levels : Nat) (cs : List Char) :
    Within levels 0 0 cs (readValue size levels cs) := by
  induction levels generalizing cs with
  | zero =>
    unfold readValue
    split
    · exact ⟨['['], ⟨_, rfl⟩, .bracket⟩
    · exact ⟨['\x7b'], ⟨_, rfl⟩, .brace⟩
    · exact within_readPlain 0 _
  | succ levels ih =>
    unfold readValue
    split
    · refine Within.prepend .bracket (.of_skipSpace ?_)
      simp only
      split
      · rename_i heq
        rw [heq]
        exact .close .unbracket _
      · exact (within_readItems ih _ _).map Value.list
    · refine Within.prepend .brace (.of_skipSpace ?_)
      simp only
      split
      · rename_i heq
        rw [heq]
        exact .close .unbrace _
      · exact (within_readMembers ih _ _).map fun members => Value.map (Entries.ofList members)
    · exact within_readPlain (levels + 1) _

/-- The limits are the only other thing that may stop the reading of a text than a malformed place. -/
theorem readAll_eq_error {cs : List Char} {halt : Halt} (h : readAll cs = .error halt) :
    (∃ cause left, halt = .malformed cause left) ∨
    (∃ count, halt = .integerDigits count ∧ integerDigitLimit < count ∧ HasInteger count cs) ∨
    ∃ inObject, halt = .tooDeep inObject ∧ Deep (nestingLimit + 1) cs := by
  have hvalue : Within nestingLimit 0 0 cs (readValue cs.length nestingLimit (skipSpace cs)) :=
    (within_readValue cs.length nestingLimit (skipSpace cs)).of_skipSpace
  rw [readAll] at h
  match hread : readValue cs.length nestingLimit (skipSpace cs) with
  | .ok (value, left) =>
    rw [hread] at h
    simp only [bind, Except.bind] at h
    cases hleft : (skipSpace left).isEmpty with
    | true =>
      rw [hleft] at h
      cases h
    | false =>
      rw [hleft] at h
      exact .inl ⟨_, _, (Except.error.inj h).symm⟩
  | .error found =>
    rw [hread] at h hvalue
    obtain rfl := Except.error.inj h
    match found with
    | .malformed cause left => exact .inl ⟨cause, left, rfl⟩
    | .integerDigits count => exact .inr (.inl ⟨count, rfl, hvalue⟩)
    | .tooDeep inObject => exact .inr (.inr ⟨inObject, rfl, hvalue⟩)

end Json

end CodecReport
