/-!
# Base 64

Bytes written in sixty-four letters of six bits each. Characters that are no letters are passed over; the
text ends with its letters, or with the signs that fill up its last group of four.
-/

namespace CodecReport.Text

def sixBits? (c : Char) : Option Nat :=
  if 'A' ≤ c ∧ c ≤ 'Z' then some (c.toNat - 'A'.toNat)
  else if 'a' ≤ c ∧ c ≤ 'z' then some (c.toNat - 'a'.toNat + 26)
  else if '0' ≤ c ∧ c ≤ '9' then some (c.toNat - '0'.toNat + 52)
  else if c = '+' then some 62
  else if c = '/' then some 63
  else none

/-- The bits of a group of four letters that have arrived: how many letters, and those of their bits that
make no whole byte yet. -/
structure OpenGroup where
  letters : Nat := 0
  bits : Nat := 0

namespace OpenGroup

/-- The group with one more letter, and the byte that this completes. -/
def add (g : OpenGroup) (value : Nat) : OpenGroup × Option Nat :=
  match g.letters with
  | 0 => (⟨1, value⟩, none)
  | 1 => (⟨2, value % 16⟩, some (g.bits * 4 + value / 16))
  | 2 => (⟨3, value % 4⟩, some (g.bits * 16 + value / 4))
  | _ => ({}, some (g.bits * 64 + value))

end OpenGroup

/-- The bytes of the letters from an open group on; `fillers` counts the signs that fill the group up. -/
def decodeGroups? : OpenGroup → (fillers : Nat) → List Char → Option (List Nat)
  | group, _, [] => if group.letters = 0 then some [] else none
  | group, fillers, c :: rest =>
    if c = '=' then
      if 2 ≤ group.letters ∧ 4 ≤ group.letters + fillers + 1 then some []
      else decodeGroups? group (if 2 ≤ group.letters then fillers + 1 else fillers) rest
    else match sixBits? c with
      | none => decodeGroups? group fillers rest
      | some value =>
        let (group, byte) := group.add value
        (decodeGroups? group 0 rest).map (byte.toList ++ ·)

/-- The bytes that a text in base 64 writes; none when its last group is left open. -/
def decodeBase64? (cs : List Char) : Option (List Nat) :=
  decodeGroups? {} 0 cs

end CodecReport.Text
