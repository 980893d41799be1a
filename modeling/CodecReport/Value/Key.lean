import CodecReport.Value.Basic

/-!
# Keys

When two values are the same key. Numbers are compared by what they count, a truth value as one or zero, and
times by universal time; whatever is no number is itself.
-/

namespace CodecReport

-- powers are those of the core library, whatever else is imported
attribute [local instance (2000)] instPowNat

namespace Value

def number? : Value → Option (Int ⊕ Double)
  | .bool b => some (.inl (if b then 1 else 0))
  | .int i => some (.inl i)
  | .float d => some (.inr d)
  | _ => none

/-- Whether two numbers are the same key. -/
def sameNumber : Int ⊕ Double → Int ⊕ Double → Bool
  | .inl i, .inl j => i == j
  | .inl i, .inr d | .inr d, .inl i => d.equalsInt i
  | .inr d, .inr e => d == e || (d.isZero && e.isZero)

/-- Whether two values are the same key. Collections are no keys. -/
def sameKey (a b : Value) : Bool :=
  match a, b with
  | .null, .null => true
  | .text s, .text t => s == t
  | .bytes s, .bytes t => s == t
  | .date d, .date e => d == e
  | .moment m, .moment n => m.same n
  | a, b =>
    match a.number?, b.number? with
    | some m, some n => sameNumber m n
    | _, _ => false

/-- Entries with a key written: a known key keeps its position and its first form. -/
def putKey {α : Type} (key : Value) (value : α) : List (Value × α) → List (Value × α)
  | [] => [(key, value)]
  | (k, v) :: rest => if k.sameKey key then (k, value) :: rest else (k, v) :: putKey key value rest

def ofEntries (entries : List (Value × Value)) : Value :=
  match entries.mapM fun
    | (.text key, v) => some (key, v)
    | _ => none with
  | some entries => .map entries
  | none => .keyed entries

end Value

/-!
### The order of a set

A set of numbers is told in the order of its places. A member's place follows from its number, and where a
place is taken the member goes on to another one.
-/

namespace SetPlaces

/-- How many places there are for so many members. -/
def count (members : Nat) : Nat :=
  if members ≤ 4 then 8 else 2 ^ ((2 * members).log2 + 1)

def modulus : Nat := 2 ^ (61 : Nat) - 1

/-- The number that a place follows from, for a member of the given sign and absolute remainder. -/
def signed (negative : Bool) (remainder : Nat) : Int :=
  if !negative then remainder else if remainder = 1 then -2 else -(remainder : Int)

/-- The number that a member's place follows from. A double counts units of 2⁻¹⁰⁷⁴, and modulo 2⁶¹ - 1 that
is a factor of 2²⁴. -/
def code? (v : Value) : Option Int :=
  match v.number? with
  | some (.inl i) => some (signed (i < 0) (i.natAbs % modulus))
  | some (.inr (.finite negative units _)) => some (signed negative (units * 2 ^ (24 : Nat) % modulus))
  | some (.inr (.infinite negative)) => some (if negative then -314159 else 314159)
  | _ => none

/-- The first free place in a row of neighbours; the row has ten places where so many are left. -/
def freeNear? (places start : Nat) (taken : List Nat) : Option Nat :=
  let row := if start + 9 < places then 10 else 1
  ((List.range row).map (start + ·)).find? (!taken.contains ·)

/-- The free place that a member goes to, looking first around `start`; `rest` are the digits of its number
that have not had their say. -/
def free (places : Nat) (taken : List Nat) : (fuel : Nat) → (start rest : Nat) → Nat
  | 0, start, _ => start
  | fuel + 1, start, rest =>
    match freeNear? places start taken with
    | some place => place
    | none =>
      let rest := rest / 32
      free places taken fuel ((5 * start + 1 + rest) % places) rest

/-- The place of a member whose number is given. -/
def placeOf (places : Nat) (taken : List Nat) (code : Int) : Nat :=
  let bits := (code % 2 ^ (64 : Nat)).toNat
  free places taken (places + 64) (bits % places) bits

/-- The members with their places, in the order in which they came. -/
def settle (places : Nat) : List (Int × Value) → (taken : List (Nat × Value)) → List (Nat × Value)
  | [], taken => taken
  | (code, v) :: rest, taken =>
    settle places rest (taken ++ [(placeOf places (taken.map (·.1)) code, v)])

end SetPlaces

namespace Value

/-- The members of a set in the order in which it is told: numbers by their places, any other members as they
were written. -/
def setOrder (members : List Value) : List Value :=
  match members.mapM fun v => (SetPlaces.code? v).map fun code => (code, v) with
  | some coded =>
    ((SetPlaces.settle (SetPlaces.count members.length) coded []).mergeSort fun a b => a.1 ≤ b.1).map (·.2)
  | none => members

end Value

end CodecReport
