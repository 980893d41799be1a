/-!
# Double-precision numbers

A finite double is a sign and a whole number of units of 2⁻¹⁰⁷⁴, so that every sum, product and quotient
of the library is one of natural numbers, rounded once. One rounded division serves them all, and reading a
number, writing it in decimal and rounding it to hundredths as well: they differ in the grid and in where a tie
goes. Which unit counts are representable is part of the type: at most 53 significant bits, and less than 2¹⁰²⁴ in
value.
-/

namespace CodecReport

/-- Where a quotient half way between two integers goes. -/
inductive Tie
  | toEven
  | away
  deriving DecidableEq, Repr

/-- The integer nearest to `num / den`; a quotient half way between two integers goes as `tie` says. -/
def roundDiv (tie : Tie) (num den : Nat) : Nat :=
  let below := num / den
  let twice := 2 * (num % den)
  if twice < den then below
  else if den < twice then below + 1
  else match tie with
    | .toEven => below + below % 2
    | .away => below + 1

theorem roundDiv_of_lt (tie : Tie) {num den : Nat} (hlt : 2 * (num % den) < den) :
    roundDiv tie num den = num / den := by
  simp [roundDiv, hlt]

theorem roundDiv_of_gt (tie : Tie) {num den : Nat} (hgt : den < 2 * (num % den)) :
    roundDiv tie num den = num / den + 1 := by
  simp [roundDiv, hgt, Nat.not_lt.mpr (Nat.le_of_lt hgt)]

/-- A whole quotient is kept, whatever the tie rule. -/
theorem roundDiv_mul_right (tie : Tie) (n : Nat) {den : Nat} (hden : 0 < den) :
    roundDiv tie (n * den) den = n := by
  rw [roundDiv_of_lt tie (by simpa using hden), Nat.mul_div_cancel n hden]

-- powers are those of the core library, whatever else is imported
attribute [local instance (2000)] instPowNat

/-- A count of units of 2⁻¹⁰⁷⁴ that a double holds: it has at most 53 significant bits and is less than
2¹⁰²⁴ in value. -/
def Representable (units : Nat) : Prop :=
  units < 2 ^ (2098 : Nat) ∧ units % 2 ^ (units.log2 - 52) = 0

instance (units : Nat) : Decidable (Representable units) :=
  inferInstanceAs (Decidable (_ ∧ _))

theorem representable_zero : Representable 0 :=
  ⟨Nat.two_pow_pos 2098, Nat.zero_mod _⟩

/-- A double-precision number. The two zeros differ in their sign; there is one value that is not a
number. -/
inductive Double
  | nan
  | infinite (negative : Bool)
  | finite (negative : Bool) (units : Nat) (representable : Representable units)
  deriving DecidableEq

namespace Double

def unitsPerOne : Nat := 2 ^ (1074 : Nat)

/-- The unit count nearest to `num / den` units, among the counts of 53 significant bits. -/
def nearestUnits (num den : Nat) : Nat :=
  let shift := (num / den).log2 - 52
  roundDiv .toEven num (den * 2 ^ shift) * 2 ^ shift

/-- The double nearest to `num / den` units; a tie goes to the even neighbour, and what rounds to 2¹⁰²⁴
or more is infinite. -/
def ofUnitRatio (negative : Bool) (num den : Nat) : Double :=
  if h : Representable (nearestUnits num den) then
    .finite negative (nearestUnits num den) h
  else .infinite negative

def ofRatio (negative : Bool) (num den : Nat) : Double :=
  ofUnitRatio negative (num * unitsPerOne) den

def ofInt (i : Int) : Double :=
  ofRatio (decide (i < 0)) i.natAbs 1

def zero : Double := .finite false 0 representable_zero

def isFinite : Double → Bool
  | .finite .. => true
  | _ => false

def units? : Double → Option Nat
  | .finite _ units _ => some units
  | _ => none

def isZero : Double → Bool
  | .finite _ units _ => units == 0
  | _ => false

def neg : Double → Double
  | .nan => .nan
  | .infinite negative => .infinite (!negative)
  | .finite negative units h => .finite (!negative) units h

/-- The value of a finite number in units, with its sign; the zeros agree. -/
def signedUnits (negative : Bool) (units : Nat) : Int :=
  if negative then -(units : Int) else units

/-- The order of two numbers; none when either is not a number. -/
def compare? : Double → Double → Option Ordering
  | .nan, _ | _, .nan => none
  | .infinite a, .infinite b =>
    some (if a == b then .eq else if a then .lt else .gt)
  | .infinite a, .finite .. => some (if a then .lt else .gt)
  | .finite .., .infinite b => some (if b then .gt else .lt)
  | .finite a x _, .finite b y _ => some (compare (signedUnits a x) (signedUnits b y))

/-- The larger of two numbers, the first one when neither exceeds the other. -/
def max (a b : Double) : Double :=
  if compare? a b = some .lt then b else a

/-- The double nearest to a sum of units; a sum of zero is positive unless both terms are negative. -/
def ofUnitSum (bothNegative : Bool) (sum : Int) : Double :=
  if sum = 0 then ofUnitRatio bothNegative 0 1
  else ofUnitRatio (decide (sum < 0)) sum.natAbs 1

def add : Double → Double → Double
  | .nan, _ | _, .nan => .nan
  | .infinite a, .infinite b => if a == b then .infinite a else .nan
  | .infinite a, .finite .. => .infinite a
  | .finite .., .infinite b => .infinite b
  | .finite a x _, .finite b y _ => ofUnitSum (a && b) (signedUnits a x + signedUnits b y)

def mul : Double → Double → Double
  | .nan, _ | _, .nan => .nan
  | .infinite a, .infinite b => .infinite (a != b)
  | .infinite a, .finite b y _ => if y = 0 then .nan else .infinite (a != b)
  | .finite a x _, .infinite b => if x = 0 then .nan else .infinite (a != b)
  | .finite a x _, .finite b y _ => ofUnitRatio (a != b) (x * y) unitsPerOne

/-- Division by zero gives a signed infinity, and zero by zero no number. -/
def div : Double → Double → Double
  | .nan, _ | _, .nan => .nan
  | .infinite _, .infinite _ => .nan
  | .infinite a, .finite b _ _ => .infinite (a != b)
  | .finite a _ _, .infinite b => .finite (a != b) 0 representable_zero
  | .finite a x _, .finite b y _ =>
    if y = 0 then (if x = 0 then .nan else .infinite (a != b))
    else ofRatio (a != b) x y

instance : Neg Double := ⟨neg⟩
instance : Add Double := ⟨add⟩
instance : Mul Double := ⟨mul⟩
instance : Div Double := ⟨div⟩

/-- The integer left when the fraction of a finite number is dropped. -/
def truncate? : Double → Option Int
  | .finite negative units _ => some (signedUnits negative (units / unitsPerOne))
  | _ => none

def equalsInt (d : Double) (i : Int) : Bool :=
  match d with
  | .finite negative units _ => signedUnits negative units == i * unitsPerOne
  | _ => false

instance : Inhabited Double := ⟨zero⟩

@[simp] theorem neg_neg (d : Double) : - -d = d := by
  cases d <;> simp [Neg.neg, neg]

end Double

end CodecReport
