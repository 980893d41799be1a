import CodecReport.Fault
import CodecReport.Value.Key

/-!
# Settings

A configuration is a mapping of sections, each a mapping of settings. Any of them may be missing or of
another kind; a section that counts as not given is empty, and asking one that is no mapping is a fault. So
is telling a setting that holds an integer of too many digits.
-/

namespace CodecReport

-- powers are those of the core library, whatever else is imported
attribute [local instance (2000)] instPowNat

namespace Value

def entry? (v : Value) (key : String) : Except Fault (Option Value) :=
  match v with
  | .map entries => .ok (Entries.get? entries key)
  | .keyed entries => .ok ((entries.find? fun (k, _) => k.sameKey (.text key)).map (·.2))
  | v => .error (.lacks v.kindName "get")

/-- An entry of a mapping, or what stands for it when it is missing. -/
def entryD (v : Value) (key : String) (default : Value) : Except Fault Value := do
  return (← v.entry? key).getD default

/-- A value, or an empty mapping when it counts as not given. -/
def orEmpty (v : Value) : Value :=
  if v.truthy then v else .map []

def configSection (config : Value) (name : String) : Except Fault Value := do
  return (← config.entryD name .null).orEmpty

def isLongInteger (i : Int) : Bool :=
  10 ^ integerDigitLimit ≤ i.natAbs

mutual

/-- Whether an integer of too many digits stands anywhere in a value. -/
def holdsLongInteger : Value → Bool
  | .int i => isLongInteger i
  | .list items | .set items => anyLongInteger items
  | .pair first second => holdsLongInteger first || holdsLongInteger second
  | .map entries => anyLongEntry entries
  | .keyed entries => anyLongPair entries
  | _ => false

def anyLongInteger : List Value → Bool
  | [] => false
  | v :: rest => holdsLongInteger v || anyLongInteger rest

def anyLongEntry : List (String × Value) → Bool
  | [] => false
  | (_, v) :: rest => holdsLongInteger v || anyLongEntry rest

def anyLongPair : List (Value × Value) → Bool
  | [] => false
  | (key, v) :: rest => holdsLongInteger key || holdsLongInteger v || anyLongPair rest

end

def told (v : Value) : Except Fault String :=
  if v.holdsLongInteger then .error .integerTooLong else .ok v.shown

/-- A setting of a section as text, or what stands for it when it is missing. -/
def toldEntry (v : Value) (key : String) (default : String) : Except Fault String := do
  (← v.entryD key (.text default)).told

/-- The members of a value that has members: of a list its items, of a text its characters, of bytes their
numbers, of a mapping its keys. -/
def members (v : Value) : Except Fault (List Value) :=
  match v with
  | .list items | .set items => .ok items
  | .bytes content => .ok (content.map fun (byte : Nat) => .int (byte : Int))
  | .text s => .ok (s.toList.map fun c => .text (String.ofList [c]))
  | .map entries => .ok (entries.map fun (key, _) => .text key)
  | .keyed entries => .ok (entries.map (·.1))
  | v => .error (.notIterable v.kindName)

end Value

end CodecReport
