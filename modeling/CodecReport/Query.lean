import CodecReport.Text.Percent
import CodecReport.Text.Split
import CodecReport.Value.Entries

/-!
# Query strings

The configured query carries the address that the announcement form starts with. A key may occur several
times and may stand without a value; `Query.parse` keeps all values in order under the place of the key's
first occurrence.
-/

namespace CodecReport

open Text

/-- What a query says about a key: once, or several times. A key without `=` says nothing. -/
inductive QueryValue
  | single (value : Option String)
  | many (values : List (Option String))
  deriving DecidableEq, Repr

namespace QueryValue

/-- What is said about a key that occurs once more. -/
def add (value : Option String) : QueryValue → QueryValue
  | .single first => .many [first, value]
  | .many values => .many (values ++ [value])

def values : QueryValue → List (Option String)
  | .single value => [value]
  | .many values => values

end QueryValue

namespace Query

/-- A part of a query as a key and, if there is a `=`, its value. -/
def readPart (part : List Char) : String × Option String :=
  let (key, value) := cutAt '=' part
  (String.ofList (unquotePlus key), value.map fun v => String.ofList (unquotePlus v))

def gather (found : Entries QueryValue) (pair : String × Option String) : Entries QueryValue :=
  found.put pair.1 (match found.get? pair.1 with
    | none => .single pair.2
    | some before => before.add pair.2)

/-- The pairs by key, the keys in the order in which they first occur. -/
def group (pairs : List (String × Option String)) : Entries QueryValue :=
  pairs.foldl gather []

def body (query : String) : List Char :=
  match query.toList with
  | '?' :: rest => rest
  | cs => cs

def parse (query : String) : Entries QueryValue :=
  match body query with
  | [] => []
  | cs => group ((splitAt '&' cs).map readPart)

/-- The address that a query gives: the first value of `email`. -/
def email? (query : String) : Option String :=
  match (parse query).get? "email" with
  | none => none
  | some found => found.values.head?.join

def writePair (pair : String × Option String) : List Char :=
  quotePlus pair.1.toList ++ match pair.2 with
    | some value => '=' :: quotePlus value.toList
    | none => []

def ofPairs (pairs : List (String × Option String)) : String :=
  String.ofList (joinWith '&' (pairs.map writePair))

end Query

end CodecReport
