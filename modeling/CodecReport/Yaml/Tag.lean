/-!
# Tags

What a node of a configuration text is read as. A tag is written out in front of the node or follows from
what the node looks like.
-/

namespace CodecReport.Yaml

/-- What a node is read as. -/
inductive Tag
  | null
  | bool
  | int
  | float
  | text
  | bytes
  | timestamp
  | list
  | pairs
  | set
  | map
  | merge
  /-- A key that stands for itself, and for the text of its mapping where a text is meant. -/
  | default
  | unknown
  deriving DecidableEq, Repr

/-- What every name of a known tag starts with. -/
def tagSpace : String := "tag:yaml.org,2002:"

/-- The tag that leaves open what its node is read as. -/
def openTag : String := "!"

namespace Tag

def names : List (String × Tag) :=
  [("null", .null), ("bool", .bool), ("int", .int), ("float", .float), ("str", .text), ("binary", .bytes),
   ("timestamp", .timestamp), ("seq", .list), ("omap", .pairs), ("pairs", .pairs), ("set", .set),
   ("map", .map), ("merge", .merge), ("value", .default)]

def ofName (name : String) : Tag :=
  ((names.find? fun (known, _) => name = tagSpace ++ known).map (·.2)).getD .unknown

def isCollection : Tag → Bool
  | .list | .pairs | .set | .map => true
  | _ => false

end Tag

end CodecReport.Yaml
