import CodecReport.Text.CaseTable

/-!
# Lower and upper case

Full case mapping of a text: a character may become several, and a capital sigma at the end of a word
becomes the final form of the small letter.
-/

namespace CodecReport.Text

/-- The code point that a table of runs sends a code point to. -/
def mapByRuns (runs : List (Nat × Nat × Nat × Nat)) (code : Nat) : Nat :=
  match runs.find? fun (first, last, step, _) =>
      first ≤ code && code ≤ last && (code - first) % step == 0 with
  | some (first, _, _, target) => target + (code - first)
  | none => code

def inRanges (ranges : List (Nat × Nat)) (c : Char) : Bool :=
  ranges.any fun (low, high) => low ≤ c.toNat && c.toNat ≤ high

def lowerChar (c : Char) : List Char :=
  if c.toNat < 128 then [c.toLower]
  else if c = 'İ' then ['i', '\u0307']
  else [Char.ofNat (mapByRuns lowerRuns c.toNat)]

/-- Whether the next character that counts, if there is one, has case. -/
def continuesWord (cs : List Char) : Bool :=
  match cs.dropWhile (inRanges caseIgnorables) with
  | [] => false
  | c :: _ => inRanges casedRanges c

/-- The lower case of a text, `before` being the characters that precede it, last one first. -/
def lowerFrom : (before cs : List Char) → List Char
  | _, [] => []
  | before, c :: rest =>
    (if c = 'Σ' then
      [if continuesWord before && !continuesWord rest then 'ς' else 'σ']
    else lowerChar c) ++ lowerFrom (c :: before) rest

def lower (s : String) : String :=
  String.ofList (lowerFrom [] s.toList)

def upperChar (c : Char) : List Char :=
  if c.toNat < 128 then [c.toUpper]
  else match upperSpecials.find? fun (code, _) => code == c.toNat with
    | some (_, codes) => codes.map Char.ofNat
    | none => [Char.ofNat (mapByRuns upperRuns c.toNat)]

def upper (s : String) : String :=
  String.ofList (s.toList.flatMap upperChar)

end CodecReport.Text
