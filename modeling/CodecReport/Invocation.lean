import CodecReport.Disk.Path
import CodecReport.Text.Digit
import CodecReport.Text.Quoted

/-!
# Invocations

The words of a command line. Every option takes one argument, given as the next word or behind an equals sign;
the name of an option may be cut short as long as it stays the only one that starts so. The last of several
arguments for an option counts. Words that belong to no option are refused together, after all options were
read.
-/

namespace CodecReport

inductive Setting
  | config
  | source
  | out
  deriving DecidableEq, Repr

/-- What a run is asked to do; what is missing is taken from the configuration. -/
structure Invocation where
  config : Option Path := none
  source : Option String := none
  out : Option Path := none

inductive Request
  | help
  | report (invocation : Invocation)

inductive UsageFault
  | ambiguous (word : String) (options : List String)
  | noArgument (option : String)
  | needlessArgument (option argument : String)
  | unrecognized (words : List String)
  deriving DecidableEq, Repr

namespace UsageFault

def message : UsageFault → String
  | .ambiguous word options =>
    "ambiguous option: " ++ word ++ " could match " ++ ", ".intercalate options
  | .noArgument option => "argument " ++ option ++ ": expected one argument"
  | .needlessArgument option argument =>
    "argument " ++ option ++ ": ignored explicit argument " ++ Text.quoted argument
  | .unrecognized words => "unrecognized arguments: " ++ " ".intercalate words

end UsageFault

namespace Invocation

def programName : String := "squash-benchmark-report"

def usageLines : List String :=
  ["usage: " ++ programName ++ " [-h] [--config CONFIG] [--source SOURCE]",
   "                               [--out OUT]"]

def faultLines (fault : UsageFault) : List String :=
  usageLines ++ [programName ++ ": error: " ++ fault.message]

/-- The names of the options; the one without a setting asks for help. -/
def options : List (String × Option Setting) :=
  [("--help", none), ("--config", some .config), ("--source", some .source),
   ("--out", some .out)]

/-- How messages name the option that asks for help. -/
def helpNames : String := "-h/--help"

inductive Word
  /-- A word that an option may take as its argument. -/
  | argument
  /-- An option, with the argument behind its equals sign if there is one. -/
  | option (name : String) (setting : Option Setting) (attached : Option String)
  /-- The letter that asks for help, and what stands behind it in its word. -/
  | helpLetter (behind : List Char)
  /-- What looks like an option and is none, or ends the options. -/
  | stray

def splitAtEquals (word : String) : String × Option String :=
  let cs := word.toList
  match cs.dropWhile (· != '=') with
  | _ :: rest => (String.ofList (cs.takeWhile (· != '=')), some (String.ofList rest))
  | [] => (word, none)

/-- Whether a word reads as a number below zero. A line feed at its end does not count. -/
def isNegativeNumber (word : String) : Bool :=
  let isDigit (c : Char) : Bool := (Text.digitValue? c).isSome
  match Text.dropFinalLineFeed word.toList with
  | '-' :: body =>
    match body.dropWhile isDigit with
    | [] => !body.isEmpty
    | '.' :: fraction => !fraction.isEmpty && fraction.all isDigit
    | _ => false
  | _ => false

/-- The options that a word which is not the name of one may stand for. -/
def candidates (word : String) : List Word :=
  match word.toList with
  | '-' :: '-' :: _ =>
    let (stem, attached) := splitAtEquals word
    (options.filter fun (name, _) => name.startsWith stem).map fun (name, setting) =>
      .option name setting attached
  | '-' :: 'h' :: behind => [.helpLetter behind]
  | _ => []

/-- What a word is that no exact name decides. -/
def guessed (word : String) : Except UsageFault Word :=
  match candidates word with
  | [] =>
    .ok (if isNegativeNumber word || word.toList.contains ' ' then .argument else .stray)
  | [found] => .ok found
  | several => .error (.ambiguous word (several.filterMap fun
      | .option name _ _ => some name
      | _ => none))

def classify (word : String) : Except UsageFault Word :=
  if !word.startsWith "-" || word = "-" then .ok .argument
  else
    let (stem, attached) := splitAtEquals word
    match options.lookup word, options.lookup stem with
    | some setting, _ => .ok (.option word setting none)
    | none, some setting => .ok (.option stem setting attached)
    | none, none => guessed word

/-- What ends the options. -/
def separator : String := "--"

def classifyAll : List String → Except UsageFault (List (String × Word))
  | [] => .ok []
  | word :: rest =>
    if word = separator then .ok ((word, .stray) :: rest.map fun w => (w, .argument))
    else do return (word, ← classify word) :: (← classifyAll rest)

def set (inv : Invocation) (setting : Setting) (argument : String) : Invocation :=
  match setting with
  | .config => { inv with config := some (Path.ofText argument) }
  | .source => { inv with source := some argument }
  | .out => { inv with out := some (Path.ofText argument) }

/-- The request for help, which takes no argument. -/
def askHelp : Option String → Except UsageFault Request
  | none => .ok .help
  | some argument => .error (.needlessArgument helpNames argument)

/-- What the letter that asks for help has behind it as an argument. The letter may be repeated, and other
letters are passed over. -/
def letterArgument : List Char → Option String
  | '=' :: argument => some (String.ofList argument)
  | '-' :: argument => some (String.ofList ('-' :: argument))
  | 'h' :: behind => letterArgument behind
  | _ => none

/-- Reads classified words; `strays` are the words so far that belong to no option. -/
def collect : List (String × Word) → Invocation → (strays : List String) → Except UsageFault Request
  | [], inv, [] => .ok (.report inv)
  | [], _, strays => .error (.unrecognized strays)
  | (_, .option _ none attached) :: _, _, _ => askHelp attached
  | (_, .helpLetter behind) :: _, _, _ => askHelp (letterArgument behind)
  | (_, .option _ (some setting) (some argument)) :: rest, inv, strays =>
    collect rest (inv.set setting argument) strays
  | (_, .option _ (some setting) none) :: (argument, .argument) :: rest, inv, strays =>
    collect rest (inv.set setting argument) strays
  | (_, .option name (some _) none) :: _, _, _ => .error (.noArgument name)
  | (word, .argument) :: rest, inv, strays => collect rest inv (strays ++ [word])
  | (word, .stray) :: rest, inv, strays => collect rest inv (strays ++ [word])

def parse (words : List String) : Except UsageFault Request := do
  collect (← classifyAll words) {} []

end Invocation

end CodecReport
