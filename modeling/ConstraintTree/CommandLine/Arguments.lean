import ConstraintTree.Dialect

/-!
Arguments of the program: options, a verb, and after it further options and the verb's operand.
Options for every verb may stand on either side of it; each side is read by itself, and then the
later one takes precedence.
-/
namespace ConstraintTree.CommandLine

inductive Interruption where
  | help
  | version
  | misuse
  deriving DecidableEq, Repr, Inhabited

inductive Verb where
  | render
  | check
  | demo
  deriving DecidableEq, Repr, Inhabited

namespace Verb

def all : List Verb := [.render, .check, .demo]

def name : Verb → String
  | .render => "render"
  | .check => "check"
  | .demo => "demo"

def ofName? (name : String) : Option Verb := all.find? fun verb => verb.name = name

def takesOperand : Verb → Bool
  | .render | .check => true
  | .demo => false

end Verb

/-- Options without a value. -/
inductive Flag where
  | debug
  | unqualified
  | bang
  | strict
  | help
  | version
  deriving DecidableEq, Repr, Inhabited

/-- Options with a value. -/
inductive Parameter where
  | schema
  | output
  deriving DecidableEq, Repr, Inhabited

inductive Choice where
  | flag (flag : Flag)
  | parameter (parameter : Parameter)
  deriving DecidableEq, Repr, Inhabited

structure OptionSpelling where
  choice : Choice
  name : String
  letter : Option Char := none
  deriving DecidableEq, Repr, Inhabited

namespace OptionSpelling

/-- Options that may stand on either side of the verb. -/
def general : List OptionSpelling :=
  [{ choice := .flag .debug, name := "debug", letter := some 'd' },
    { choice := .parameter .schema, name := "sdo-schema" },
    { choice := .flag .unqualified, name := "no-sdo-schema" },
    { choice := .flag .bang, name := "bang-not-equal" },
    { choice := .flag .help, name := "help", letter := some 'h' }]

/-- Options that may stand behind one verb, or else before any. -/
def special : Option Verb → List OptionSpelling
  | none => [{ choice := .flag .version, name := "version", letter := some 'V' }]
  | some .render => [{ choice := .flag .strict, name := "strict" }]
  | some .check => []
  | some .demo => [{ choice := .parameter .output, name := "output", letter := some 'o' }]

def accepted (side : Option Verb) : List OptionSpelling := general ++ special side

end OptionSpelling

/-- The kinds of arguments that their dashes tell apart. -/
inductive Argument where
  /-- After two dashes alone there are no more options. -/
  | separator
  | long (name : String) (attached : Option String)
  | short (letters : List Char)
  | word (text : String)
  deriving DecidableEq, Repr, Inhabited

/-- A lone dash is a word. -/
def Argument.ofText (text : String) : Argument :=
  match text.toList with
  | ['-', '-'] => .separator
  | '-' :: '-' :: rest =>
    let attached := (rest.dropWhile (· ≠ '=')).tail?
    .long (String.ofList (rest.takeWhile (· ≠ '='))) (attached.map String.ofList)
  | '-' :: letter :: rest => .short (letter :: rest)
  | _ => .word text

structure Given where
  flags : List Flag := []
  values : List (Parameter × String) := []
  operand : Option String := none
  deriving DecidableEq, Repr, Inhabited

namespace Given

/-- Help and version interrupt at once; any other flag is given at most once. -/
def raise (given : Given) : Flag → Except Interruption Given
  | .help => .error .help
  | .version => .error .version
  | flag =>
    if flag ∈ given.flags then .error .misuse
    else .ok { given with flags := flag :: given.flags }

/-- A parameter is given at most once, and a path is not empty. -/
def set (given : Given) (parameter : Parameter) (value : String) : Except Interruption Given :=
  if (given.values.lookup parameter).isSome then .error .misuse
  else if parameter = .output ∧ value.isEmpty then .error .misuse
  else .ok { given with values := (parameter, value) :: given.values }

def place (verb : Verb) (given : Given) (operand : String) : Except Interruption Given :=
  if !verb.takesOperand || given.operand.isSome || operand.isEmpty then .error .misuse
  else .ok { given with operand := some operand }

def schema? (given : Given) : Option String := given.values.lookup .schema

def output? (given : Given) : Option String := given.values.lookup .output

/-- A schema and the wish for none exclude each other on one side of the verb. -/
def conflicts (given : Given) : Bool :=
  given.schema?.isSome && given.flags.contains .unqualified

end Given

/-- One side of the verb while it is read. -/
structure Reading where
  given : Given := {}
  /-- A parameter whose value stands by itself, and the value once it has been met. It is looked at
  when the next option is, or at the end. -/
  held : Option (Parameter × Option String) := none
  deriving DecidableEq, Repr, Inhabited

namespace Reading

/-- Accepts what is held. A parameter whose value never came is refused. -/
def settle (reading : Reading) : Except Interruption Given :=
  match reading.held with
  | none => .ok reading.given
  | some (parameter, some value) => reading.given.set parameter value
  | some (_, none) => .error .misuse

def fill? (reading : Reading) (word : String) : Option Reading :=
  match reading.held with
  | some (parameter, none) => some { reading with held := some (parameter, some word) }
  | _ => none

def raise (reading : Reading) (flag : Flag) : Except Interruption Reading := do
  let given ← reading.settle
  return { given := ← given.raise flag }

def name (reading : Reading) (parameter : Parameter) (attached : Option String) :
    Except Interruption Reading := do
  let given ← reading.settle
  match attached with
  | some value => return { given := ← given.set parameter value }
  | none => return { given, held := some (parameter, none) }

def long (spellings : List OptionSpelling) (reading : Reading) (name : String)
    (attached : Option String) : Except Interruption Reading :=
  match (spellings.find? fun spelling => spelling.name = name).map OptionSpelling.choice with
  | some (.flag flag) => if attached.isSome then .error .misuse else reading.raise flag
  | some (.parameter parameter) => reading.name parameter attached
  | none => .error .misuse

/-- Letters may be joined; what follows the letter of a parameter is its value, after an optional
equals sign. -/
def short (spellings : List OptionSpelling) (reading : Reading) :
    List Char → Except Interruption Reading
  | [] => .ok reading
  | letter :: rest =>
    match (spellings.find? fun spelling => spelling.letter = some letter).map
      OptionSpelling.choice with
    | some (.flag flag) => do short spellings (← reading.raise flag) rest
    | some (.parameter parameter) =>
      match rest with
      | [] => reading.name parameter none
      | '=' :: value => reading.name parameter (some (String.ofList value))
      | value => reading.name parameter (some (String.ofList value))
    | none => .error .misuse

/-- The reading after an argument. Two dashes end it, and before the verb so does a word that is no
value. -/
def advance (side : Option Verb) (reading : Reading) :
    Argument → Except Interruption (Option Reading)
  | .long name attached =>
    return some (← reading.long (OptionSpelling.accepted side) name attached)
  | .short letters => return some (← reading.short (OptionSpelling.accepted side) letters)
  | .word text =>
    match reading.fill? text, side with
    | some filled, _ => return some filled
    | none, some verb => return some { given := ← (← reading.settle).place verb text }
    | none, none => return none
  | .separator => return none

/-- Reads arguments, and leaves those from the one on that ends the reading. -/
def scan (side : Option Verb) (reading : Reading) :
    List String → Except Interruption (Reading × List String)
  | [] => return (reading, [])
  | argument :: rest => do
    match ← reading.advance side (Argument.ofText argument) with
    | some next => scan side next rest
    | none => return (reading, argument :: rest)

end Reading

/-- Reads what follows a verb. After two dashes there are only operands. -/
def readAfter (verb : Verb) (arguments : List String) : Except Interruption Given := do
  let (reading, rest) ← Reading.scan (some verb) {} arguments
  rest.tail.foldlM (Given.place verb) (← reading.settle)

def isHelp : List String → Bool
  | ["help"] => true
  | ["help", topic] => topic = "help" || (Verb.ofName? topic).isSome
  | _ => false

/-- Reads the arguments up to the verb and beyond. What comes before it is settled last. -/
def readArguments (arguments : List String) : Except Interruption (Given × Verb × Given) := do
  let (reading, rest) ← Reading.scan none {} arguments
  match rest with
  | [] => throw .misuse
  | word :: further =>
    match Verb.ofName? word with
    | some verb =>
      let after ← readAfter verb further
      return (← reading.settle, verb, after)
    | none => throw (if isHelp rest then .help else .misuse)

structure Settings where
  dialect : Dialect := {}
  debug : Bool := false
  deriving DecidableEq, Repr, Inhabited

def Settings.ofGiven (before after : Given) : Settings :=
  let raised (flag : Flag) := before.flags.contains flag || after.flags.contains flag
  let schema := if raised .unqualified then none
    else (after.schema? <|> before.schema?) <|> ({} : Dialect).schema
  let notEqual := if raised .bang then .bang else .standard
  { dialect := { schema, notEqual }, debug := raised .debug }

inductive Command where
  /-- Prints every tree; a strict run fails when one of them is incomplete. -/
  | render (path : String) (strict : Bool)
  | check (path : String)
  | demo (path : String)
  deriving DecidableEq, Repr, Inhabited

def Command.ofGiven (verb : Verb) (given : Given) : Except Interruption Command :=
  match verb, given.operand with
  | .render, some path => .ok (.render path (given.flags.contains .strict))
  | .check, some path => .ok (.check path)
  | .demo, _ => .ok (.demo (given.output?.getD "demo.snap"))
  | _, none => .error .misuse

def parse (arguments : List String) : Except Interruption (Settings × Command) := do
  let (before, verb, after) ← readArguments arguments
  if before.conflicts || after.conflicts then throw .misuse
  return (Settings.ofGiven before after, ← Command.ofGiven verb after)

end ConstraintTree.CommandLine
