import Scribe.Failure
import Scribe.Formatter

/-!
# Options of a command

A command takes options with values, by a long name or a letter, and one flag.  The words are read
from left to right.  What an option was given is looked at only when the next known option comes
or the words end, so a word that has no meaning is reported before a value that is wrong.

An option that is not given takes its value from the environment if it has a variable there.
-/

namespace Scribe.CommandLine

/-! ### Options -/

/-- What the values of an option are. -/
inductive ValueKind where
  | text
  /-- A path, which is never empty. -/
  | path
  | formatter
  deriving Repr, DecidableEq

/-- An option with a value. -/
structure OptionSpec where
  long : String
  letter : Option Char
  /-- What messages call the value. -/
  valueName : String
  kind : ValueKind
  /-- The variable that stands in for the option. -/
  standIn : Option String
  required : Bool
  deriving Repr, DecidableEq

/-- What messages call an option. -/
def OptionSpec.title (o : OptionSpec) : String := "--" ++ o.long ++ " <" ++ o.valueName ++ ">"

/-- Why words are no call of a command. -/
inductive UsageError where
  | unknownArgument (word : String)
  | unknownCommand (word : String)
  | noCommand
  | missingValue (title : String)
  | wrongValue (value : String) (title : String) (reason : String)
  | repeated (title : String)
  | needlessValue (value : String) (title : String)
  | missingOption
  deriving Repr, DecidableEq

/-- The name of the program. -/
def programName : String := "metagen-ctl"

def UsageError.message : UsageError → String
  | unknownArgument word => "unexpected argument '" ++ word ++ "' found"
  | unknownCommand word => "unrecognized subcommand '" ++ word ++ "'"
  | noCommand => "'" ++ programName ++ "' requires a subcommand but one was not provided"
  | missingValue title => "a value is required for '" ++ title ++ "' but none was supplied"
  | wrongValue value title reason =>
    "invalid value '" ++ value ++ "' for '" ++ title ++ "': " ++ reason
  | repeated title => "the argument '" ++ title ++ "' cannot be used multiple times"
  | needlessValue value title =>
    "unexpected value '" ++ value ++ "' for '" ++ title ++ "' found; no more were expected"
  | missingOption => "the following required arguments were not provided:"

/-- Why no command is run. -/
inductive Stop where
  | error (e : UsageError)
  /-- The words say nothing. -/
  | nothingAsked
  /-- Help was asked for. -/
  | help
  | version
  deriving Repr, DecidableEq

/-! ### Reading options -/

/-- The variables of the environment. -/
abbrev Environment := List (String × String)

/-- How far the words of a command have been read. -/
structure OptionReading where
  /-- The values that were looked at. -/
  values : List (String × String)
  verbose : Bool
  /-- The last option, with its value if that was there. -/
  pending : Option (OptionSpec × Option String)

namespace OptionReading

def start : OptionReading := ⟨[], false, none⟩

/-- The flag for diagnostics. -/
def verboseTitle : String := "--verbose"

/-- Takes a value of an option. -/
def accept (r : OptionReading) (o : OptionSpec) (value : String) :
    Except UsageError OptionReading :=
  if (r.values.lookup o.long).isSome then .error (.repeated o.title)
  else
    let accepted : OptionReading := { r with values := (o.long, value) :: r.values }
    match o.kind with
    | .text => .ok accepted
    | .path => if value = "" then .error (.missingValue o.title) else .ok accepted
    | .formatter =>
      match FormatterKind.parse? value with
      | some _ => .ok accepted
      | none =>
        .error (.wrongValue value o.title
          (Failure.config (FormatterKind.unknownMessage value)).message)

/-- Looks at what the last option was given. -/
def settle (r : OptionReading) : Except UsageError OptionReading :=
  match r.pending with
  | none => .ok r
  | some (o, none) => .error (.missingValue o.title)
  | some (o, some value) => { r with pending := none }.accept o value

/-- Starts an option, whose value may be attached to it. -/
def addOption (r : OptionReading) (o : OptionSpec) (attached : Option String) :
    Except UsageError OptionReading := do
  let r ← r.settle
  match attached with
  | some value => r.accept o value
  | none => return { r with pending := some (o, none) }

def addVerbose (r : OptionReading) : Except UsageError OptionReading := do
  let r ← r.settle
  if r.verbose then .error (.repeated verboseTitle) else return { r with verbose := true }

/-- Reads a word of letters.  The characters after a letter with a value are the value, an equals
sign in front of it aside. -/
def addLetters (specs : List OptionSpec) (version : Bool) (r : OptionReading) :
    List Char → Except Stop OptionReading
  | [] => .ok r
  | c :: rest =>
    if c = 'v' then
      match r.addVerbose with
      | .ok r => addLetters specs version r rest
      | .error e => .error (.error e)
    else if c = 'h' then
      match r.settle with
      | .ok _ => .error .help
      | .error e => .error (.error e)
    else if version && c = 'V' then .error .version
    else
      match specs.find? (·.letter = some c) with
      | none => .error (.error (.unknownArgument (String.ofList ['-', c])))
      | some o =>
        let attached :=
          match rest with
          | [] => none
          | '=' :: value => some (String.ofList value)
          | value => some (String.ofList value)
        (r.addOption o attached).mapError .error

/-- A word without its value, and the value after its first equals sign. -/
def splitValue (s : List Char) : String × Option String :=
  let name := String.ofList (s.takeWhile (· ≠ '='))
  match s.dropWhile (· ≠ '=') with
  | [] => (name, none)
  | _ :: value => (name, some (String.ofList value))

/-- Reads a word that starts with two dashes. -/
def addLong (specs : List OptionSpec) (version : Bool) (r : OptionReading) (s : List Char) :
    Except Stop OptionReading :=
  let (name, value) := splitValue s
  let flag (act : Except Stop OptionReading) : Except Stop OptionReading :=
    match value with
    | some v => .error (.error (.needlessValue v ("--" ++ name)))
    | none => act
  if name = "verbose" then flag (r.addVerbose.mapError .error)
  else if name = "help" then
    flag (match r.settle with
      | .ok _ => .error .help
      | .error e => .error (.error e))
  else if version && name = "version" then flag (.error .version)
  else
    match specs.find? (·.long = name) with
    | none => .error (.error (.unknownArgument ("--" ++ name)))
    | some o => (r.addOption o value).mapError .error

end OptionReading

/-- Reads the words of a command. -/
def readOptions (specs : List OptionSpec) (r : OptionReading) :
    List String → Except Stop OptionReading
  | [] => .ok r
  | word :: rest =>
    match word.toList with
    | ['-', '-'] =>
      match rest with
      | [] => .ok r
      | next :: _ => .error (.error (.unknownArgument next))
    | '-' :: '-' :: name =>
      match r.addLong specs false name with
      | .ok r => readOptions specs r rest
      | .error e => .error e
    | '-' :: c :: letters =>
      match r.addLetters specs false (c :: letters) with
      | .ok r => readOptions specs r rest
      | .error e => .error e
    | _ =>
      match r.pending with
      | some (o, none) => readOptions specs { r with pending := some (o, some word) } rest
      | _ => .error (.error (.unknownArgument word))

/-- Takes values of options that were not given from the environment. -/
def addVariables (env : Environment) (r : OptionReading) :
    List OptionSpec → Except UsageError OptionReading
  | [] => .ok r
  | o :: rest =>
    match if (r.values.lookup o.long).isSome then none else o.standIn.bind (List.lookup · env) with
    | none => addVariables env r rest
    | some value =>
      match r.accept o value with
      | .ok r => addVariables env r rest
      | .error e => .error e

/-- The options that a command is called with. -/
def parseOptions (specs : List OptionSpec) (env : Environment) (words : List String) :
    Except Stop OptionReading := do
  let r ← readOptions specs .start words
  let r ← r.settle.mapError Stop.error
  let r ← (addVariables env r specs).mapError Stop.error
  if specs.all fun o => !o.required || (r.values.lookup o.long).isSome then .ok r
  else .error (.error .missingOption)

end Scribe.CommandLine
