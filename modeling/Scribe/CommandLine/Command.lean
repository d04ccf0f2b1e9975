import Scribe.CommandLine.Usage

/-!
# Commands

The commands of the program and their options.  One flag, for diagnostics, may stand before the
name of a command as well as among its options.
-/

namespace Scribe.CommandLine

/-! ### Options of the commands -/

def inputOption : OptionSpec := ⟨"input", some 'i', "INPUT", .path, some "GOFILE", true⟩

def outputOption : OptionSpec := ⟨"output", some 'o', "OUTPUT", .path, none, false⟩

def typeOption : OptionSpec := ⟨"type", some 't', "CONST_TYPE", .text, none, false⟩

/-- The package of a file that has no package clause. -/
def fallbackPackageOption : OptionSpec :=
  ⟨"package", none, "PACKAGE", .text, some "GOPACKAGE", false⟩

def packageOption : OptionSpec := ⟨"package", none, "PACKAGE", .text, none, false⟩

def formatterOption : OptionSpec := ⟨"formatter", none, "FORMATTER", .formatter, none, false⟩

def templateDirOption : OptionSpec := ⟨"template-dir", none, "TEMPLATE_DIR", .path, none, false⟩

def addrOption : OptionSpec := ⟨"addr", none, "ADDR", .text, some "METAGEN_DB_ADDR", false⟩

def userOption : OptionSpec := ⟨"user", none, "USER", .text, some "METAGEN_DB_USER", false⟩

def passwordOption : OptionSpec := ⟨"pass", none, "PASS", .text, some "METAGEN_DB_PASS", false⟩

def schemaOption : OptionSpec := ⟨"db", none, "DB", .text, some "METAGEN_DB_NAME", false⟩

def tableOption : OptionSpec := ⟨"table", none, "TABLE", .text, none, true⟩

def dirOption : OptionSpec := ⟨"dir", none, "DIR", .path, none, false⟩

/-- The options of both commands that read a table. -/
def tableOptions : List OptionSpec :=
  [addrOption, userOption, passwordOption, schemaOption, tableOption, dirOption]

/-! ### Commands -/

/-- What a command that reads a table is told. -/
structure TableRequest where
  addr : Option String
  user : Option String
  password : Option String
  schema : Option String
  table : String
  dir : Option String
  deriving Repr, DecidableEq

/-- A call of a command. -/
inductive Command where
  | lookup (input : String) (output : Option String) (constType : Option String)
      (package : Option String) (formatter : Option FormatterKind) (templateDir : Option String)
  | page (request : TableRequest) (templateDir : Option String)
  | record (request : TableRequest) (package : Option String) (formatter : Option FormatterKind)
      (templateDir : Option String)
  deriving Repr, DecidableEq

/-- A command and whether diagnostics are wanted. -/
structure Invocation where
  command : Command
  verbose : Bool
  deriving Repr, DecidableEq

/-! ### Reading calls -/

namespace OptionReading

def value? (r : OptionReading) (o : OptionSpec) : Option String := r.values.lookup o.long

def formatter? (r : OptionReading) : Option FormatterKind :=
  (r.value? formatterOption).bind FormatterKind.parse?

def tableRequest (r : OptionReading) : TableRequest where
  addr := r.value? addrOption
  user := r.value? userOption
  password := r.value? passwordOption
  schema := r.value? schemaOption
  table := (r.value? tableOption).getD ""
  dir := r.value? dirOption

end OptionReading

/-- The options of a command, and the call that they make. -/
def command? (name : String) : Option (List OptionSpec × (OptionReading → Command)) :=
  match name with
  | "comment-extract" =>
    some ([inputOption, outputOption, typeOption, fallbackPackageOption, formatterOption,
        templateDirOption],
      fun r => .lookup ((r.value? inputOption).getD "") (r.value? outputOption)
        (r.value? typeOption) (r.value? fallbackPackageOption) r.formatter?
        (r.value? templateDirOption))
  | "schema-to-markdown" =>
    some (tableOptions ++ [templateDirOption],
      fun r => .page r.tableRequest (r.value? templateDirOption))
  | "schema-to-struct" =>
    some (tableOptions ++ [packageOption, formatterOption, templateDirOption],
      fun r => .record r.tableRequest (r.value? packageOption) r.formatter?
        (r.value? templateDirOption))
  | _ => none

/-- Whether a word is the name of a command, or asks for help. -/
def isCommandName (word : String) : Bool := word = "help" || (command? word).isSome

/-- What the words after a wish for help come to: at most one may follow, the name of a command. -/
def helpOn (words : List String) : Stop :=
  let unknown := (words.take 1).filter (!isCommandName ·) ++ words.drop 1
  match unknown with
  | [] => .help
  | word :: _ => .error (.unknownCommand word)

/-- Reads the words from the name of a command on. -/
def readCommand (env : Environment) (verbose : Bool) (name : String) (words : List String) :
    Except Stop Invocation :=
  if name = "help" then .error (helpOn words)
  else
    match command? name with
    | none => .error (.error (.unknownCommand name))
    | some (specs, make) => do
      let r ← parseOptions specs env words
      return ⟨make r, verbose || r.verbose⟩

/-- What it means that the words end before the name of a command. -/
def endWithoutCommand (r : OptionReading) : Stop :=
  if r.verbose then .error .noCommand else .nothingAsked

/-- Reads the words before the name of a command. -/
def readWords (env : Environment) (r : OptionReading) : List String → Except Stop Invocation
  | [] => .error (endWithoutCommand r)
  | word :: rest =>
    match word.toList with
    | ['-', '-'] =>
      match rest with
      | [] => .error (endWithoutCommand r)
      | next :: _ =>
        if isCommandName next then .error (.error (.unknownArgument next))
        else .error (.error (.unknownCommand next))
    | '-' :: '-' :: name =>
      match r.addLong [] true name with
      | .ok r => readWords env r rest
      | .error e => .error e
    | '-' :: c :: letters =>
      match r.addLetters [] true (c :: letters) with
      | .ok r => readWords env r rest
      | .error e => .error e
    | _ => readCommand env r.verbose word rest

/-- The call that the words after the program's name make. -/
def parseWords (env : Environment) (words : List String) : Except Stop Invocation :=
  readWords env .start words

end Scribe.CommandLine
