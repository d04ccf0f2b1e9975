import Scribe.CommandLine.Command
import Scribe.Config
import Scribe.Generate

/-!
# Running commands

A flag comes before the environment, the environment before the configuration, and that before
what is built in.  Here all of them become a job, the job is run, and one line says what it wrote
or why it did not.
-/

namespace Scribe.CommandLine

open Scribe.Document Scribe.Files Scribe.Schema

/-! ### Reports -/

/-- What a run of the program leaves besides files. -/
structure Report where
  exitCode : Nat
  output : List String
  errors : List String
  deriving Repr, DecidableEq

/-- One line about what the program is for. -/
def description : String :=
  "Command-line interface for metagen: generate Go lookup tables, Go models and Markdown docs " ++
    "from source comments and MySQL schemas"

def versionText : String := programName ++ " 0.1.0"

/-- The first line of a text. -/
def firstLine (s : String) : String := String.ofList (s.toList.takeWhile (· ≠ '\n'))

/-- The report when no command is run.  To say nothing is an error, and the report on it is the
help. -/
def Stop.report : Stop → Report
  | .error e => ⟨2, [], [firstLine ("error: " ++ e.message)]⟩
  | .nothingAsked => ⟨2, [], [description]⟩
  | .help => ⟨0, [description], []⟩
  | .version => ⟨0, [versionText], []⟩

/-- The report of a run that may have failed. -/
def Report.ofOutcome (verbose : Bool) (source : String) :
    Except Failure GeneratedFile → Report
  | .ok f => ⟨0, ["✓ Generated " ++ f.path ++ " from " ++ source], []⟩
  | .error e =>
    ⟨1, [], ("✗ " ++ e.message) :: if verbose then ["failed stage: " ++ e.stage] else []⟩

/-! ### From calls to jobs -/

/-- What commands are run with. -/
structure Context where
  home : Option String
  defaults : Defaults
  network : Network
  programs : Programs

/-- The directory of templates, if there is to be one. -/
def Context.templateDir? (c : Context) (given : Option String) : Option String :=
  given <|> c.defaults.templateDir.map (expandHome c.home)

def defaultDir : String := "./"

/-- The directory for pages and struct files. -/
def Context.outputDir (c : Context) (given : Option String) : String :=
  (given <|> c.defaults.outputDir.map (expandHome c.home)).getD defaultDir

/-- The renderer that flags and defaults ask for. -/
def makeRenderer (c : Context) (t : Tree) (formatter : Option FormatterKind)
    (templateDir : Option String) : Except Failure Renderer :=
  let kind := (formatter <|> c.defaults.formatter).getD .builtin
  let path := c.defaults.formatterPath.map (expandHome c.home)
  Renderer.ofDirectory t (.ofKind kind path c.programs) (c.templateDir? templateDir)

def defaultAddr : String := "127.0.0.1:3306"

def defaultUser : String := "root"

/-- The login that flags and defaults give.  There is no default for the schema. -/
def makeLogin (d : DatabaseDefaults) (r : TableRequest) : Except Failure Login :=
  match (r.schema <|> d.name).filter fun name => Text.trim name.toList ≠ [] with
  | none =>
    .error (.config "no database name given (--db, METAGEN_DB_NAME or [database] name)")
  | some schema =>
    .ok {
      addr := (r.addr <|> d.addr).getD defaultAddr
      user := (r.user <|> d.user).getD defaultUser
      password := (r.password <|> d.password).getD ""
      database := schema }

/-- The job for a table of the schema that is logged in to. -/
def makeSchemaJob (c : Context) (r : TableRequest) (login : Login) (package : Option String) :
    SchemaJob where
  schema := login.database
  table := r.table
  dir := c.outputDir r.dir
  package := package

/-! ### Running -/

def runLookup (c : Context) (t : Tree) (job : LookupJob) (formatter : Option FormatterKind)
    (templateDir : Option String) : Except Failure GeneratedFile × Tree :=
  match makeRenderer c t formatter templateDir with
  | .error e => (.error e, t)
  | .ok renderer => job.run renderer t

/-- Runs a command on a table, and returns what it is called in the report. -/
def runTable (c : Context) (t : Tree) (output : TableOutput) (r : TableRequest)
    (package : Option String) (formatter : Option FormatterKind) (templateDir : Option String) :
    (Except Failure GeneratedFile × Tree) × String :=
  match makeRenderer c t formatter templateDir with
  | .error e => ((.error e, t), "")
  | .ok renderer =>
    match makeLogin c.defaults.database r with
    | .error e => ((.error e, t), "")
    | .ok login =>
      let job := makeSchemaJob c r login package
      match c.network.connect login with
      | .error e => ((.error (.connection e.message), t), "")
      | .ok server => (job.run output renderer server t, job.schema ++ "." ++ job.table)

def runInvocation (c : Context) (t : Tree) (i : Invocation) : Report × Tree :=
  match i.command with
  | .lookup input output constType package formatter templateDir =>
    let type := (constType <|> c.defaults.constType).getD defaultConstType
    let (outcome, t) := runLookup c t ⟨input, output, type, package⟩ formatter templateDir
    (.ofOutcome i.verbose input outcome, t)
  | .page request templateDir =>
    let ((outcome, t), source) := runTable c t .page request none none templateDir
    (.ofOutcome i.verbose source outcome, t)
  | .record request package formatter templateDir =>
    let ((outcome, t), source) := runTable c t .record request package formatter templateDir
    (.ofOutcome i.verbose source outcome, t)

/-- Runs the program with the words after its name. -/
def run (env : Environment) (network : Network) (words : List String) (t : Tree)
    (programs : Programs := smallMachine) : Report × Tree :=
  match parseWords env words with
  | .error stop => (stop.report, t)
  | .ok invocation =>
    let home := env.lookup "HOME"
    runInvocation ⟨home, loadDefaults t home, network, programs⟩ t invocation

end Scribe.CommandLine
