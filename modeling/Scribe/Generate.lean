import Scribe.Files.System
import Scribe.Render
import Scribe.Schema.Catalog
import Scribe.Source.Constants

/-!
# Generating files

The two kinds of job: a lookup file from the constants of a source file, and a page or a struct
file from a table.  A job reads, renders and formats first and writes last, so what fails before
the writing leaves the files as they are, and what fails in it leaves at most new directories.

A job runs on any file system.
-/

namespace Scribe

open Scribe.Document Scribe.Files Scribe.Schema Scribe.Source

/-- A file that a job has written. -/
structure GeneratedFile where
  path : String
  /-- The length of the content. -/
  bytes : Nat
  deriving Repr, DecidableEq

/-! ### Writing -/

section
variable {σ : Type} [FileSystem σ]

/-- The directories above a path, made if they are missing. -/
def makeParents (s : σ) (path : String) : Except Failure Unit × σ :=
  match (parent? path).filter (· ≠ "") with
  | none => (.ok (), s)
  | some dir =>
    match makeDirectories s dir with
    | (.ok (), s) => (.ok (), s)
    | (.error e, s) => (.error (.io dir e.message), s)

/-- Writes a file, in directories that need not be there yet. -/
def writeFile (s : σ) (path content : String) : Except Failure GeneratedFile × σ :=
  match makeParents s path with
  | (.error e, s) => (.error e, s)
  | (.ok (), s) =>
    match FileSystem.write s path content.toUTF8 with
    | (.error e, s) => (.error (.io path e.message), s)
    | (.ok (), s) => (.ok ⟨path, content.utf8ByteSize⟩, s)

/-- Writes what was rendered, if it was. -/
def writeRendered (s : σ) (path : String) (content : Except Failure String) :
    Except Failure GeneratedFile × σ :=
  match content with
  | .error e => (.error e, s)
  | .ok text => writeFile s path text

end

/-! ### Lookup files -/

/-- The path for the lookup file of a source file: its own with `_msg` before the extension. -/
def messagePath (input : String) : String :=
  let path := input.toList
  let stem := if ".go".toList.isSuffixOf path then path.take (path.length - 3) else path
  String.ofList (stem ++ "_msg.go".toList)

/-- A job for a lookup file. -/
structure LookupJob where
  input : String
  output : Option String
  constType : String
  /-- The package if the source file has no package clause. -/
  fallbackPackage : Option String
  deriving Repr, DecidableEq

namespace LookupJob

def outputPath (job : LookupJob) : String := job.output.getD (messagePath job.input)

/-- The lookup file that a source text asks for. -/
def document (job : LookupJob) (source : String) : Except Failure LookupFile :=
  match readConstants source.toList with
  | .error e => .error (.parse e.line e.message)
  | .ok file =>
    match file.resolvePackage job.fallbackPackage with
    | .error e => .error (.parse e.line e.message)
    | .ok package => .ok (.ofComments package job.constType file.comments)

/-- What the job writes. -/
def content {σ : Type} [FileSystem σ] (job : LookupJob) (r : Renderer) (s : σ) :
    Except Failure String :=
  match FileSystem.readText s job.input with
  | .error e => .error (.io job.input e.message)
  | .ok source =>
    match job.document source with
    | .error e => .error e
    | .ok f => r.render (.lookup f)

def run {σ : Type} [FileSystem σ] (job : LookupJob) (r : Renderer) (s : σ) :
    Except Failure GeneratedFile × σ :=
  writeRendered s job.outputPath (job.content r s)

end LookupJob

/-! ### Tables -/

/-- A job for a page or a struct file. -/
structure SchemaJob where
  schema : String
  table : String
  /-- The directory for the file. -/
  dir : String
  /-- The package of a struct file, if it is not made from the table's name. -/
  package : Option String
  deriving Repr, DecidableEq

/-- What is made of a table. -/
inductive TableOutput where
  | page
  | record
  deriving Repr, DecidableEq

namespace SchemaJob

def document (job : SchemaJob) (output : TableOutput) (t : Table) : AnyDocument :=
  match output with
  | .page => .page (.ofTable t)
  | .record => .record (.ofTable t job.package)

def kind : TableOutput → DocumentKind
  | .page => .page
  | .record => .record

/-- The file in the job's directory with the name of the table. -/
def outputPath (job : SchemaJob) (output : TableOutput) : String :=
  join job.dir (job.table ++ "." ++ (kind output).extension)

/-- What the job writes. -/
def content (job : SchemaJob) (output : TableOutput) (r : Renderer) (server : Server) :
    Except Failure String :=
  match server.fetchTable job.schema job.table with
  | .error e => .error (.query e.message)
  | .ok t => r.render (job.document output t)

def run {σ : Type} [FileSystem σ] (job : SchemaJob) (output : TableOutput) (r : Renderer)
    (server : Server) (s : σ) : Except Failure GeneratedFile × σ :=
  writeRendered s (job.outputPath output) (job.content output r server)

end SchemaJob

end Scribe
