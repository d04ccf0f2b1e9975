import Scribe.Generate

/-!
# Sessions

A sequence of steps on one file system, with one renderer at a time and at most one connection to
a catalog.  A step that fails changes no more than what it is about: the renderer stays when
another one cannot be made, but a new connection ends the one before, whether it is made or not.

Every step takes place at a moment of its own.
-/

namespace Scribe

open Scribe.Files Scribe.Schema

/-- The state of a session. -/
structure Session where
  files : Tree
  renderer : Renderer
  /-- The server that the session is connected to. -/
  connection : Option Server
  /-- How many steps there were. -/
  moment : Nat

/-- What a session can be asked to do. -/
inductive Step where
  /-- A file is written from outside. -/
  | put (path content : String)
  | useRenderer (formatter : Formatter) (templateDir : Option String)
  | connect (login : Login)
  | tableComment (schema table : String)
  | columns (schema table : String)
  | table (schema table : String)
  | generate (output : TableOutput) (job : SchemaJob)
  | lookup (job : LookupJob)
  /-- Ends the connection after a run, which may have failed. -/
  | finish (outcome : Option Failure)
  | close

/-- What a step answers. -/
inductive Answer where
  | done
  | text (s : String)
  | columns (columns : List Column)
  | table (t : Table)
  | file (f : GeneratedFile)
  | failed (e : Failure)
  | notConnected

namespace Answer

/-- The answer of a step that may fail. -/
def ofExcept {α : Type} (answer : α → Answer) : Except Failure α → Answer
  | .ok a => answer a
  | .error e => failed e

/-- The answer of a question to a catalog. -/
def ofQuery {α : Type} (answer : α → Answer) : Except CatalogError α → Answer
  | .ok a => answer a
  | .error e => failed (.query e.message)

end Answer

namespace Session

def start (files : Tree) : Session := ⟨files, .default, none, 0⟩

/-- Does something with the server that the session is connected to. -/
def withServer (s : Session) (act : Server → Answer × Session) : Answer × Session :=
  match s.connection with
  | none => (.notConnected, s)
  | some server => act server

/-- What a step does at the moment of the session. -/
def act (network : Network) (s : Session) : Step → Answer × Session
  | .put path content =>
    let (outcome, files) := writeFile s.files path content
    (.ofExcept (fun _ => .done) outcome, { s with files })
  | .useRenderer formatter templateDir =>
    match Renderer.ofDirectory s.files formatter templateDir with
    | .ok renderer => (.done, { s with renderer })
    | .error e => (.failed e, s)
  | .connect login =>
    match network.connect login with
    | .ok server => (.done, { s with connection := some server })
    | .error e => (.failed (.connection e.message), { s with connection := none })
  | .tableComment schema table =>
    s.withServer fun server => (.ofQuery .text (server.fetchComment schema table), s)
  | .columns schema table =>
    s.withServer fun server => (.ofQuery .columns (server.fetchColumns schema table), s)
  | .table schema table =>
    s.withServer fun server => (.ofQuery .table (server.fetchTable schema table), s)
  | .generate output job =>
    s.withServer fun server =>
      let (outcome, files) := job.run output (s.renderer.atMoment s.moment) server s.files
      (.ofExcept .file outcome, { s with files })
  | .lookup job =>
    let (outcome, files) := job.run (s.renderer.atMoment s.moment) s.files
    (.ofExcept .file outcome, { s with files })
  | .finish outcome =>
    s.withServer fun _ => (outcome.elim .done .failed, { s with connection := none })
  | .close => s.withServer fun _ => (.done, { s with connection := none })

/-- A step, and the moment after it. -/
def step (network : Network) (s : Session) (step : Step) : Answer × Session :=
  let (answer, s) := s.act network step
  (answer, { s with moment := s.moment + 1 })

end Session

end Scribe
