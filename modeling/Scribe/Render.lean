import Scribe.Document.View
import Scribe.Failure
import Scribe.Files.Pattern
import Scribe.Formatter
import Scribe.Template.Rendering

/-!
# Rendering documents

A document becomes the text of a file.  Each kind of document has a form of its own, which a
template of the same kind replaces.  Source files then go through the formatter; a page gets exactly
one line end.

What a template makes of a value is up to the engine that has it.  An engine need not make the same
of it twice, since templates can ask for the time or for a random number; so it has a moment, and is
a function of it.  Templates are read once, when the renderer is made, so what happens to their
files later does not change what is rendered.
-/

namespace Scribe

open Scribe.Document Scribe.Files Scribe.Template Scribe.Text

/-! ### Kinds of documents -/

inductive DocumentKind where
  | record
  | page
  | lookup
  deriving Repr, DecidableEq

namespace DocumentKind

/-- The file of the template that replaces the form of a kind. -/
def templateFile : DocumentKind → String
  | record => "struct.go.tera"
  | page => "markdown.md.tera"
  | lookup => "constants.go.tera"

/-- The last part of the name of a generated file. -/
def extension : DocumentKind → String
  | record | lookup => "go"
  | page => "md"

/-- Whether a kind goes through the formatter. -/
def isFormatted : DocumentKind → Bool
  | record | lookup => true
  | page => false

end DocumentKind

/-- A document of any kind. -/
inductive AnyDocument where
  | record (f : StructFile)
  | page (p : MarkdownPage)
  | lookup (f : LookupFile)

namespace AnyDocument

def kind : AnyDocument → DocumentKind
  | record _ => .record
  | page _ => .page
  | lookup _ => .lookup

/-- The form of a document that no template replaces. -/
def text : AnyDocument → String
  | record f => f.text
  | page p => p.text
  | lookup f => f.text

/-- What a template sees of a document. -/
def view : AnyDocument → Value
  | record f => f.view
  | page p => p.view
  | lookup f => f.view

end AnyDocument

/-! ### Engines -/

/-- Templates by the names of their files, with all that they can ask for. -/
structure Engine where
  has : String → Bool
  /-- What a template makes of a value at a moment. -/
  textAt : Nat → String → Value → Except String String
  moment : Nat

namespace Engine

/-- The template of a file as it is now. -/
def find? (e : Engine) (file : String) : Option (Value → Except String String) :=
  if e.has file then some (e.textAt e.moment file) else none

/-- The engine at another moment. -/
def atMoment (e : Engine) (moment : Nat) : Engine := { e with moment }

/-- The engine for a library.  A moment is where its random numbers start from. -/
def ofLibrary (l : Library) : Engine where
  has file := (l.find? file).isSome
  textAt moment file view := l.render moment file [("ctx", view)]
  moment := 0

end Engine

/-! ### Directories of templates -/

/-- Why the templates of a directory cannot be used. -/
inductive TemplateDirError where
  | missing (dir : String)
  | broken (dir : String)
  deriving Repr, DecidableEq

def TemplateDirError.message : TemplateDirError → String
  | missing dir => "template directory " ++ dir ++ " does not exist"
  | broken dir => "failed to load templates from " ++ dir

/-- The pattern for the names of files that hold templates. -/
def templateNames : String := "*.tera"

/-- The templates of a directory, also those in directories within it. -/
def templatePattern (dir : String) : Pattern := .ofPath (join dir templateNames)

/-- The name of the template at the end of a way. -/
def templateName (way : List String) : String :=
  String.ofList (("/".intercalate way).toList.map fun c => if c = '\\' then '/' else c)

/-- The templates of a directory.  One file that is no template is enough for none to be used. -/
def readTemplates (t : Tree) (dir : String) : Except TemplateDirError Library :=
  if !t.isDirectory dir then .error (.missing dir)
  else
    let texts := ((templatePattern dir).files t).mapM fun (way, content) =>
      (String.fromUTF8? content).map (templateName way, ·)
    match texts.bind Library.ofFiles? with
    | some l => .ok l
    | none => .error (.broken dir)

/-! ### Renderers -/

structure Renderer where
  overrides : Option Engine
  formatter : Formatter

namespace Renderer

/-- The renderer without templates that lays sources out itself. -/
def default : Renderer := ⟨none, .builtin⟩

/-- The renderer at another moment. -/
def atMoment (r : Renderer) (moment : Nat) : Renderer :=
  { r with overrides := r.overrides.map (·.atMoment moment) }

/-- The renderer with a formatter and the templates of a directory. -/
def ofDirectory (t : Tree) (formatter : Formatter) (dir : Option String) :
    Except Failure Renderer :=
  match dir with
  | none => .ok ⟨none, formatter⟩
  | some dir =>
    match readTemplates t dir with
    | .ok l => .ok ⟨some (.ofLibrary l), formatter⟩
    | .error e => .error (.template e.message)

/-- The template that replaces the form of a kind, if there is one. -/
def template? (r : Renderer) (kind : DocumentKind) : Option (Value → Except String String) :=
  r.overrides.bind (·.find? kind.templateFile)

/-- The text of a document before it is finished. -/
def draft (r : Renderer) (d : AnyDocument) : Except Failure String :=
  match r.template? d.kind with
  | none => .ok d.text
  | some template =>
    match template d.view with
    | .ok s => .ok s
    | .error e =>
      .error (.template ("render error for '" ++ d.kind.templateFile ++ "': " ++ e))

/-- The final form of a draft. -/
def finish (r : Renderer) (kind : DocumentKind) (draft : String) : Except Failure String :=
  if kind.isFormatted then
    match r.formatter.format draft with
    | .ok s => .ok s
    | .error e => .error (.format e.message)
  else .ok (String.ofList (trimEnd draft.toList) ++ "\n")

/-- The text of the file for a document. -/
def render (r : Renderer) (d : AnyDocument) : Except Failure String :=
  match r.draft d with
  | .error e => .error e
  | .ok s => r.finish d.kind s

end Renderer

end Scribe
