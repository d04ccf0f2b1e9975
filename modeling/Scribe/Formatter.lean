import Scribe.Source.Layout
import Scribe.Text.Utf8
import Scribe.Tool.Shell

/-!
# Formatters

What generated source passes through before it is written: the layout of this library, a program
outside it, or nothing.  A formatter that fails stops the run, since it says that the source is
malformed.
-/

namespace Scribe

open Scribe.Text Scribe.Source Scribe.Tool

/-! ### Kinds -/

/-- The kinds of formatter that can be asked for. -/
inductive FormatterKind where
  | builtin
  /-- A program, `gofmt` unless another is named. -/
  | external
  | none
  deriving Repr, DecidableEq

namespace FormatterKind

/-- The name of a kind. -/
def name : FormatterKind → String
  | builtin => "builtin"
  | external => "gofmt"
  | none => "none"

/-- The kind with exactly this name, as a configuration file gives it. -/
def ofName? (s : String) : Option FormatterKind :=
  [builtin, external, none].find? (·.name = s)

/-- The kind that a user names: blanks around it and the case of its letters do not count, and
`off` is another name for no formatter. -/
def parse? (s : String) : Option FormatterKind :=
  let word := String.ofList ((trim s.toList).map Char.toLower)
  if word = "off" then some none else ofName? word

/-- What is said of a text that names no kind. -/
def unknownMessage (s : String) : String :=
  "unknown formatter '" ++ String.ofList ((trim s.toList).map Char.toLower) ++
    "' (expected builtin, gofmt or none)"

end FormatterKind

/-! ### Programs that can be run -/

/-- The programs that a machine has, by the paths that name them. -/
abbrev Programs := String → Option Program

/-- A machine that has a program to copy its input and a small shell, and no other. -/
def smallMachine : Programs := fun path =>
  [("cat", copy), ("/bin/cat", copy), ("/usr/bin/cat", copy),
    ("sh", shell), ("/bin/sh", shell), ("/usr/bin/sh", shell)].lookup path

/-! ### Formatters -/

/-- A formatter ready for use.  One outside this library is whatever program its path names on the
machine, if it names one. -/
inductive Formatter where
  | builtin
  | external (path : String) (program : Option Program)
  | none

/-- Why a formatter does not give a text. -/
inductive FormatError where
  | layout (e : LayoutError)
  | notStarted (path : String)
  | failed (path : String) (ending : Ending) (errors : String)
  | notText (path : String) (fault : Utf8Fault)
  deriving Repr, DecidableEq

def FormatError.message : FormatError → String
  | .layout e => e.message
  | .notStarted path =>
    "failed to run '" ++ path ++ "': No such file or directory (os error 2)"
  | .failed path ending errors =>
    "'" ++ path ++ "' exited with " ++ ending.message ++ ": " ++ errors
  | .notText path fault => "'" ++ path ++ "' produced invalid UTF-8: " ++ fault.message

namespace Formatter

/-- The formatter of a kind; the path matters for programs only. -/
def ofKind (kind : FormatterKind) (path : Option String) (programs : Programs := smallMachine) :
    Formatter :=
  match kind with
  | .builtin => builtin
  | .external =>
    let path := path.getD FormatterKind.external.name
    external path (programs path)
  | .none => none

/-- Runs the program that a path names on a source. -/
def runExternal (path : String) (program : Option Program) (source : String) :
    Except FormatError String :=
  match program with
  | .none => .error (.notStarted path)
  | some program =>
    let outcome := program source.toUTF8.toList
    if outcome.ending.succeeded then
      match decodeUtf8 ⟨outcome.output.toArray⟩ with
      | .ok s => .ok s
      | .error fault => .error (.notText path fault)
    else
      .error (.failed path outcome.ending
        (String.ofList (trim (decodeLossy 0 outcome.errors))))

/-- The final form of a source. -/
def format (f : Formatter) (source : String) : Except FormatError String :=
  match f with
  | builtin =>
    match layout source.toList with
    | .ok s => .ok (String.ofList s)
    | .error e => .error (.layout e)
  | external path program => runExternal path program source
  | none => .ok source

end Formatter

end Scribe
