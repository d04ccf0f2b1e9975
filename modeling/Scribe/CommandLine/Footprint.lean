import Scribe.CommandLine.Run

/-!
# What a call needs from the disk

A call is run on a tree, so a program that has a disk first needs the part of it that the call can
look at: the variables, the configuration files, and then, by what these say, the paths that are
read or written and the directory whose files are templates.
-/

namespace Scribe.CommandLine

open Scribe.Files

/-- The variables of the environment that have a meaning. -/
def variableNames : List String :=
  "HOME" :: (inputOption :: fallbackPackageOption :: tableOptions).filterMap (·.standIn)

/-- What a call looks at besides the configuration. -/
structure Footprint where
  paths : List String
  /-- A directory whose files all count. -/
  listed : Option String
  deriving Repr, DecidableEq

/-- The file that a command on a table writes. -/
def requestPath (c : Context) (output : TableOutput) (r : TableRequest) : String :=
  SchemaJob.outputPath ⟨"", r.table, c.outputDir r.dir, none⟩ output

def Command.footprint (c : Context) : Command → Footprint
  | .lookup input output _ _ _ templateDir =>
    ⟨[input, output.getD (messagePath input)], c.templateDir? templateDir⟩
  | .page request templateDir => ⟨[requestPath c .page request], c.templateDir? templateDir⟩
  | .record request _ _ templateDir =>
    ⟨[requestPath c .record request], c.templateDir? templateDir⟩

/-- What the words after the program's name look at, on a tree that has the configuration. -/
def footprint (env : Environment) (words : List String) (t : Tree) : Footprint :=
  match parseWords env words with
  | .error _ => ⟨[], none⟩
  | .ok invocation =>
    let home := env.lookup "HOME"
    invocation.command.footprint ⟨home, loadDefaults t home, ⟨false, []⟩, fun _ => none⟩

end Scribe.CommandLine
