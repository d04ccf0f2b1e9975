import Scribe.CommandLine.Footprint

/-!
# The program

Takes the part of the disk that a call looks at into a tree, runs the call on the tree, brings
what is new in it back to the disk, and prints the report.  Everything that is decided is decided
by `CommandLine.run`.

The program has no database client of its own, so no address can be reached from it.
-/

namespace Scribe.CommandLine

open Scribe.Files

/-! ### From the disk -/

/-- The name of a location on the disk. -/
def diskPath (l : Location) : String := "/" ++ "/".intercalate l

/-- Adds what the disk has at a location, and returns whether that is a directory. -/
def addLocation (t : Tree) (l : Location) : IO (Tree × Bool) := do
  let path := (← IO.currentDir) / diskPath l
  if ← path.isDir then return (t.put l .directory, true)
  if ← path.pathExists then return (t.put l (.file (← IO.FS.readBinFile path)), false)
  return (t, false)

/-- Adds what the disk has along the pieces of a path. -/
def addPieces (t : Tree) (l : Location) : List (List Char) → IO Tree
  | [] => return t
  | piece :: rest => do
    if piece = [] || piece = ['.'] then addPieces t l rest
    else if piece = ['.', '.'] then addPieces t l.dropLast rest
    else
      let (t, more) ← addLocation t (l ++ [String.ofList piece])
      if more then addPieces t (l ++ [String.ofList piece]) rest else return t

def addPath (t : Tree) (path : String) : IO Tree :=
  addPieces t (if isAbsolute path then [] else t.working) (pieces path)

/-- Adds the templates below a location. -/
partial def addTemplates (t : Tree) (l : Location) : IO Tree := do
  let dir := (← IO.currentDir) / diskPath l
  if ← dir.isDir then
    (← dir.readDir).toList.foldlM (fun t entry => addTemplates t (l ++ [entry.fileName])) t
  else if l.getLast?.any fun name => fitsName templateNames.toList name.toList then
    return (← addLocation t l).1
  else return t

/-- Adds the templates of a directory. -/
def addListing (t : Tree) (path : String) : IO Tree := do
  let t ← addPath t path
  let pattern := templatePattern path
  let t ← addPath t pattern.base
  match pattern.start? t with
  | some l => addTemplates t l
  | none => return t

/-- The part of the disk that a call looks at. -/
def takeTree (env : Environment) (words : List String) : IO Tree := do
  let here := (pieces (← IO.currentDir).toString).filterMap fun piece =>
    if piece = [] then none else some (String.ofList piece)
  let t ← (configPaths (env.lookup "HOME")).foldlM addPath ⟨[], here⟩
  let needed := footprint env words t
  let t ← needed.paths.foldlM addPath t
  needed.listed.toList.foldlM addListing t

/-! ### To the disk -/

/-- Writes what a tree has and an earlier one has not, oldest first. -/
def bringBack (before after : Tree) : IO Unit :=
  after.nodes.reverse.forM fun (l, n) =>
    if before.at? l = some n then return
    else
      match n with
      | .directory => IO.FS.createDirAll (diskPath l)
      | .file content => IO.FS.writeBinFile (diskPath l) content

/-- Runs the words after the program's name on the disk. -/
def runOnDisk (words : List String) : IO Report := do
  let env ← variableNames.filterMapM fun name => return (← IO.getEnv name).map (name, ·)
  let before ← takeTree env words
  let (report, after) := run env ⟨false, []⟩ words before
  bringBack before after
  return report

end Scribe.CommandLine

open Scribe.CommandLine in
def main (words : List String) : IO UInt32 := do
  let report ← runOnDisk words
  report.output.forM fun line => IO.println line
  report.errors.forM fun line => IO.eprintln line
  return report.exitCode.toUInt32
