import Scribe.Files.Tree

/-!
# File systems

All that is done with the files of a machine is done by four operations.  What takes several of
them, such as making a directory with those above it, is written once for every file system that
has the four, and need not be all or nothing where the single operations are.
-/

namespace Scribe.Files

/-! ### Operations -/

/-- The operations on the files of a machine.  One that is to change something gives the new state
beside its result, also when it fails. -/
class FileSystem (σ : Type) where
  /-- The text of the file at a path. -/
  readText : σ → String → Except FileFault String
  isDirectory : σ → String → Bool
  /-- Makes one directory. -/
  makeDirectory : σ → String → Except FileFault Unit × σ
  /-- Writes a file, in place of the one at the path if there is one. -/
  write : σ → String → ByteArray → Except FileFault Unit × σ

instance : FileSystem Tree where
  readText := Tree.readText
  isDirectory := Tree.isDirectory
  makeDirectory := Tree.makeDirectory
  write := Tree.write

/-! ### Making directories -/

section
variable {σ : Type} [FileSystem σ]

/-- Makes the directory at the first path, and those above it as far as they are missing; the
other paths are the ones above it, nearest first.  Directories that were made stay when a later one
cannot be made. -/
def makeDirectoriesAlong (s : σ) : List String → Except FileFault Unit × σ
  | [] => (.ok (), s)
  | path :: above =>
    if path = "" then (.ok (), s)
    else
      match FileSystem.makeDirectory s path with
      | (.ok (), s') => (.ok (), s')
      | (.error .notFound, _) =>
        match makeDirectoriesAlong s above with
        | (.error e, s') => (.error e, s')
        | (.ok (), s') =>
          match FileSystem.makeDirectory s' path with
          | (.ok (), s'') => (.ok (), s'')
          | (.error e, s'') =>
            (if FileSystem.isDirectory s'' path then .ok () else .error e, s'')
      | (.error e, s') => (if FileSystem.isDirectory s' path then .ok () else .error e, s')

/-- Makes the directory at a path and the missing ones above it. -/
def makeDirectories (s : σ) (path : String) : Except FileFault Unit × σ :=
  makeDirectoriesAlong s (path :: ancestors path path.length)

end

/-- Makes the directory at a path of a tree and the missing ones above it. -/
def Tree.makeDirectories (t : Tree) (path : String) : Except FileFault Unit × Tree :=
  Files.makeDirectories t path

end Scribe.Files
