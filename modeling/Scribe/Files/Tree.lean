import Scribe.Files.Path
import Scribe.Text.Utf8

/-!
# File trees

The state of a file system without links: what is at each location, a location being the names on
the way down from the root.  Paths are resolved piece by piece, so a piece that is not a directory
stops the way even if a later `..` would lead back.

Reading leaves a tree alone.  Writing gives a new tree beside its result.  A single write or a
single new directory either takes effect or changes nothing.  What else a system can have and do,
links and refusals among it, comes on top of a tree (`Scribe.Files.Disk`).
-/

namespace Scribe.Files

/-! ### Faults -/

/-- Why a file operation fails. -/
inductive FileFault where
  | notFound
  | alreadyExists
  | notDirectory
  | isDirectory
  | nameTooLong
  | nulInPath
  /-- The content of a file is no text. -/
  | notText
  | tooManyLinks
  /-- The system refuses, for a reason of its own: a permission, the space, a broken device. -/
  | refused (reason : String) (number : Nat)
  deriving Repr, DecidableEq

def FileFault.message : FileFault → String
  | .notFound => "No such file or directory (os error 2)"
  | .alreadyExists => "File exists (os error 17)"
  | .notDirectory => "Not a directory (os error 20)"
  | .isDirectory => "Is a directory (os error 21)"
  | .nameTooLong => "File name too long (os error 36)"
  | .nulInPath => "file name contained an unexpected NUL byte"
  | .notText => "stream did not contain valid UTF-8"
  | .tooManyLinks => "Too many levels of symbolic links (os error 40)"
  | .refused reason number => reason ++ " (os error " ++ toString number ++ ")"

/-! ### Trees -/

/-- The names on the way from the root. -/
abbrev Location := List String

/-- What is at a location. -/
inductive Node where
  | directory
  | file (content : ByteArray)

/-- Two files are the same if their bytes are. -/
instance : DecidableEq Node
  | .directory, .directory => .isTrue rfl
  | .directory, .file _ => .isFalse nofun
  | .file _, .directory => .isFalse nofun
  | .file ⟨a⟩, .file ⟨b⟩ =>
    if h : a = b then .isTrue (by rw [h])
    else .isFalse fun e => h (by injection e with e; injection e)

def Node.isDirectory : Node → Bool
  | .directory => true
  | .file _ => false

/-- A file system, and the directory that relative paths start from. -/
structure Tree where
  nodes : List (Location × Node)
  working : Location

namespace Tree

/-- What is at a location.  The root is always a directory. -/
def at? (t : Tree) (l : Location) : Option Node :=
  if l = [] then some .directory else t.nodes.lookup l

/-- The tree with `n` at a location. -/
def put (t : Tree) (l : Location) (n : Node) : Tree :=
  { t with nodes := (l, n) :: t.nodes.filter fun e => e.1 ≠ l }

theorem lookup_filter_ne {l k : Location} (h : k ≠ l) (nodes : List (Location × Node)) :
    (nodes.filter fun e => e.1 ≠ l).lookup k = nodes.lookup k := by
  induction nodes with
  | nil => rfl
  | cons e rest ih =>
    obtain ⟨m, n⟩ := e
    by_cases hm : m = l
    · subst hm
      have : (k == m) = false := by simpa using h
      simpa [List.lookup_cons, this] using ih
    · by_cases hk : k = m
      · subst hk
        simp [hm]
      · have : (k == m) = false := by simpa using hk
        simpa [hm, List.lookup_cons, this] using ih

theorem at?_put (t : Tree) {l : Location} (h : l ≠ []) (n : Node) (k : Location) :
    (t.put l n).at? k = if k = l then some n else t.at? k := by
  by_cases hk : k = l
  · subst hk
    simp [at?, put, h]
  · by_cases hroot : k = []
    · subst hroot
      simp [at?, hk]
    · have : (k == l) = false := by simpa using hk
      simp only [at?, put, hroot, if_false, hk, List.lookup_cons, this]
      exact lookup_filter_ne hk t.nodes

/-! ### Resolving paths -/

/-- What a path leads to: a directory by way of dots or slashes only, or a name in a directory,
with a slash after it or not. -/
inductive Target where
  | directory (l : Location)
  | entry (l : Location) (slash : Bool)
  deriving Repr, DecidableEq

/-- The largest number of bytes in a name. -/
def maxName : Nat := 255

/-- The largest number of bytes in a path. -/
def maxPath : Nat := 4095

/-- Why a path cannot be followed anywhere. -/
def pathFault? (path : String) : Option FileFault :=
  if path.toList.any (· = Char.ofNat 0) then some .nulInPath
  else if path = "" then some .notFound
  else if maxPath < path.utf8ByteSize then some .nameTooLong
  else none

/-- Where a path is followed from. -/
def base (t : Tree) (path : String) : Location := if isAbsolute path then [] else t.working

/-- Goes on from a directory into a piece of a path, which has to be a directory too. -/
def enter (t : Tree) (l : Location) (piece : List Char) : Except FileFault Location :=
  if piece = [] || piece = ['.'] then .ok l
  else if piece = ['.', '.'] then .ok l.dropLast
  else
    let name := String.ofList piece
    if maxName < name.utf8ByteSize then .error .nameTooLong
    else
      match t.at? (l ++ [name]) with
      | none => .error .notFound
      | some (.file _) => .error .notDirectory
      | some .directory => .ok (l ++ [name])

/-- Follows the pieces of a path from a directory.  The last piece that names something need not
exist; `slash` is set if slashes follow it. -/
def follow (t : Tree) (l : Location) : List (List Char) → Except FileFault Target
  | [] => .ok (.directory l)
  | piece :: rest =>
    if piece = [] || piece = ['.'] || piece = ['.', '.'] || rest.any (· ≠ []) then
      match t.enter l piece with
      | .error e => .error e
      | .ok l => follow t l rest
    else
      let name := String.ofList piece
      if maxName < name.utf8ByteSize then .error .nameTooLong
      else .ok (.entry (l ++ [name]) (rest ≠ []))

/-- What a path leads to. -/
def resolve (t : Tree) (path : String) : Except FileFault Target :=
  match pathFault? path with
  | some e => .error e
  | none => t.follow (t.base path) (pieces path)

/-! ### Questions -/

/-- What is at a path, if anything can be reached. -/
def node? (t : Tree) (path : String) : Option Node :=
  match t.resolve path with
  | .error _ => none
  | .ok (.directory _) => some .directory
  | .ok (.entry l slash) =>
    match t.at? l with
    | some (.file content) => if slash then none else some (.file content)
    | n => n

def isDirectory (t : Tree) (path : String) : Bool := (t.node? path).any Node.isDirectory

def isFile (t : Tree) (path : String) : Bool := (t.node? path).any (!·.isDirectory)

/-- The bytes of the file at a path. -/
def readBytes (t : Tree) (path : String) : Except FileFault ByteArray :=
  match t.resolve path with
  | .error e => .error e
  | .ok (.directory _) => .error .isDirectory
  | .ok (.entry l slash) =>
    match t.at? l with
    | none => .error .notFound
    | some .directory => .error .isDirectory
    | some (.file content) => if slash then .error .notDirectory else .ok content

/-- The text that the content of a file is. -/
def textOf (content : ByteArray) : Except FileFault String :=
  match String.fromUTF8? content with
  | none => .error .notText
  | some s => .ok s

/-- The text of the file at a path. -/
def readText (t : Tree) (path : String) : Except FileFault String :=
  match t.readBytes path with
  | .error e => .error e
  | .ok content => textOf content

/-- The files below a location at any depth, each with the names on the way from there. -/
def filesBelow (t : Tree) (dir : Location) : List (List String × ByteArray) :=
  t.nodes.filterMap fun (l, n) =>
    match n with
    | .directory => none
    | .file content =>
      if dir.isPrefixOf l && l ≠ dir then some (l.drop dir.length, content) else none

/-! ### Changes -/

/-- Writes a file, in place of the one at the path if there is one. -/
def write (t : Tree) (path : String) (content : ByteArray) : Except FileFault Unit × Tree :=
  match t.resolve path with
  | .error e => (.error e, t)
  | .ok (.directory _) => (.error .isDirectory, t)
  | .ok (.entry l slash) =>
    if slash || (t.at? l).any Node.isDirectory then (.error .isDirectory, t)
    else (.ok (), t.put l (.file content))

/-- Makes one directory. -/
def makeDirectory (t : Tree) (path : String) : Except FileFault Unit × Tree :=
  match t.resolve path with
  | .error e => (.error e, t)
  | .ok (.directory _) => (.error .alreadyExists, t)
  | .ok (.entry l _) =>
    if (t.at? l).isSome then (.error .alreadyExists, t) else (.ok (), t.put l .directory)

end Tree

end Scribe.Files
