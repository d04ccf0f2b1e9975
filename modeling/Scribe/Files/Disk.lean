import Scribe.Files.System

/-!
# Disks

A tree with what a system has on top of it: symbolic links, files that have several names,
directories that are closed, and places where the system refuses what is asked of it, be it for want
of a permission or of space or because a device is broken.

Paths are followed through links wherever they meet one, up to so many of them.  Only a directory
cannot be made where there is a link already.

A refusal comes last, after all that is wrong with the path itself, and changes nothing.  A device
is a file that can be read; where it keeps nothing of what it is given, no write to it is ever
complete, and it stands for a file whose writing is refused.
-/

namespace Scribe.Files

/-- What can be asked of a place. -/
inductive Access where
  | read
  | make
  | write (content : ByteArray)

/-- A tree with links, further names and refusals. -/
structure Disk where
  tree : Tree
  /-- The paths that links stand for, by where the links are. -/
  links : List (Location × String)
  /-- Where files are kept, by where they have further names. -/
  names : List (Location × Location)
  /-- Why no name is looked up in a directory, if it is closed. -/
  closed : Location → Option FileFault
  /-- Why something is refused at a place, which may depend on all that there is. -/
  refuses : Access → Tree → Location → Option FileFault

namespace Disk

/-- A disk that adds nothing to a tree. -/
def ofTree (t : Tree) : Disk := ⟨t, [], [], fun _ => none, fun _ _ _ => none⟩

/-- The disk with `n` at a location of its tree. -/
def put (d : Disk) (l : Location) (n : Node) : Disk := { d with tree := d.tree.put l n }

/-! ### Following links -/

/-- Where the file with a name is kept. -/
def keptAt (d : Disk) (l : Location) : Location := (d.names.lookup l).getD l

/-- The largest number of links on a path. -/
def maxLinks : Nat := 40

/-- Follows the pieces of a path from a directory up to the next link, and from there on with
`again`.  A link that the path ends in is followed only if `through` is set; otherwise it is in the
way. -/
def walk (d : Disk) (through : Bool)
    (again : Location → List (List Char) → Except FileFault Tree.Target) (l : Location) :
    List (List Char) → Except FileFault Tree.Target
  | [] => .ok (.directory l)
  | piece :: rest =>
    if piece = [] then d.walk through again l rest
    else
      match d.closed l with
      | some e => .error e
      | none =>
        if piece = ['.'] || piece = ['.', '.'] then
          match d.tree.enter l piece with
          | .error e => .error e
          | .ok l => d.walk through again l rest
        else
          let name := String.ofList piece
          let isLast := rest.all (· = [])
          match d.links.lookup (l ++ [name]) with
          | some target =>
            if isLast && !through then .error .alreadyExists
            else again (if isAbsolute target then [] else l) (pieces target ++ rest)
          | none =>
            if isLast then
              if Tree.maxName < name.utf8ByteSize then .error .nameTooLong
              else .ok (.entry (d.keptAt (l ++ [name])) (rest ≠ []))
            else
              match d.tree.enter l piece with
              | .error e => .error e
              | .ok l => d.walk through again l rest

/-- Follows the pieces of a path through at most so many links. -/
def follow (d : Disk) (through : Bool) :
    Nat → Location → List (List Char) → Except FileFault Tree.Target
  | 0 => d.walk through fun _ _ => .error .tooManyLinks
  | links + 1 => d.walk through (d.follow through links)

/-- What a path leads to. -/
def resolve (d : Disk) (through : Bool) (path : String) : Except FileFault Tree.Target :=
  match Tree.pathFault? path with
  | some e => .error e
  | none => d.follow through maxLinks (d.tree.base path) (pieces path)

/-! ### Operations -/

/-- The text of the file at a path. -/
def readText (d : Disk) (path : String) : Except FileFault String :=
  match d.resolve true path with
  | .error e => .error e
  | .ok (.directory _) => .error .isDirectory
  | .ok (.entry l slash) =>
    match d.tree.at? l with
    | none => .error .notFound
    | some .directory => .error .isDirectory
    | some (.file content) =>
      if slash then .error .notDirectory
      else
        match d.refuses .read d.tree l with
        | some e => .error e
        | none => Tree.textOf content

def isDirectory (d : Disk) (path : String) : Bool :=
  match d.resolve true path with
  | .error _ => false
  | .ok (.directory _) => true
  | .ok (.entry l _) => (d.tree.at? l).any Node.isDirectory

/-- Makes one directory. -/
def makeDirectory (d : Disk) (path : String) : Except FileFault Unit × Disk :=
  match d.resolve false path with
  | .error e => (.error e, d)
  | .ok (.directory _) => (.error .alreadyExists, d)
  | .ok (.entry l _) =>
    if (d.tree.at? l).isSome then (.error .alreadyExists, d)
    else
      match d.refuses .make d.tree l with
      | some e => (.error e, d)
      | none => (.ok (), d.put l .directory)

/-- Writes a file, in place of the one at the path if there is one.  A file that is not there yet is
made where its last link leads. -/
def write (d : Disk) (path : String) (content : ByteArray) : Except FileFault Unit × Disk :=
  match d.resolve true path with
  | .error e => (.error e, d)
  | .ok (.directory _) => (.error .isDirectory, d)
  | .ok (.entry l slash) =>
    if slash || (d.tree.at? l).any Node.isDirectory then (.error .isDirectory, d)
    else
      match d.refuses (.write content) d.tree l with
      | some e => (.error e, d)
      | none => (.ok (), d.put l (.file content))

end Disk

instance : FileSystem Disk where
  readText := Disk.readText
  isDirectory := Disk.isDirectory
  makeDirectory := Disk.makeDirectory
  write := Disk.write

end Scribe.Files
