/-!
# Paths as texts

Paths stay the texts that users write: nothing is normalised when one is joined or shown.  Only
`parent?` looks at the components, and in it a repeated slash and a dot that is not the first
component count for nothing.
-/

namespace Scribe.Files

/-! ### Pieces -/

/-- What stands between the slashes of a path, empty pieces included; `piece` is the current
piece, last character first. -/
def piecesFrom (piece : List Char) : List Char → List (List Char)
  | [] => [piece.reverse]
  | c :: rest =>
    if c = '/' then piece.reverse :: piecesFrom [] rest else piecesFrom (c :: piece) rest

/-- What stands between the slashes of a path. -/
def pieces (path : String) : List (List Char) := piecesFrom [] path.toList

def isAbsolute (path : String) : Bool := path.toList.head? = some '/'

/-! ### Joining -/

/-- The path of `name` within `dir`.  An absolute name replaces the directory. -/
def join (dir name : String) : String :=
  if isAbsolute name || dir = "" then name
  else if dir.toList.getLast? = some '/' then dir ++ name
  else dir ++ "/" ++ name

/-! ### Parents -/

/-- A path, last character first, without the slashes and lone dots at its end.  A slash that
starts the path is kept, and so is a dot that does. -/
def dropIdle : List Char → List Char
  | '/' :: rest => if rest = [] then ['/'] else dropIdle rest
  | '.' :: '/' :: rest => dropIdle ('/' :: rest)
  | path => path

/-- The path of the directory that a path lies in, empty for a single relative component; nothing
for a path without components. -/
def parent? (path : String) : Option String :=
  let back := dropIdle path.toList.reverse
  if back = [] || back = ['/'] then none
  else some (String.ofList (dropIdle (back.dropWhile (· ≠ '/'))).reverse)

/-- The paths of the directories above a path, nearest first, as long as `steps` lasts. -/
def ancestors (path : String) : Nat → List String
  | 0 => []
  | steps + 1 =>
    match parent? path with
    | none => []
    | some p => p :: ancestors p steps

end Scribe.Files
