import Scribe.Files.Tree

/-!
# Path patterns

Paths with stars, each of which stands for any characters of a name.  What comes before the first
star is the directory to search; the rest is a pattern for the way from there to a file.  A pattern
of a single name fits at any depth, and a longer one name by name.
-/

namespace Scribe.Files

/-! ### Names -/

/-- Whether a list or what is left of it after some of its first elements satisfies `p`. -/
def anyRest {α : Type} (p : List α → Bool) : List α → Bool
  | [] => p []
  | a :: rest => p (a :: rest) || anyRest p rest

/-- Whether a name fits a pattern. -/
def fitsName : List Char → List Char → Bool
  | [], name => name.isEmpty
  | '*' :: rest, name => anyRest (fitsName rest) name
  | c :: rest, name =>
    match name with
    | [] => false
    | d :: name => c = d && fitsName rest name

/-! ### Patterns -/

/-- A directory to search, and patterns for the names on the way from there. -/
structure Pattern where
  base : String
  names : List (List Char)

namespace Pattern

/-- The pattern that a path is. -/
def ofPath (path : String) : Pattern where
  base := String.ofList (path.toList.takeWhile (· ≠ '*'))
  names := (piecesFrom [] (path.toList.dropWhile (· ≠ '*'))).filter (· ≠ [])

/-- Whether the names on a way fit. -/
def fits (p : Pattern) (way : List String) : Bool :=
  match p.names with
  | [name] => way.getLast?.any fun last => fitsName name last.toList
  | names => names.length = way.length && (names.zip way).all fun (n, w) => fitsName n w.toList

/-- Where the search starts; an empty path is the working directory.  Names with braces are not
searched. -/
def start? (p : Pattern) (t : Tree) : Option Location :=
  if p.base = "" then some t.working
  else
    match t.resolve p.base with
    | .error _ => none
    | .ok (.directory l) | .ok (.entry l _) =>
      if l.any fun name => name.toList.any fun c => c = '\x7b' || c = '\x7d' then none else some l

/-- The ways to the files that fit, and their contents. -/
def files (p : Pattern) (t : Tree) : List (List String × ByteArray) :=
  match p.start? t with
  | none => []
  | some dir => (t.filesBelow dir).filter fun (way, _) => p.fits way

end Pattern

end Scribe.Files
