import Scribe.Source.Comments
import Scribe.Source.Lexer

/-!
# The comments of constants

What a source file says about its constants: its package clause, and a comment for each constant
that has one.  Only constants declared at the top level count, alone (`const A = 1`) or in a group
(`const ( … )`).

## Which comment belongs to a constant

* A comment that follows the entry on the line where the entry ends.
* Failing that, in a group, the block of comments directly above the entry: lines that hold
  nothing but comments, one after the other without an empty line.
* A constant declared alone has only the first; a block above it documents the declaration.

An entry that declares several names, or the blank name, has no comment.

## How the text of a comment is read

A line comment counts without its mark and without a carriage return at its end, a block comment
as it stands.  The comments of one block are joined without a separator, after the first of them
has been trimmed.

## Shape of the reader

A declaration takes a beginning of the tokens and leaves the rest, which is shorter
(`takeEntry_append`), so the reader makes progress whatever the tokens are.
-/

namespace Scribe.Source

open Scribe.Text

/-! ### Entries -/

/-- Whether a line end after a token ends a statement. -/
def Token.endsStatement (t : Token) : Bool :=
  match t.kind with
  | .ident | .number | .literal | .rawString | .punct ')' | .punct ']' | .punct '}' => true
  | _ => false

/-- Whether an entry ends before a token, `last` being its last significant token so far. -/
def Token.endsEntry (t : Token) (last : Option Token) : Bool :=
  (t.isNewline && last.any Token.endsStatement) || t.isPunct ';' || t.isPunct ')'

/-- The tokens of an entry and those from its end on.  Only an entry outside a group ends with
the source. -/
def takeEntry (inGroup : Bool) (depth : Nat) (last : Option Token) :
    List Token → Option (List Token × List Token)
  | [] => if inGroup then none else some ([], [])
  | t :: ts =>
    if depth = 0 && t.endsEntry last then some ([], t :: ts)
    else
      (takeEntry inGroup (t.depthAfter depth) (if t.isSignificant then some t else last) ts).map
        fun (taken, rest) => (t :: taken, rest)

theorem takeEntry_append {inGroup : Bool} {depth : Nat} {last : Option Token}
    {ts taken rest : List Token} (h : takeEntry inGroup depth last ts = some (taken, rest)) :
    taken ++ rest = ts := by
  induction ts generalizing depth last taken rest with
  | nil =>
    cases inGroup
    · obtain ⟨rfl, rfl⟩ := Prod.mk.inj (Option.some.inj h)
      rfl
    · simp [takeEntry] at h
  | cons t ts ih =>
    unfold takeEntry at h
    split at h
    · obtain ⟨rfl, rfl⟩ := Prod.mk.inj (Option.some.inj h)
      rfl
    · obtain ⟨⟨a, b⟩, hab, heq⟩ := Option.map_eq_some_iff.1 h
      obtain ⟨rfl, rfl⟩ := Prod.mk.inj heq
      simp [ih hab]

theorem takeEntry_length {inGroup : Bool} {depth : Nat} {last : Option Token}
    {ts taken rest : List Token} (h : takeEntry inGroup depth last ts = some (taken, rest)) :
    rest.length ≤ ts.length := by
  have := congrArg List.length (takeEntry_append h)
  simp at this
  omega

/-- The tokens of an entry up to its last significant one. -/
def entryBody (taken : List Token) : List Token :=
  (taken.reverse.dropWhile (!·.isSignificant)).reverse

/-- The comments and line ends after the last significant token of an entry. -/
def entryTrail (taken : List Token) : List Token :=
  (taken.reverse.takeWhile (!·.isSignificant)).reverse

theorem entryBody_append_entryTrail (taken : List Token) :
    entryBody taken ++ entryTrail taken = taken := by
  unfold entryBody entryTrail
  rw [← List.reverse_append, List.takeWhile_append_dropWhile, List.reverse_reverse]

/-- The name that an entry declares, if it declares exactly one and not the blank one. -/
def declaredName (body : List Token) : Option (List Char) :=
  match body with
  | [] => none
  | t :: more =>
    if t.kind = .ident && t.text ≠ ['_'] &&
        !(more.takeWhile (!·.isPunct '=')).any (·.isPunct ',') then
      some t.text
    else none

/-! ### Comments near an entry -/

/-- The comments that follow on line `line`, before the next line end. -/
def trailingComments (line : Nat) (after : List Token) : List Token :=
  (after.takeWhile (!·.isNewline)).filter fun t => t.isComment && t.line = line

/-- The comments of the lines that end at the line ends met going back, nearest first: `before`
starts with a line end and holds the tokens before it, nearest first. -/
def commentLinesBack : List Token → List Token
  | [] => []
  | _ :: before =>
    let onLine := before.takeWhile Token.isComment
    if onLine = [] then []
    else
      match _h : before.dropWhile Token.isComment with
      | [] => onLine
      | t :: rest => if t.isNewline then onLine ++ commentLinesBack (t :: rest) else []
termination_by before => before.length
decreasing_by
  have h1 := (List.dropWhile_sublist Token.isComment (l := before)).length_le
  rw [_h] at h1
  simp at h1 ⊢
  omega

/-- The block of comments directly above an entry, in the order of the source; `before` holds the
tokens before the entry, nearest first. -/
def docComments (before : List Token) : List Token :=
  match before with
  | t :: _ => if t.isNewline then (commentLinesBack before).reverse else []
  | [] => []

/-! ### The text of comments -/

/-- A comment without its mark.  A block comment is left as it stands. -/
def commentBody (t : Token) : List Char :=
  if t.kind = .lineComment then dropReturn (t.text.drop 2) else t.text

/-- The text of a block of comments. -/
def commentText : List Token → List Char
  | [] => []
  | first :: more => trim (commentBody first) ++ more.flatMap commentBody

/-! ### Reading declarations -/

/-- A constant and the comments that document it. -/
structure Attribution where
  name : List Char
  comments : List Token
  deriving Repr, DecidableEq

/-- What is known of the constant of an entry; `docs` is the block above it, if it may have
one. -/
def attribution (docs taken rest : List Token) : Option Attribution := do
  let body := entryBody taken
  let name ← declaredName body
  let last ← body.getLast?
  let trailing := trailingComments last.endLine (entryTrail taken ++ rest)
  let comments := if trailing = [] then docs else trailing
  if comments = [] then none else some ⟨name, comments⟩

/-- A group of constants whose closing bracket is missing, with the line of its opening one. -/
structure UnclosedGroup where
  line : Nat
  deriving Repr, DecidableEq

/-- The entries of a group that opens on line `openLine`, and the tokens after its closing
bracket; `before` holds the tokens of the group already read, nearest first. -/
def readGroup (openLine : Nat) (before : List Token) :
    List Token → Except UnclosedGroup (List Attribution × List Token)
  | [] => .error ⟨openLine⟩
  | t :: ts =>
    if t.isPunct ')' then .ok ([], ts)
    else if t.isPunct ';' || !t.isSignificant then readGroup openLine (t :: before) ts
    else
      match _h : takeEntry true (t.depthAfter 0) (some t) ts with
      | none => .error ⟨openLine⟩
      | some (more, rest) =>
        (readGroup openLine ((t :: more).reverse ++ before) rest).map fun (found, left) =>
          ((attribution (docComments before) (t :: more) rest).toList ++ found, left)
termination_by ts => ts.length
decreasing_by
  · simp
  · have := takeEntry_length _h
    simp
    omega

theorem readGroup_length {openLine : Nat} {before ts left : List Token}
    {found : List Attribution} (h : readGroup openLine before ts = .ok (found, left)) :
    left.length ≤ ts.length := by
  fun_induction readGroup openLine before ts generalizing found left with
  | case1 => simp at h
  | case2 =>
    simp only [Except.ok.injEq, Prod.mk.injEq] at h
    simp [h.2]
  | case3 before t ts _ _ ih =>
    have := ih h
    simp
    omega
  | case4 => simp at h
  | case5 before t ts _ _ more rest hrest ih =>
    cases hr : readGroup openLine ((t :: more).reverse ++ before) rest with
    | error e => rw [hr] at h; simp [Except.map] at h
    | ok p =>
      simp only [hr, Except.map, Except.ok.injEq, Prod.mk.injEq] at h
      have h1 := ih hr
      have h2 := takeEntry_length hrest
      rw [h.2] at h1
      simp
      omega

/-- The constants of the declaration whose keyword has just been read, and the tokens after it. -/
def readDeclaration (ts : List Token) :
    Except UnclosedGroup (List Attribution × List Token) :=
  match ts.dropWhile (!·.isSignificant) with
  | [] => .ok ([], [])
  | t :: more =>
    if t.isPunct '(' then readGroup t.line [t] more
    else
      match takeEntry false 0 none (t :: more) with
      | none => .ok ([], [])
      | some (taken, rest) => .ok ((attribution [] taken rest).toList, rest)

theorem readDeclaration_length {ts left : List Token} {found : List Attribution}
    (h : readDeclaration ts = .ok (found, left)) : left.length ≤ ts.length := by
  have hdrop := (List.dropWhile_sublist (fun t : Token => !t.isSignificant) (l := ts)).length_le
  unfold readDeclaration at h
  split at h
  · simp only [Except.ok.injEq, Prod.mk.injEq] at h
    simp [← h.2]
  · rename_i t more heq
    rw [heq] at hdrop
    split at h
    · have := readGroup_length h
      simp at hdrop
      omega
    · split at h
      · simp only [Except.ok.injEq, Prod.mk.injEq] at h
        simp [← h.2]
      · rename_i taken rest htake
        simp only [Except.ok.injEq, Prod.mk.injEq] at h
        have := takeEntry_length htake
        rw [h.2] at this
        omega

/-! ### Reading a file -/

/-- A package clause and the documented constants, in the order of the source. -/
structure Reading where
  package : Option (List Char)
  attributions : List Attribution
  deriving Repr, DecidableEq

/-- The name in a package clause whose keyword has just been read. -/
def packageClause (ts : List Token) : Option (List Char) :=
  match ts.dropWhile (!·.isSignificant) with
  | t :: _ => if t.kind = .ident then some t.text else none
  | [] => none

/-- Reads on at a nesting depth.  The first package clause counts. -/
def readFrom (depth : Nat) : List Token → Except UnclosedGroup Reading
  | [] => .ok ⟨none, []⟩
  | t :: ts =>
    if depth = 0 && t.isWord "const".toList then
      match _h : readDeclaration ts with
      | .error e => .error e
      | .ok (found, rest) =>
        (readFrom 0 rest).map fun r => { r with attributions := found ++ r.attributions }
    else
      let package := if depth = 0 && t.isWord "package".toList then packageClause ts else none
      (readFrom (t.depthAfter depth) ts).map fun r => { r with package := package <|> r.package }
termination_by ts => ts.length
decreasing_by
  · have := readDeclaration_length _h
    simp
    omega
  · simp

/-- What a file says about its constants. -/
structure ConstantFile where
  package : Option String
  comments : Comments
  deriving DecidableEq

/-- The comments of a reading by name.  A later constant of the same name replaces an earlier
one. -/
def Reading.toConstantFile (r : Reading) : ConstantFile where
  package := r.package.map String.ofList
  comments := .ofList (r.attributions.map fun a =>
    (String.ofList a.name, String.ofList (commentText a.comments)))

/-- Why the constants of a source cannot be read. -/
inductive ReadError where
  | lexical (e : LexError)
  | unclosedGroup (e : UnclosedGroup)
  /-- Nothing says what the package is. -/
  | noPackage
  deriving Repr, DecidableEq

def ReadError.line : ReadError → Nat
  | .lexical e => e.line
  | .unclosedGroup e => e.line
  | .noPackage => 1

def ReadError.message : ReadError → String
  | .lexical e => e.message
  | .unclosedGroup _ => "const group opened here is never closed"
  | .noPackage => "no package clause and no fallback package (GOPACKAGE) given"

/-- The constants of a source and their comments. -/
def readConstants (source : List Char) : Except ReadError ConstantFile :=
  match tokenize source with
  | .error e => .error (.lexical e)
  | .ok ts =>
    match readFrom 0 ts with
    | .error e => .error (.unclosedGroup e)
    | .ok r => .ok r.toConstantFile

/-- The package of a file: its own, or else a fallback that is not blank. -/
def ConstantFile.resolvePackage (file : ConstantFile) (fallback : Option String) :
    Except ReadError String :=
  match file.package <|>
      (fallback.map fun p => String.ofList (trim p.toList)).filter (· ≠ "") with
  | some package => .ok package
  | none => .error .noPackage

end Scribe.Source
