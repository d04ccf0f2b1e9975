import Mathlib
import Scribe.Source.Constants
import Scribe.Source.Layout

/-!
# Files of constants

The files that declare constants and nothing else: a package clause, and constants declared alone or
in groups, with comments above and beside them.  `File.print` writes such a file and `File.comments`
says which comment each of its constants has.  Neither looks at how a file is read.

What stands on a line carries the proofs that it can stand there, so that every `File` can be
written.
-/

namespace Scribe.Source.Printed

open Scribe.Text

/-! ## Parts of a line -/

/-- A text that is one identifier. -/
structure Word where
  text : List Char
  single : tokenize text = .ok [⟨.ident, text, 1, 1⟩]

/-- The keyword of a package clause. -/
def packageWord : Word := ⟨"package".toList, by cbv⟩

/-- The keyword of a declaration. -/
def constWord : Word := ⟨"const".toList, by cbv⟩

/-- Whether every semicolon stands inside brackets, where `depth` brackets are open already. -/
def semicolonsNest (depth : Nat) : List Token → Bool
  | [] => true
  | t :: ts => (decide (0 < depth) || !t.isPunct ';') && semicolonsNest (t.depthAfter depth) ts

/-- What may follow the name of a constant on its line: more names, a type, values. -/
structure Tail where
  text : List Char
  tokens : List Token
  cut : tokenize text = .ok tokens
  on_line : '\n' ∉ text
  no_comment : ∀ t ∈ tokens, t.isComment = false
  nests : checkBrackets [] tokens = .ok ()
  nests_semicolons : semicolonsNest 0 tokens
  /-- The end of the line ends the statement. -/
  ends : ∀ t ∈ tokens.getLast?, t.endsStatement

/-- The text of a line comment, after its mark. -/
structure Remark where
  text : List Char
  no_newline : '\n' ∉ text
  no_return : '\r' ∉ text

/-- Blanks on a line. -/
structure Blanks where
  text : List Char
  blank : ∀ c ∈ text, isGap c

/-! ## Lines -/

/-- A line that may stand above a constant. -/
inductive Above where
  | empty (blanks : Blanks)
  | comment (indent : Blanks) (remark : Remark)

/-- What a line says about a constant: its name and what follows, and a comment beside it. -/
structure Entry where
  name : Word
  gap : Blanks
  tail : Tail
  parted : gap.text = [] → tail.text = []
  beside : Option Remark

/-- A constant in a group. -/
structure Member where
  above : List Above
  indent : Blanks
  entry : Entry

/-- A declaration of one constant, or of a group of them. -/
inductive Declaration where
  | alone (above : List Above) (entry : Entry)
  /-- The lines of `below` stand before the closing bracket. -/
  | group (above : List Above) (members : List Member) (below : List Above)

structure File where
  package : Word
  package_ne : package.text ≠ constWord.text
  declarations : List Declaration

/-! ## Writing -/

def Remark.mark (r : Remark) : List Char := '/' :: '/' :: r.text

def Above.print : Above → List Char
  | empty blanks => blanks.text ++ ['\n']
  | comment indent remark => indent.text ++ remark.mark ++ ['\n']

/-- The end of a line, with the comment before it. -/
def printBeside : Option Remark → List Char
  | none => ['\n']
  | some remark => ' ' :: remark.mark ++ ['\n']

def Entry.print (e : Entry) : List Char :=
  e.name.text ++ e.gap.text ++ e.tail.text ++ printBeside e.beside

def Member.print (m : Member) : List Char :=
  m.above.flatMap Above.print ++ m.indent.text ++ m.entry.print

/-- The lines above a declaration. -/
def Declaration.above : Declaration → List Above
  | alone above _ => above
  | group above _ _ => above

/-- A declaration without its keyword. -/
def Declaration.printBody : Declaration → List Char
  | alone _ entry => entry.print
  | group _ members below =>
    '(' :: '\n' :: members.flatMap Member.print ++ below.flatMap Above.print ++ [')', '\n']

def Declaration.print (d : Declaration) : List Char :=
  d.above.flatMap Above.print ++ constWord.text ++ ' ' :: d.printBody

def File.print (f : File) : List Char :=
  packageWord.text ++ ' ' :: f.package.text ++ '\n' :: f.declarations.flatMap Declaration.print

/-! ## The comments of the constants -/

/-- Whether a comma stands before the first equals sign: the entry declares several names. -/
def declaresMore : List Token → Bool
  | [] => false
  | t :: ts => !t.isPunct '=' && (t.isPunct ',' || declaresMore ts)

/-- The block of comments below a line, from the one above it.  An empty line ends a block. -/
def carry (remarks : List Remark) : Above → List Remark
  | .empty _ => []
  | .comment _ remark => remarks ++ [remark]

/-- The comments directly above a constant. -/
def block (above : List Above) : List Remark := above.foldl carry []

/-- The comment of a constant with the block `remarks` above it.  The comment beside it goes
first. -/
def Entry.comment (e : Entry) (remarks : List Remark) : Option (List Char) :=
  if e.name.text = ['_'] || declaresMore e.tail.tokens then none
  else
    match e.beside, remarks with
    | some remark, _ => some (trim remark.text)
    | none, first :: more => some (trim first.text ++ more.flatMap Remark.text)
    | none, [] => none

/-- The name of a constant with its comment, if it has one. -/
def Entry.documented (e : Entry) (remarks : List Remark) : List (String × String) :=
  ((e.comment remarks).map fun text =>
    (String.ofList e.name.text, String.ofList text)).toList

/-- A constant declared alone has no block above it: that one belongs to the declaration. -/
def Declaration.documented : Declaration → List (String × String)
  | alone _ entry => entry.documented []
  | group _ members _ => members.flatMap fun m => m.entry.documented (block m.above)

/-- The comments of a file by name, where a later one replaces an earlier one. -/
def File.comments (f : File) : Comments :=
  .ofList (f.declarations.flatMap Declaration.documented)

end Scribe.Source.Printed
