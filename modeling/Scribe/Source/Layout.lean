import Scribe.Source.Lexer

/-!
# Laying out source

Checks that the brackets of a source nest, and indents each line by one tab for each bracket that
is open before it.  Columns are not aligned.

## The rule of a line

Whether and how a line is moved depends on the tokens alone:

* A line that a token begun on an earlier line reaches is kept as it stands: it is the inside, or
  the end, of a raw string or a block comment.
* Any other line is trimmed and indented.  Its depth is the number of brackets open before its
  first token, less the closing brackets that it begins with.
* If a token that goes on past the line starts on it, the blanks at its end belong to the token
  and stay.
* Empty lines at the start and at the end go, and of several in a row one is left.

The rule is stated on line numbers (`LineRule.of`), so that the layout of one line can be read off
without following the whole pass.
-/

namespace Scribe.Source

open Scribe.Text

/-! ### Brackets -/

/-- How the brackets of a source fail to nest. -/
inductive BracketError where
  /-- A closing bracket meets a different opening one. -/
  | mismatch (line : Nat) (closing : Bracket) (opening : Bracket) (openedAt : Nat)
  /-- A closing bracket meets no opening one. -/
  | unexpected (line : Nat) (closing : Bracket)
  /-- An opening bracket is left at the end. -/
  | unclosed (opening : Bracket) (openedAt : Nat)
  deriving Repr, DecidableEq

def BracketError.message : BracketError → String
  | .mismatch line closing opening openedAt =>
    "line " ++ toString line ++ ": '" ++ closing.closing.toString ++ "' does not match '" ++
      opening.opening.toString ++ "' opened at line " ++ toString openedAt
  | .unexpected line closing =>
    "line " ++ toString line ++ ": unexpected '" ++ closing.closing.toString ++ "'"
  | .unclosed opening openedAt =>
    "'" ++ opening.opening.toString ++ "' opened at line " ++ toString openedAt ++
      " is never closed"

/-- Checks that brackets nest; `stack` holds the brackets that are open with their lines,
innermost first. -/
def checkBrackets (stack : List (Bracket × Nat)) : List Token → Except BracketError Unit
  | [] =>
    match stack with
    | [] => .ok ()
    | (b, line) :: _ => .error (.unclosed b line)
  | t :: ts =>
    match t.opens?, t.closes? with
    | some b, _ => checkBrackets ((b, t.line) :: stack) ts
    | none, some b =>
      match stack with
      | [] => .error (.unexpected t.line b)
      | (o, line) :: stack =>
        if o = b then checkBrackets stack ts else .error (.mismatch t.line b o line)
    | none, none => checkBrackets stack ts

/-! ### The rule of a line -/

/-- How a line is laid out. -/
inductive LineRule where
  /-- The line stays as it is. -/
  | keep
  /-- The line is trimmed, at its end too unless `keepTail`, and indented by tabs. -/
  | indent (tabs : Nat) (keepTail : Bool)
  deriving Repr, DecidableEq

/-- The number of brackets open after some tokens, in a source whose brackets nest. -/
def openAfter (ts : List Token) : Nat := ts.foldl (fun depth t => t.depthAfter depth) 0

/-- The tokens of a line, line ends apart. -/
def startingOn (line : Nat) (ts : List Token) : List Token :=
  ts.filter fun t => t.line = line && !t.isNewline

/-- The rule of line `line` in a source with tokens `ts`. -/
def LineRule.of (ts : List Token) (line : Nat) : LineRule :=
  if ts.any fun t => t.line < line && line ≤ t.endLine then .keep
  else
    let depth := openAfter (ts.takeWhile fun t => t.line < line)
    let starting := startingOn line ts
    .indent (depth - (starting.takeWhile Token.isClose).length) (starting.any Token.spansLines)

/-- A line laid out by its rule. -/
def LineRule.apply (rule : LineRule) (line : List Char) : List Char :=
  match rule with
  | .keep => line
  | .indent tabs keepTail =>
    let text := if keepTail then trimStart line else trim line
    if text = [] then [] else List.replicate tabs '\t' ++ text

/-! ### Empty lines -/

/-- Leaves out every empty line that is to be moved and that follows an empty line; `afterEmpty`
says whether the line before is empty, or there is none. -/
def dropRepeatedEmpty (afterEmpty : Bool) : List (LineRule × List Char) → List (List Char)
  | [] => []
  | (rule, line) :: rest =>
    if line = [] && afterEmpty && rule ≠ .keep then dropRepeatedEmpty true rest
    else line :: dropRepeatedEmpty (line = []) rest

/-- Leaves out the empty lines at the end. -/
def dropTrailingEmpty (ls : List (List Char)) : List (List Char) :=
  (ls.reverse.dropWhile (· = [])).reverse

/-! ### Layout -/

/-- The lines of a source with their rules applied; `number` is the number of the first. -/
def layLines (ts : List Token) (number : Nat) : List (List Char) → List (LineRule × List Char)
  | [] => []
  | line :: rest =>
    let rule := LineRule.of ts number
    (rule, rule.apply line) :: layLines ts (number + 1) rest

/-- A source with tokens `ts`, laid out.  A source without any text becomes one empty line. -/
def layOut (ts : List Token) (source : List Char) : List Char :=
  match dropTrailingEmpty (dropRepeatedEmpty true (layLines ts 1 (lines source))) with
  | [] => ['\n']
  | laid => unlines laid

/-- Why a source cannot be laid out. -/
inductive LayoutError where
  | lexical (e : LexError)
  | brackets (e : BracketError)
  deriving Repr, DecidableEq

def LayoutError.message : LayoutError → String
  | .lexical e => "Parse error at line " ++ toString e.line ++ ": " ++ e.message
  | .brackets e => e.message

/-- A source laid out, if it consists of tokens and its brackets nest. -/
def layout (source : List Char) : Except LayoutError (List Char) :=
  match tokenize source with
  | .error e => .error (.lexical e)
  | .ok ts =>
    match checkBrackets [] ts with
    | .error e => .error (.brackets e)
    | .ok () => .ok (layOut ts source)

end Scribe.Source
