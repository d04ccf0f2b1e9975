import Scribe.Text.Blank

/-!
# Tokens of Go source

The layer of Go that reading constant comments and laying out lines need: identifiers (keywords
included), numbers, the three forms of literal, the two forms of comment, line ends, and single
characters of punctuation.  Operators stay apart, since nothing here looks at them.

A token knows its text and the lines that it starts and ends on.  Its text determines how many
lines it spans, except that a line end belongs to the line that it ends.
-/

namespace Scribe.Source

/-- What a token is. -/
inductive TokenKind where
  | ident
  | number
  /-- A string or rune literal on one line. -/
  | literal
  /-- A string literal between backquotes, which may span lines. -/
  | rawString
  | lineComment
  /-- A comment with an end mark, which may span lines. -/
  | blockComment
  | newline
  | punct (c : Char)
  deriving Repr, DecidableEq

/-- A piece of source with its place. -/
structure Token where
  kind : TokenKind
  text : List Char
  /-- The line of the first character, counted from one. -/
  line : Nat
  /-- The line of the last character. -/
  endLine : Nat
  deriving Repr, DecidableEq

namespace Token

/-! ### Kinds -/

def isComment (t : Token) : Bool := t.kind = .lineComment || t.kind = .blockComment

def isNewline (t : Token) : Bool := t.kind = .newline

/-- Neither a comment nor a line end. -/
def isSignificant (t : Token) : Bool := !t.isComment && !t.isNewline

/-- The identifier or keyword `word`. -/
def isWord (t : Token) (word : List Char) : Bool := t.kind = .ident && t.text = word

/-- The punctuation character `c`. -/
def isPunct (t : Token) (c : Char) : Bool := t.kind = .punct c

/-- Whether the token goes on after the line that it starts on. -/
def spansLines (t : Token) : Bool := t.line < t.endLine

end Token

/-! ### Brackets -/

/-- The three kinds of bracket. -/
inductive Bracket where
  | round
  | square
  | curly
  deriving Repr, DecidableEq

namespace Bracket

def opening : Bracket → Char
  | round => '('
  | square => '['
  | curly => '{'

def closing : Bracket → Char
  | round => ')'
  | square => ']'
  | curly => '}'

end Bracket

namespace Token

/-- The bracket that a token opens. -/
def opens? (t : Token) : Option Bracket :=
  match t.kind with
  | .punct '(' => some .round
  | .punct '[' => some .square
  | .punct '{' => some .curly
  | _ => none

/-- The bracket that a token closes. -/
def closes? (t : Token) : Option Bracket :=
  match t.kind with
  | .punct ')' => some .round
  | .punct ']' => some .square
  | .punct '}' => some .curly
  | _ => none

def isOpen (t : Token) : Bool := t.opens?.isSome

def isClose (t : Token) : Bool := t.closes?.isSome

/-- The nesting depth after a token.  A closing bracket with nothing to close leaves it at
zero. -/
def depthAfter (t : Token) (depth : Nat) : Nat :=
  if t.isOpen then depth + 1 else if t.isClose then depth - 1 else depth

end Token

end Scribe.Source
