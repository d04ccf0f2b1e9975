/-!
# Blanks, trimming and lines

A blank is a character with the Unicode property `White_Space`: twenty-five code points, of which
six are control characters, two are the line and paragraph separators, and the rest are spaces.
Everything in this library that trims or splits text at blanks uses this one class.

## Lines

`lines` cuts a text at its line feeds.  A carriage return directly before a line feed belongs to
the line end and not to the line, and a text that ends in a line feed has no further empty line
after it.  `unlines` is the way back for texts whose every line is ended.
-/

namespace Scribe.Text

/-! ### Blanks -/

/-- Whether a character is Unicode white space. -/
def isBlank (c : Char) : Bool :=
  c = ' ' || ('\t' ≤ c && c ≤ '\r') || c = '\u0085' || c = '\u00a0' || c = '\u1680' ||
    ('\u2000' ≤ c && c ≤ '\u200a') || c = '\u2028' || c = '\u2029' || c = '\u202f' ||
    c = '\u205f' || c = '\u3000'

@[simp] theorem isBlank_space : isBlank ' ' = true := rfl
@[simp] theorem isBlank_tab : isBlank '\t' = true := rfl
@[simp] theorem isBlank_newline : isBlank '\n' = true := rfl
@[simp] theorem isBlank_return : isBlank '\r' = true := rfl

/-! ### Trimming -/

/-- A text without the blanks that it begins with. -/
def trimStart (s : List Char) : List Char := s.dropWhile isBlank

/-- A text without the blanks that it ends with. -/
def trimEnd (s : List Char) : List Char := (s.reverse.dropWhile isBlank).reverse

/-- A text without the blanks at both its ends. -/
def trim (s : List Char) : List Char := trimEnd (trimStart s)

@[simp] theorem trimStart_nil : trimStart [] = [] := rfl
@[simp] theorem trimEnd_nil : trimEnd [] = [] := rfl
@[simp] theorem trim_nil : trim [] = [] := rfl

/-! ### Lines -/

/-- One carriage return less at the end, if there is one. -/
def dropReturn (s : List Char) : List Char :=
  if s.getLast? = some '\r' then s.dropLast else s

@[simp] theorem dropReturn_nil : dropReturn [] = [] := rfl

/-- The lines of a text, without their ends. -/
def lines (s : List Char) : List (List Char) :=
  go [] s
where
  /-- `line` is the line read so far, last character first. -/
  go (line : List Char) : List Char → List (List Char)
    | [] => if line = [] then [] else [line.reverse]
    | '\n' :: rest => dropReturn line.reverse :: go [] rest
    | c :: rest => go (c :: line) rest

@[simp] theorem lines_nil : lines [] = [] := rfl

/-- Every line with its end. -/
def unlines : List (List Char) → List Char
  | [] => []
  | line :: rest => line ++ '\n' :: unlines rest

@[simp] theorem unlines_nil : unlines [] = [] := rfl

@[simp] theorem unlines_cons (line : List Char) (rest : List (List Char)) :
    unlines (line :: rest) = line ++ '\n' :: unlines rest := rfl

@[simp] theorem unlines_append (a b : List (List Char)) :
    unlines (a ++ b) = unlines a ++ unlines b := by
  induction a with
  | nil => rfl
  | cons line rest ih => simp [ih]

/-- The number of line feeds in a text. -/
def newlines (s : List Char) : Nat := s.count '\n'

@[simp] theorem newlines_nil : newlines [] = 0 := rfl

@[simp] theorem newlines_append (a b : List Char) :
    newlines (a ++ b) = newlines a + newlines b := by
  simp [newlines]

end Scribe.Text
