import Scribe.Text.Case

/-!
# The words of an identifier, and its case styles

`words` finds the words of a text in any style: a character that is neither letter nor numeral
separates words, a capital after a small letter starts one, and the last capital of a run of
capitals that a small letter follows starts one (`XMLHttpRequest` is `XML`, `Http`, `Request`).
The styles join the words again.  Numerals belong to the word that they stand in.
-/

namespace Scribe.Text

/-! ### Finding words -/

/-- The case of the last cased character of the current word. -/
inductive Hump where
  | none
  | small
  | capital
  deriving Repr, DecidableEq

/-- The case in force after a character. -/
def Hump.after (hump : Hump) (c : Char) : Hump :=
  if isLower c then .small else if isUpper c then .capital else hump

/-- The words of a text of letters and numerals; `word` is the current word, last character
first. -/
def humps (hump : Hump) (word : List Char) : List Char → List (List Char)
  | [] => if word = [] then [] else [word.reverse]
  | [c] => [(c :: word).reverse]
  | c :: next :: rest =>
    if hump.after c = .small && isUpper next then
      (c :: word).reverse :: humps .none [] (next :: rest)
    else if hump = .capital && isUpper c && isLower next then
      word.reverse :: humps .none [c] (next :: rest)
    else
      humps (hump.after c) (c :: word) (next :: rest)

/-- The words of a text; `piece` holds the letters and numerals since the last separator, last
first. -/
def wordsFrom (piece : List Char) : List Char → List (List Char)
  | [] => humps .none [] piece.reverse
  | c :: rest =>
    if isAlnum c then wordsFrom (c :: piece) rest
    else humps .none [] piece.reverse ++ wordsFrom [] rest

/-- The words of a text. -/
def words (s : List Char) : List (List Char) := wordsFrom [] s

/-! ### Case styles -/

/-- A word in lower case.  A capital sigma at its end becomes a final sigma. -/
def lowerWord : List Char → List Char
  | [] => []
  | [c] => if c = 'Σ' then ['ς'] else lower c
  | c :: rest => lower c ++ lowerWord rest

/-- A word with its first character in upper case and the rest in lower case. -/
def capitalWord : List Char → List Char
  | [] => []
  | c :: rest => upper c ++ lowerWord rest

/-- Lower-case words joined by underscores. -/
def snakeCase (s : List Char) : List Char := ['_'].intercalate ((words s).map lowerWord)

/-- Lower-case words joined by hyphens. -/
def kebabCase (s : List Char) : List Char := ['-'].intercalate ((words s).map lowerWord)

/-- Capitalised words, run together. -/
def pascalCase (s : List Char) : List Char := (words s).flatMap capitalWord

/-- Capitalised words, run together, the first in lower case. -/
def camelCase (s : List Char) : List Char :=
  match words s with
  | [] => []
  | first :: rest => lowerWord first ++ rest.flatMap capitalWord

end Scribe.Text
