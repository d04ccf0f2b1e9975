import Scribe.Text.Blank
import Scribe.Text.Case

/-!
# Identifiers from database names

A table or column name becomes an exported identifier by `upperCamel` and a package name by
`packageName`.  Both are total: a name that yields nothing gives the empty identifier, and the
package `model`.
-/

namespace Scribe.Text

/-! ### Exported identifiers -/

/-- Whether a character separates the words of a database name. -/
def separatesWords (c : Char) : Bool := c = '_' || isBlank c

/-- Whether a word goes on after a character.  Any other punctuation stays in the identifier and
the character after it is upper-cased again. -/
def continuesWord (c : Char) : Bool := isAlnum c || c = '\''

/-- The identifier for the rest of a name; `start` says that the next character starts a word. -/
def upperCamelFrom (start : Bool) : List Char → List Char
  | [] => []
  | c :: rest =>
    if separatesWords c then upperCamelFrom true rest
    else (if start then upper c else lower c) ++ upperCamelFrom (!continuesWord c) rest

/-- A database name as an exported identifier: separators go, the first character of each word is
upper-cased and the rest of it is lower-cased. -/
def upperCamel (name : List Char) : List Char := upperCamelFrom true name

@[simp] theorem upperCamel_nil : upperCamel [] = [] := rfl

/-! ### Package names -/

/-- The ASCII letters, digits and underscores of a name, in lower case. -/
def packageChars (name : List Char) : List Char :=
  (name.filter fun c => c.isAlphanum || c = '_').map Char.toLower

/-- A package name for a table.  It does not start with a digit and is not empty. -/
def packageName (name : List Char) : List Char :=
  match packageChars name with
  | [] => "model".toList
  | c :: rest => if c.isDigit then '_' :: c :: rest else c :: rest

end Scribe.Text
