/-!
# Escapes

How a text that comes from a comment or from a catalog is written into a generated file, so that
it can neither end the construct that holds it nor start another.

* `flatten` keeps a text on one line.
* `tableCell` is for a cell of a Markdown table, where a bar would end the cell.
* `tagValue` is for a value in a struct tag.  The tag stands between backquotes, its quoted part
  is unquoted once by the reader of the tag, and the settings in it are separated by semicolons;
  so a backquote is replaced, a backslash and a quote are escaped, and a semicolon is preceded by
  a backslash that is escaped itself.
* `stringLiteral` is for the inside of a quoted string literal.

Each works character by character (`flatMap`), so each distributes over concatenation.
-/

namespace Scribe.Text

/-! ### One line -/

/-- A text without its line feeds and carriage returns. -/
def flatten (s : List Char) : List Char := s.filter fun c => c ≠ '\n' && c ≠ '\r'

@[simp] theorem flatten_nil : flatten [] = [] := rfl

@[simp] theorem flatten_append (a b : List Char) : flatten (a ++ b) = flatten a ++ flatten b := by
  simp [flatten]

/-- A flattened text is on one line. -/
theorem newline_not_mem_flatten (s : List Char) : '\n' ∉ flatten s ∧ '\r' ∉ flatten s := by
  simp [flatten]

/-! ### Table cells -/

/-- A character as a table cell shows it. -/
def cellChar (c : Char) : List Char := if c = '|' then ['\\', '|'] else [c]

/-- A text as the inside of a table cell. -/
def tableCell (s : List Char) : List Char := (flatten s).flatMap cellChar

@[simp] theorem tableCell_nil : tableCell [] = [] := rfl

/-! ### Struct tags -/

/-- A character as the value of a struct tag shows it. -/
def tagChar (c : Char) : List Char :=
  if c = '\\' then ['\\', '\\']
  else if c = '"' then ['\\', '"']
  else if c = ';' then ['\\', '\\', ';']
  else if c = '\x60' then ['\'']
  else [c]

/-- A text as a value in a struct tag. -/
def tagValue (s : List Char) : List Char := (flatten s).flatMap tagChar

@[simp] theorem tagValue_nil : tagValue [] = [] := rfl

/-! ### String literals -/

/-- A character as the inside of a quoted string literal shows it. -/
def literalChar (c : Char) : List Char :=
  if c = '\\' then ['\\', '\\']
  else if c = '"' then ['\\', '"']
  else if c = '\n' then ['\\', 'n']
  else if c = '\r' then ['\\', 'r']
  else if c = '\t' then ['\\', 't']
  else [c]

/-- A text as the inside of a quoted string literal. -/
def stringLiteral (s : List Char) : List Char := s.flatMap literalChar

@[simp] theorem stringLiteral_nil : stringLiteral [] = [] := rfl

@[simp] theorem stringLiteral_append (a b : List Char) :
    stringLiteral (a ++ b) = stringLiteral a ++ stringLiteral b := by
  simp [stringLiteral]

end Scribe.Text
