/-!
# Texts of lines

A generated file is a list of lines; `joinLines` makes it a text.  The last line is not ended, so
that what comes after the text is left to whoever writes it.
-/

namespace Scribe.Document

/-- Lines joined by line feeds, without one at the end. -/
def joinLines : List String → String
  | [] => ""
  | [line] => line
  | line :: rest => line ++ "\n" ++ joinLines rest

@[simp] theorem joinLines_nil : joinLines [] = "" := rfl

@[simp] theorem joinLines_singleton (line : String) : joinLines [line] = line := rfl

@[simp] theorem joinLines_cons_cons (a b : String) (rest : List String) :
    joinLines (a :: b :: rest) = a ++ "\n" ++ joinLines (b :: rest) := rfl

end Scribe.Document
