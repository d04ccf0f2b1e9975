/-!
# Reading a bounded natural number

A decimal number with an optional plus sign, up to a bound.  The text is read from the left, and
the first fault met is the one reported: of `99999x` under a bound of 65535 that is the size, of
`9x` the character.
-/

namespace Scribe.Text

/-- Why a text is not a number within the bound. -/
inductive NumeralFault where
  | empty
  | invalidDigit
  | tooLarge
  deriving Repr, DecidableEq

def NumeralFault.message : NumeralFault → String
  | .empty => "cannot parse integer from empty string"
  | .invalidDigit => "invalid digit found in string"
  | .tooLarge => "number too large to fit in target type"

/-- The value of a decimal digit. -/
def digitValue (c : Char) : Nat := c.toNat - '0'.toNat

/-- Reads digits on from the value `n`. -/
def readDigits (bound n : Nat) : List Char → Except NumeralFault Nat
  | [] => .ok n
  | c :: rest =>
    if !c.isDigit then .error .invalidDigit
    else
      let next := n * 10 + digitValue c
      if bound < next then .error .tooLarge else readDigits bound next rest

/-- Reads a number of at most `bound`. -/
def readNumeral (bound : Nat) (s : List Char) : Except NumeralFault Nat :=
  match s with
  | [] => .error .empty
  | ['+'] => .error .invalidDigit
  | '+' :: digits => readDigits bound 0 digits
  | digits => readDigits bound 0 digits

end Scribe.Text
