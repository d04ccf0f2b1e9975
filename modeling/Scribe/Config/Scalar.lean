/-!
# Scalars of configuration files

Which bare words are values: truth values, numbers, and dates with or without times.  A
configuration has no use for any of them, but a file with a word that is no value is not a
configuration file, so they are told apart from nonsense.

A number can be written that is too large to be held: an integer beyond 128 bits, or a fraction
that is nearest to none of the finite ones.  Such a word is a value, but one that cannot be read.
-/

namespace Scribe.Config

/-! ### Digits -/

/-- Whether a word consists of digits, with single underscores only between them. -/
def isDigits (digit : Char → Bool) (s : List Char) : Bool :=
  match s with
  | [] => false
  | [c] => digit c
  | c :: '_' :: rest => digit c && isDigits digit rest
  | c :: rest => digit c && isDigits digit rest

/-- Whether digits are those of a whole number: no zero in front of others. -/
def isWhole (s : List Char) : Bool :=
  isDigits Char.isDigit s && (s.length = 1 || s.head? ≠ some '0')

def dropSign : List Char → List Char
  | '+' :: rest => rest
  | '-' :: rest => rest
  | s => s

/-- The number that digits of a base spell, underscores aside. -/
def valueOf (base : Nat) (s : List Char) : Nat :=
  (s.filter (· ≠ '_')).foldl (fun n c =>
    base * n + if c.isDigit then c.toNat - '0'.toNat else c.toLower.toNat - 'a'.toNat + 10) 0

/-! ### Integers -/

def isOctal (c : Char) : Bool := '0' ≤ c && c ≤ '7'

def isBinary (c : Char) : Bool := c = '0' || c = '1'

def isHex (c : Char) : Bool := c.isDigit || ('a' ≤ c && c ≤ 'f') || ('A' ≤ c && c ≤ 'F')

/-- The integer that a word is. -/
def integer? (s : List Char) : Option Int :=
  match s with
  | '0' :: 'x' :: ds => if isDigits isHex ds then some (valueOf 16 ds) else none
  | '0' :: 'o' :: ds => if isDigits isOctal ds then some (valueOf 8 ds) else none
  | '0' :: 'b' :: ds => if isDigits isBinary ds then some (valueOf 2 ds) else none
  | s =>
    let n : Int := valueOf 10 (dropSign s)
    if isWhole (dropSign s) then some (if s.head? = some '-' then -n else n) else none

/-- Whether an integer can be held in 128 bits, with a sign or without one. -/
def isHeld (i : Int) : Bool := -(Nat.pow 2 127 : Int) ≤ i && i < (Nat.pow 2 128 : Int)

/-! ### Fractions -/

def isExponentMark (c : Char) : Bool := c = 'e' || c = 'E'

/-- The parts of a number with a point, an exponent or both. -/
structure Fraction where
  whole : List Char
  /-- What follows the point. -/
  places : Option (List Char)
  /-- What follows the mark of the exponent. -/
  exponent : Option (List Char)

namespace Fraction

/-- Cuts a word at its point and at the mark of its exponent. -/
def ofWord (s : List Char) : Fraction :=
  let body := dropSign s
  let mantissa := body.takeWhile (!isExponentMark ·)
  { whole := mantissa.takeWhile (· ≠ '.')
    places := (mantissa.dropWhile (· ≠ '.')).tail?
    exponent := (body.dropWhile (!isExponentMark ·)).tail? }

/-- Whether the parts are those of a number. -/
def isNumber (f : Fraction) : Bool :=
  isWhole f.whole && (f.places.isSome || f.exponent.isSome) &&
    f.places.all (isDigits Char.isDigit) &&
    f.exponent.all fun e => isDigits Char.isDigit (dropSign e)

/-- The least whole number that is too large to be held: it is as near to a power of two as to the
largest number before it. -/
def limit : Nat := Nat.pow 2 1024 - Nat.pow 2 970

/-- How many digits before the point `limit` has. -/
def limitDigits : Nat := 309

/-- Whether a number is small enough to be held. -/
def isHeld (f : Fraction) : Bool :=
  let places := (f.places.getD []).filter (· ≠ '_')
  let digits := ((f.whole ++ places).filter (· ≠ '_')).dropWhile (· = '0')
  let power : Int :=
    match f.exponent with
    | none => 0
    | some e => if e.head? = some '-' then -valueOf 10 (dropSign e) else valueOf 10 (dropSign e)
  let scale := power - places.length
  let before := digits.length + scale
  digits = [] || before < limitDigits ||
    (before = limitDigits &&
      valueOf 10 digits * Nat.pow 10 scale.toNat < limit * Nat.pow 10 (-scale).toNat)

end Fraction

/-- Whether a word stands for a number that no digits spell. -/
def isNamedNumber (s : List Char) : Bool :=
  dropSign s = "inf".toList || dropSign s = "nan".toList

/-! ### Dates and times -/

/-- The number that exactly so many digits spell, and the rest. -/
def takeNumber (count : Nat) (s : List Char) : Option (Nat × List Char) :=
  let ds := s.take count
  if ds.length = count && ds.all Char.isDigit then some (valueOf 10 ds, s.drop count) else none

def takeChar (c : Char) : List Char → Option (List Char)
  | d :: rest => if c = d then some rest else none
  | [] => none

def daysIn (year month : Nat) : Nat :=
  if month = 2 then
    if (year % 4 = 0 && year % 100 ≠ 0) || year % 400 = 0 then 29 else 28
  else if month = 4 || month = 6 || month = 9 || month = 11 then 30 else 31

/-- What follows a date. -/
def takeDate (s : List Char) : Option (List Char) := do
  let (year, s) ← takeNumber 4 s
  let (month, s) ← takeNumber 2 (← takeChar '-' s)
  let (day, s) ← takeNumber 2 (← takeChar '-' s)
  if 1 ≤ month && month ≤ 12 && 1 ≤ day && day ≤ daysIn year month then some s else none

/-- What follows the seconds of a time of day, which can have places. -/
def takeSeconds (s : List Char) : Option (List Char) := do
  let (second, s) ← takeNumber 2 s
  if 60 < second then none
  else
    match s with
    | '.' :: rest =>
      if rest.head?.any Char.isDigit then some (rest.dropWhile Char.isDigit) else none
    | s => some s

/-- What follows a time of day, with seconds or without. -/
def takeTime (s : List Char) : Option (List Char) := do
  let (hour, s) ← takeNumber 2 s
  let (minute, s) ← takeNumber 2 (← takeChar ':' s)
  if 23 < hour || 59 < minute then none
  else
    match s with
    | ':' :: rest => takeSeconds rest
    | s => some s

/-- Whether a text is an offset from universal time. -/
def isOffset (s : List Char) : Bool :=
  match s with
  | [] => true
  | ['Z'] | ['z'] => true
  | c :: rest =>
    (c = '+' || c = '-') &&
      ((do
        let (hour, rest) ← takeNumber 2 rest
        let (minute, rest) ← takeNumber 2 (← takeChar ':' rest)
        some (hour ≤ 23 && minute ≤ 59 && rest = [])) : Option Bool) = some true

/-- Whether a text is a date, a time of day, or a date with a time. -/
def isDateTime (s : List Char) : Bool :=
  match takeDate s with
  | some [] => true
  | some (c :: rest) =>
    (c = 'T' || c = 't' || c = ' ') && ((takeTime rest).map isOffset) = some true
  | none => takeTime s = some []

/-! ### Scalars -/

/-- Whether a word is a value, and if it is, whether it can be read. -/
def scalar? (s : List Char) : Option Bool :=
  if s = "true".toList || s = "false".toList || isNamedNumber s || isDateTime s then some true
  else
    match integer? s with
    | some i => some (isHeld i)
    | none =>
      let f := Fraction.ofWord s
      if f.isNumber then some f.isHeld else none

/-- Whether a character can be in such a word. -/
def inScalar (c : Char) : Bool :=
  c.isAlphanum || c = '+' || c = '-' || c = '_' || c = '.' || c = ':'

end Scribe.Config
