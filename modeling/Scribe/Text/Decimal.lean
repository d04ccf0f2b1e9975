/-!
# Decimals of binary numbers

A binary floating-point number stands for all reals that round to it, and its decimal is one with
the fewest digits among those.  The search goes through grids of one digit, two digits and so on,
and looks on each at the two points around the number; the first grid with a point that stands for
the number wins.  All of it is exact arithmetic on naturals.

How a decimal is laid out is a `NumberStyle`, and each kind of output has its own.
-/

namespace Scribe.Text

/-! ### Which digits -/

/-- The number `digits * 10 ^ exponent`. -/
structure Decimal where
  digits : Nat
  exponent : Int
  deriving Repr, DecidableEq

/-- The finite number `mantissa * 2 ^ exponent`. -/
structure Binary where
  mantissa : Nat
  exponent : Int
  /-- Whether the gap to the next smaller number is half the gap to the next larger one. -/
  narrowBelow : Bool
  deriving Repr, DecidableEq

namespace Binary

/-- The number with the given bits, its sign aside.  The bits have to be those of a finite
number. -/
def ofBits (bits : UInt64) : Binary :=
  let scale := ((bits >>> 52) &&& 0x7ff).toNat
  let fraction := (bits &&& 0xfffffffffffff).toNat
  if scale = 0 then ⟨fraction, -1074, false⟩
  else ⟨0x10000000000000 + fraction, scale - 1075, fraction = 0 && scale ≠ 1⟩

/-- The order of `a * 10 ^ i` and `b * 2 ^ j`. -/
def compareScaled (a : Nat) (i : Int) (b : Nat) (j : Int) : Ordering :=
  compare (a * Nat.pow 10 i.toNat * Nat.pow 2 (-j).toNat)
    (b * Nat.pow 2 j.toNat * Nat.pow 10 (-i).toNat)

/-- Whether a decimal rounds to the number: it lies between the midpoints to the neighbours, and
may be a midpoint itself if the mantissa is even. -/
def admits (x : Binary) (d : Decimal) : Bool :=
  let low := 4 * x.mantissa - if x.narrowBelow then 1 else 2
  let fromLow := compareScaled d.digits d.exponent low (x.exponent - 2)
  let fromHigh := compareScaled d.digits d.exponent (4 * x.mantissa + 2) (x.exponent - 2)
  let even := x.mantissa % 2 = 0
  (fromLow = .gt || (even && fromLow = .eq)) && (fromHigh = .lt || (even && fromHigh = .eq))

/-- How many digits the number has before its point; zero or less if it starts behind it. -/
def magnitude (x : Binary) : Int :=
  let shifted :=
    x.mantissa * Nat.pow 10 400 * Nat.pow 2 x.exponent.toNat / Nat.pow 2 (-x.exponent).toNat
  (Nat.toDigits 10 shifted).length - 400

/-- The better of the two points around the number on the grid of `10 ^ exponent`, if one of them
stands for it.  A tie goes up, or to the even point. -/
def nearest? (x : Binary) (tieUp : Bool) (exponent : Int) : Option Decimal :=
  let num := x.mantissa * Nat.pow 2 x.exponent.toNat * Nat.pow 10 (-exponent).toNat
  let den := Nat.pow 2 (-x.exponent).toNat * Nat.pow 10 exponent.toNat
  let low : Decimal := ⟨num / den, exponent⟩
  let high : Decimal := ⟨num / den + 1, exponent⟩
  match x.admits low, x.admits high with
  | false, false => none
  | true, false => some low
  | false, true => some high
  | true, true =>
    match compare (2 * (num % den)) den with
    | .lt => some low
    | .gt => some high
    | .eq => some (if tieUp || low.digits % 2 = 1 then high else low)

/-- The shortest decimal of a number other than zero. -/
def shortest (x : Binary) (tieUp : Bool) : Decimal :=
  let grids := (List.range 17).map fun n => x.magnitude - (n + 1 : Nat)
  (grids.findSome? fun e => x.nearest? tieUp e).getD
    ⟨x.mantissa * Nat.pow 5 (-x.exponent).toNat * Nat.pow 2 x.exponent.toNat, min x.exponent 0⟩

end Binary

/-! ### How they are written -/

/-- How numbers are laid out. -/
structure NumberStyle where
  /-- The least and the first too large exponent of the leading digit that is written without an
  exponent; nothing if no number has one. -/
  plain : Option (Int × Int)
  /-- Whether whole numbers get a point and a zero. -/
  pointZero : Bool
  /-- Whether a tie between two shortest decimals goes up, not to the even one. -/
  tieUp : Bool
  /-- Whether an exponent that is not negative has a sign. -/
  plusSign : Bool
  deriving Repr, DecidableEq

namespace NumberStyle

def zeros (n : Int) : String := String.ofList (List.replicate n.toNat '0')

/-- A decimal without an exponent. -/
def positional (style : NumberStyle) (digits : List Char) (exponent : Int) : String :=
  let before : Int := digits.length + exponent
  if 0 ≤ exponent then
    String.ofList digits ++ zeros exponent ++ if style.pointZero then ".0" else ""
  else if before ≤ 0 then "0." ++ zeros (-before) ++ String.ofList digits
  else
    String.ofList (digits.take before.toNat) ++ "." ++ String.ofList (digits.drop before.toNat)

/-- A decimal with an exponent: one digit before the point, and no point without digits after
it. -/
def scientific (style : NumberStyle) (digits : List Char) (exponent : Int) : String :=
  let leading : Int := digits.length - 1 + exponent
  String.ofList (digits.take 1) ++
    (if digits.length ≤ 1 then "" else "." ++ String.ofList (digits.drop 1)) ++
    (if style.plusSign && 0 ≤ leading then "e+" else "e") ++ toString leading

/-- The digits of a decimal without the zeros at their end, and the exponent that goes with
them. -/
def significant (d : Decimal) : List Char × Int :=
  let back := (Nat.toDigits 10 d.digits).reverse
  let kept := (back.dropWhile (· = '0')).reverse
  (kept, d.exponent + (back.length - kept.length : Nat))

def decimal (style : NumberStyle) (d : Decimal) : String :=
  let (digits, exponent) := significant d
  let leading : Int := digits.length - 1 + exponent
  match style.plain with
  | none => style.positional digits exponent
  | some (low, high) =>
    if low ≤ leading && leading < high then style.positional digits exponent
    else style.scientific digits exponent

/-- The text of a finite number. -/
def write (style : NumberStyle) (x : Float) : String :=
  let bits := x.toBits
  let sign := if bits >>> 63 = 1 then "-" else ""
  let b := Binary.ofBits bits
  if b.mantissa = 0 then sign ++ if style.pointZero then "0.0" else "0"
  else sign ++ style.decimal (b.shortest style.tieUp)

end NumberStyle

end Scribe.Text
