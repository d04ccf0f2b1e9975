import Scribe.Text.Decimal

/-!
# Numbers of the template language

A number is a 64-bit integer or a floating-point number.  Integers stay integers under sum,
difference, product and remainder, and leaving their range is an error; a quotient is an integer
if it is whole.  With a floating-point operand the result is one too, and a result that is not
finite is no number.
-/

namespace Scribe.Template

open Scribe.Text

/-- A number. -/
inductive Number where
  | int (i : Int)
  | float (x : Float)
  deriving Repr

/-- The arithmetic operators. -/
inductive ArithOp where
  | add
  | sub
  | mul
  | div
  | mod
  deriving Repr, DecidableEq

/-- Why arithmetic fails. -/
inductive ArithFault where
  /-- The result leaves the range of integers; `sign` is the operator as messages write it. -/
  | overflow (left : Int) (sign : String) (right : Int)
  | zeroModulus
  deriving Repr, DecidableEq

namespace Number

def minInt : Int := -9223372036854775808

def maxInt : Int := 9223372036854775807

def inRange (i : Int) : Bool := minInt ≤ i && i ≤ maxInt

/-! ### Writing -/

/-- Numbers in output: never an exponent, and no point in whole numbers. -/
def outputStyle : NumberStyle := ⟨none, false, true, false⟩

/-- Numbers as data: an exponent with a sign for very large and very small ones, and a point in
all others. -/
def dataStyle : NumberStyle := ⟨some (-5, 16), true, false, true⟩

/-- Numbers in descriptions of templates. -/
def codeStyle : NumberStyle := ⟨some (-4, 16), true, true, false⟩

def write (style : NumberStyle) : Number → String
  | int i => toString i
  | float x => style.write x

/-! ### Comparing -/

def toFloat : Number → Float
  | int i => .ofInt i
  | float x => x

def isZero (n : Number) : Bool := n.toFloat == 0

/-- Whether two numbers are of one kind and equal. -/
def same : Number → Number → Bool
  | int i, int j => i = j
  | float x, float y => x == y
  | _, _ => false

/-! ### Arithmetic -/

/-- A floating-point result, if it is a number. -/
def ofFloat? (x : Float) : Option Number := if x.isFinite then some (float x) else none

/-- An integer result within the range. -/
def checked (left : Int) (sign : String) (right result : Int) :
    Except ArithFault (Option Number) :=
  if inRange result then .ok (some (int result)) else .error (.overflow left sign right)

/-- The remainder that has the sign of the left operand and is smaller than the right one. -/
def remainder (x y : Float) : Float :=
  let a := Binary.ofBits x.toBits
  let b := Binary.ofBits y.toBits
  let low := min a.exponent b.exponent
  let m := (a.mantissa * Nat.pow 2 (a.exponent - low).toNat) %
    (b.mantissa * Nat.pow 2 (b.exponent - low).toNat)
  let r := (Float.ofNat m).scaleB low
  if x.toBits >>> 63 = 1 then -r else r

/-- A quotient: an integer if it is whole, as near to it as integers go. -/
def quotient (x y : Float) : Option Number :=
  let q := x / y
  if q.isFinite && q.round == q then some (int q.toInt64.toInt) else ofFloat? q

def onFloats (x y : Float) : ArithOp → Option Number
  | .add => ofFloat? (x + y)
  | .sub => ofFloat? (x - y)
  | .mul => ofFloat? (x * y)
  | .div => quotient x y
  | .mod => if y == 0 then none else ofFloat? (remainder x y)

/-- The result of an operator; nothing if it is no number. -/
def apply (op : ArithOp) (a b : Number) : Except ArithFault (Option Number) :=
  match op, a, b with
  | .add, int i, int j => checked i "+" j (i + j)
  | .sub, int i, int j => checked i "-" j (i - j)
  | .mul, int i, int j => checked i "x" j (i * j)
  | .mod, int i, int j =>
    if j = 0 then .error .zeroModulus else .ok (some (int (i.tmod j)))
  | op, a, b => .ok (onFloats a.toFloat b.toFloat op)

/-! ### Reading -/

/-- The natural number that plain digits spell, without a sign or a leading zero. -/
def readIndex? (s : List Char) : Option Nat :=
  if s = ['0'] then some 0
  else
    match s with
    | [] | '0' :: _ => none
    | _ =>
      if s.all Char.isDigit then some (s.foldl (fun n c => 10 * n + (c.toNat - '0'.toNat)) 0)
      else none

end Number

end Scribe.Template
