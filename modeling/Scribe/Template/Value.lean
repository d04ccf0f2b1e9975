import Scribe.Template.Number
import Scribe.Text.Visible

/-!
# Values of the template language

What templates compute with.  The fields of a record are kept in the order of their names, and
that is also the order in which they are written as data.

A value has three texts: what it adds to the output, its data form, which messages quote, and its
description, which names its kind.
-/

namespace Scribe.Template

open Scribe.Text

/-- A value. -/
inductive Value where
  | bool (b : Bool)
  | number (n : Number)
  | text (s : String)
  | list (items : List Value)
  | record (fields : List (String × Value))
  deriving Repr, Inhabited

namespace Value

/-- The record with these fields. -/
def ofFields (fields : List (String × Value)) : Value :=
  record (fields.mergeSort fun a b => a.1 ≤ b.1)

def ofNat (n : Nat) : Value := number (.int n)

/-! ### Questions -/

/-- Whether a value counts as true. -/
def truthy : Value → Bool
  | bool b => b
  | number n => !n.isZero
  | text s => s ≠ ""
  | list items => !items.isEmpty
  | record fields => !fields.isEmpty

mutual

/-- Whether two values are of one kind and equal. -/
def same : Value → Value → Bool
  | bool a, bool b => a = b
  | number a, number b => a.same b
  | text a, text b => a = b
  | list a, list b => sameItems a b
  | record a, record b => sameFields a b
  | _, _ => false

def sameItems : List Value → List Value → Bool
  | [], [] => true
  | a :: as, b :: bs => same a b && sameItems as bs
  | _, _ => false

def sameFields : List (String × Value) → List (String × Value) → Bool
  | [], [] => true
  | (k, a) :: as, (l, b) :: bs => k = l && same a b && sameFields as bs
  | _, _ => false

end

def isNumber : Value → Bool
  | number _ => true
  | _ => false

/-- Whether two values are equal, where two numbers are compared by size.  Nothing if one is a
number and the other is not: they are neither equal nor unequal. -/
def equal? : Value → Value → Option Bool
  | number a, number b => some (a.toFloat == b.toFloat)
  | a, b => if a.isNumber || b.isNumber then none else some (same a b)

/-! ### Output -/

mutual

/-- What a value adds to the output. -/
def output : Value → String
  | bool b => toString b
  | number n => n.write Number.outputStyle
  | text s => s
  | list items => "[" ++ outputItems items ++ "]"
  | record _ => "[object]"

def outputItems : List Value → String
  | [] => ""
  | [a] => output a
  | a :: rest => output a ++ ", " ++ outputItems rest

end

/-! ### Data form -/

/-- A character inside a quoted text. -/
def quotedChar (c : Char) : String :=
  match c with
  | '"' => "\\\""
  | '\\' => "\\\\"
  | '\n' => "\\n"
  | '\r' => "\\r"
  | '\t' => "\\t"
  | '\x08' => "\\b"
  | '\x0c' => "\\f"
  | c =>
    if c.toNat < 32 then
      "\\u00" ++ String.ofList [Nat.digitChar (c.toNat / 16), Nat.digitChar (c.toNat % 16)]
    else c.toString

def quoted (s : String) : String :=
  "\"" ++ String.join (s.toList.map quotedChar) ++ "\""

mutual

/-- The data form of a value, without blanks. -/
def data : Value → String
  | bool b => toString b
  | number n => n.write Number.dataStyle
  | text s => quoted s
  | list items => "[" ++ dataItems items ++ "]"
  | record fields => "\x7b" ++ dataFields fields ++ "\x7d"

def dataItems : List Value → String
  | [] => ""
  | [a] => data a
  | a :: rest => data a ++ "," ++ dataItems rest

def dataFields : List (String × Value) → String
  | [] => ""
  | [(k, a)] => quoted k ++ ":" ++ data a
  | (k, a) :: rest => quoted k ++ ":" ++ data a ++ "," ++ dataFields rest

end

mutual

/-- The data form of a value over several lines, each after the first with an indent. -/
def pretty (indent : String) : Value → String
  | bool b => toString b
  | number n => n.write Number.dataStyle
  | text s => quoted s
  | list [] => "[]"
  | list items =>
    let inner := indent ++ "  "
    "[\n" ++ inner ++ prettyItems inner items ++ "\n" ++ indent ++ "]"
  | record [] => "\x7b\x7d"
  | record fields =>
    let inner := indent ++ "  "
    "\x7b\n" ++ inner ++ prettyFields inner fields ++ "\n" ++ indent ++ "\x7d"

def prettyItems (indent : String) : List Value → String
  | [] => ""
  | [a] => pretty indent a
  | a :: rest => pretty indent a ++ ",\n" ++ indent ++ prettyItems indent rest

def prettyFields (indent : String) : List (String × Value) → String
  | [] => ""
  | [(k, a)] => quoted k ++ ": " ++ pretty indent a
  | (k, a) :: rest =>
    quoted k ++ ": " ++ pretty indent a ++ ",\n" ++ indent ++ prettyFields indent rest

end

/-! ### Descriptions -/

/-- A character inside a text in a description. -/
def describedChar (c : Char) : String :=
  match c with
  | '"' => "\\\""
  | '\\' => "\\\\"
  | '\n' => "\\n"
  | '\r' => "\\r"
  | '\t' => "\\t"
  | '\x00' => "\\0"
  | c =>
    if isVisible c then c.toString
    else "\\u\x7b" ++ String.ofList (Nat.toDigits 16 c.toNat) ++ "\x7d"

def describedText (s : String) : String :=
  "\"" ++ String.join (s.toList.map describedChar) ++ "\""

mutual

/-- The description of a value. -/
def describe : Value → String
  | bool b => "Bool(" ++ toString b ++ ")"
  | number n => "Number(" ++ n.write Number.dataStyle ++ ")"
  | text s => "String(" ++ describedText s ++ ")"
  | list items => "Array [" ++ describeItems items ++ "]"
  | record fields => "Object \x7b" ++ describeFields fields ++ "\x7d"

def describeItems : List Value → String
  | [] => ""
  | [a] => describe a
  | a :: rest => describe a ++ ", " ++ describeItems rest

def describeFields : List (String × Value) → String
  | [] => ""
  | [(k, a)] => describedText k ++ ": " ++ describe a
  | (k, a) :: rest => describedText k ++ ": " ++ describe a ++ ", " ++ describeFields rest

end

/-! ### Parts -/

/-- The part of a value that a name or an index stands for. -/
def part? (v : Value) (key : String) : Option Value :=
  match v with
  | record fields => fields.lookup key
  | list items => (Number.readIndex? key.toList).bind (items[·]?)
  | _ => none

/-- The part of a value at the end of a way of names and indices. -/
def at? (v : Value) : List String → Option Value
  | [] => some v
  | key :: rest => (v.part? key).bind fun w => w.at? rest

/-- The pieces of a way between dots; a dot inside double quotes is no end of a piece. -/
def piecesFrom (quotes : Bool) (piece : List Char) : List Char → List (List Char)
  | [] => [piece.reverse]
  | c :: rest =>
    if c = '.' && !quotes then piece.reverse :: piecesFrom quotes [] rest
    else piecesFrom (if c = '"' then !quotes else quotes) (c :: piece) rest

/-- A piece without the double quotes around it. -/
def unquoted (piece : List Char) : List Char :=
  ((piece.dropWhile (· = '"')).reverse.dropWhile (· = '"')).reverse

/-- The steps of a way: its pieces, where an empty one is no step. -/
def steps (way : String) : List String :=
  (((piecesFrom false [] way.toList).map unquoted).filter (· ≠ [])).map String.ofList

/-- The part of a value that a way leads to. -/
def atWay? (v : Value) (way : String) : Option Value := v.at? (steps way)

end Value

end Scribe.Template
