import Scribe.Template.Number
import Scribe.Template.Value

/-!
# Syntax of the template language

Expressions and the parts of a template.  A way to a variable is kept as it was written, because
messages quote it; what its brackets stand for is found out when its value is wanted.

The descriptions at the end are the form in which some messages show an expression.
-/

namespace Scribe.Template

/-! ### Ways to variables -/

/-- A way to a variable: a name, and then names after dots and names, numbers or texts in
brackets. -/
structure Way where
  written : String
  deriving Repr, DecidableEq

/-! ### Expressions -/

/-- The operators with a truth value. -/
inductive LogicOp where
  | gt
  | ge
  | lt
  | le
  | eq
  | ne
  | and
  | or
  deriving Repr, DecidableEq

mutual

/-- An expression without its filters. -/
inductive Term where
  | text (s : String)
  | int (i : Int)
  | float (x : Float)
  | bool (b : Bool)
  | variable (way : Way)
  | arith (op : ArithOp) (left right : Expr)
  | logic (op : LogicOp) (left right : Expr)
  | test (way : Way) (negated : Bool) (name : String) (args : List Expr)
  | snippet (space name : String) (args : List (String × Expr))
  | call (call : Call)
  | list (items : List Expr)
  | concat (parts : List Term)
  | within (item container : Expr) (negated : Bool)

/-- An expression: a term, the filters that its value goes through, and whether the truth of the
result is turned around. -/
inductive Expr where
  | mk (term : Term) (negated : Bool) (filters : List Call)

/-- A function or filter with its named arguments. -/
inductive Call where
  | mk (name : String) (args : List (String × Expr))

end

namespace Expr

/-- The expression that is just a term. -/
def ofTerm (t : Term) : Expr := mk t false []

def term : Expr → Term
  | mk t _ _ => t

/-- The expression with its truth turned around, or not. -/
def turned : Expr → Bool → Expr
  | mk t _ fs, negated => mk t negated fs

end Expr

def Call.name : Call → String
  | mk name _ => name

/-! ### Templates -/

/-- A parameter of a snippet, with its default. -/
structure Parameter where
  name : String
  default : Option Term

mutual

/-- A part of a template. -/
inductive Node where
  | text (s : String)
  /-- Text that no dash of a mark around it reaches. -/
  | verbatim (s : String)
  | output (e : Expr)
  | assign (name : String) (outside : Bool) (value : Expr)
  | filtered (filter : Call) (body : List Node)
  /-- Bodies under conditions, the first one that holds being taken. -/
  | choice (branches : List Branch) (otherwise : List Node)
  | loop (key : Option String) (item : String) (container : Expr) (body : List Node)
      (empty : List Node)
  | leave
  | next
  | block (name : String) (body : List Node)
  /-- The block that this block replaces. -/
  | replaced
  | insert (files : List String) (optional : Bool)

/-- A body under a condition. -/
inductive Branch where
  | mk (condition : Expr) (body : List Node)

end

/-- A named body with parameters. -/
structure Snippet where
  name : String
  parameters : List Parameter
  body : List Node

/-- A template as it was read. -/
structure TemplateFile where
  /-- The file whose layout it fills in. -/
  parent : Option String
  nodes : List Node
  snippets : List Snippet
  /-- The files whose snippets it uses, each under a name. -/
  imports : List (String × String)

/-! ### Descriptions -/

def ArithOp.describe : ArithOp → String
  | add => "Add"
  | sub => "Sub"
  | mul => "Mul"
  | div => "Div"
  | mod => "Modulo"

def LogicOp.describe : LogicOp → String
  | gt => "Gt"
  | ge => "Gte"
  | lt => "Lt"
  | le => "Lte"
  | eq => "Eq"
  | ne => "NotEq"
  | and => "And"
  | or => "Or"

/-- A description of parts with names. -/
def describeParts (kind : String) (parts : List (String × String)) : String :=
  kind ++ " \x7b " ++ ", ".intercalate (parts.map fun (k, v) => k ++ ": " ++ v) ++ " \x7d"

mutual

def Term.describe : Term → String
  | .text s => "String(" ++ Value.describedText s ++ ")"
  | .int i => "Int(" ++ toString i ++ ")"
  | .float x => "Float(" ++ (Number.float x).write Number.codeStyle ++ ")"
  | .bool b => "Bool(" ++ toString b ++ ")"
  | .variable way => "Ident(" ++ Value.describedText way.written ++ ")"
  | .arith op l r =>
    "Math(" ++ describeParts "MathExpr"
      [("lhs", l.describe), ("rhs", r.describe), ("operator", op.describe)] ++ ")"
  | .logic op l r =>
    "Logic(" ++ describeParts "LogicExpr"
      [("lhs", l.describe), ("rhs", r.describe), ("operator", op.describe)] ++ ")"
  | .test way negated name args =>
    "Test(" ++ describeParts "Test"
      [("ident", Value.describedText way.written), ("negated", toString negated),
        ("name", Value.describedText name),
        ("args", "[" ++ ", ".intercalate (describeList args) ++ "]")] ++ ")"
  | .snippet space name args =>
    "MacroCall(" ++ describeParts "MacroCall"
      [("namespace", Value.describedText space), ("name", Value.describedText name),
        ("args", describeArgs args)] ++ ")"
  | .call c => "FunctionCall(" ++ c.describe ++ ")"
  | .list items => "Array([" ++ ", ".intercalate (describeList items) ++ "])"
  | .concat parts =>
    "StringConcat(" ++ describeParts "StringConcat"
      [("values", "[" ++ ", ".intercalate (describeTerms parts) ++ "]")] ++ ")"
  | .within l r negated =>
    "In(" ++ describeParts "In"
      [("lhs", l.describe), ("rhs", r.describe), ("negated", toString negated)] ++ ")"

def Expr.describe : Expr → String
  | .mk t negated filters =>
    describeParts "Expr"
      [("val", t.describe), ("negated", toString negated),
        ("filters", "[" ++ ", ".intercalate (describeCalls filters) ++ "]")]

def Call.describe : Call → String
  | .mk name args =>
    describeParts "FunctionCall"
      [("name", Value.describedText name), ("args", describeArgs args)]

def describeArgs : List (String × Expr) → String
  | [] => "\x7b\x7d"
  | args => "\x7b" ++ ", ".intercalate (describePairs args) ++ "\x7d"

def describePairs : List (String × Expr) → List String
  | [] => []
  | (k, e) :: rest => (Value.describedText k ++ ": " ++ e.describe) :: describePairs rest

def describeList : List Expr → List String
  | [] => []
  | e :: rest => e.describe :: describeList rest

def describeTerms : List Term → List String
  | [] => []
  | t :: rest => t.describe :: describeTerms rest

def describeCalls : List Call → List String
  | [] => []
  | c :: rest => c.describe :: describeCalls rest

end

/-! ### Concatenations in messages -/

def Term.inConcat : Term → String
  | .text s => "'" ++ s ++ "'"
  | .variable way => way.written
  | _ => "unknown"

/-- The parts of a concatenation, in the form in which a message repeats it. -/
def concatText (parts : List Term) : String := " ~ ".intercalate (parts.map Term.inConcat)

end Scribe.Template
