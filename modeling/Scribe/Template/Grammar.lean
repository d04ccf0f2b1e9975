import Scribe.Template.Syntax

/-!
# Reading expressions

The grammar of expressions is ordered: of several readings the first that fits is taken, and it is
not taken back because something later does not fit.  A reader takes characters from the front and
returns what it read with the rest, or nothing.

Blanks are allowed between any two symbols, and only `and`, `or` and `not` need one after them.
Readers of parts that can contain expressions again carry a budget.  `readExpression` hands out
more of it than the text has characters to spend it on.
-/

namespace Scribe.Template

/-- A reader of one kind of part. -/
abbrev Reader (α : Type) := List Char → Option (α × List Char)

/-! ### Symbols -/

/-- The blanks that separate symbols. -/
def isGap (c : Char) : Bool := c = ' ' || c = '\t' || c = '\r' || c = '\n'

def skipGap (s : List Char) : List Char := s.dropWhile isGap

/-- What is left after these characters, if the text starts with them. -/
def after? (symbol : List Char) (s : List Char) : Option (List Char) :=
  if symbol.isPrefixOf s then some (s.drop symbol.length) else none

/-- What is left after a gap and a symbol. -/
def symbol? (symbol : String) (s : List Char) : Option (List Char) :=
  after? symbol.toList (skipGap s)

/-- What is left after a gap and a word that has a blank after it. -/
def word? (word : String) (s : List Char) : Option (List Char) :=
  match symbol? word s with
  | some (c :: rest) => if isGap c then some rest else none
  | _ => none

def startsName (c : Char) : Bool := c.isAlpha || c = '_'

def continuesName (c : Char) : Bool := c.isAlphanum || c = '_'

/-- A name, at once. -/
def name? : Reader (List Char)
  | [] => none
  | c :: rest =>
    if startsName c then some (c :: rest.takeWhile continuesName, rest.dropWhile continuesName)
    else none

/-- A name after a gap. -/
def readName (s : List Char) : Option (String × List Char) :=
  (name? (skipGap s)).map fun (n, rest) => (String.ofList n, rest)

/-! ### Literals -/

/-- A text in quotes of one kind.  There are no escapes. -/
def quotedBy? (quote : Char) : Reader (List Char)
  | c :: rest =>
    if c = quote then
      match rest.dropWhile (· ≠ quote) with
      | _ :: left => some (rest.takeWhile (· ≠ quote), left)
      | [] => none
    else none
  | [] => none

/-- A text in quotes, and the quote. -/
def quoted? (s : List Char) : Option ((Char × List Char) × List Char) :=
  ['"', '\'', '\x60'].firstM fun quote =>
    (quotedBy? quote s).map fun (text, rest) => ((quote, text), rest)

def readText (s : List Char) : Option (String × List Char) :=
  (quoted? (skipGap s)).map fun ((_, text), rest) => (String.ofList text, rest)

/-- The digits of a whole number: a zero alone, or digits without a zero in front. -/
def wholeDigits? : Reader (List Char)
  | '0' :: rest => some (['0'], rest)
  | c :: rest =>
    if c.isDigit then some (c :: rest.takeWhile Char.isDigit, rest.dropWhile Char.isDigit)
    else none
  | [] => none

/-- A sign and the digits of a whole number. -/
def signedDigits? : Reader (Bool × List Char)
  | '-' :: rest => (wholeDigits? rest).map fun (ds, left) => ((true, ds), left)
  | s => (wholeDigits? s).map fun (ds, left) => ((false, ds), left)

def natOfDigits (digits : List Char) : Nat :=
  digits.foldl (fun n c => 10 * n + (c.toNat - '0'.toNat)) 0

/-- An integer within the range. -/
def readInt (s : List Char) : Option (Int × List Char) := do
  let ((negative, digits), rest) ← signedDigits? (skipGap s)
  let i : Int := if negative then -natOfDigits digits else natOfDigits digits
  if Number.inRange i then some (i, rest) else none

/-- A number with a point. -/
def readFloat (s : List Char) : Option (Float × List Char) := do
  let ((negative, digits), rest) ← signedDigits? (skipGap s)
  let '.' :: rest := rest | none
  let places := rest.takeWhile Char.isDigit
  if places = [] then none
  else
    let x := Float.ofScientific (natOfDigits (digits ++ places)) true places.length
    some (if negative then -x else x, rest.dropWhile Char.isDigit)

def readBool (s : List Char) : Option (Bool × List Char) :=
  [("true", true), ("false", false), ("True", true), ("False", false)].firstM fun (w, b) =>
    (symbol? w s).map fun rest => (b, rest)

/-! ### Ways -/

/-- The steps of a way after its first name, as far as there are any, and the rest. -/
def readSteps : Nat → List Char → List Char × List Char
  | 0, s => ([], s)
  | budget + 1, s =>
    match s with
    | '.' :: rest =>
      let piece := rest.takeWhile continuesName
      if piece = [] then ([], s)
      else
        let (steps, left) := readSteps budget (rest.dropWhile continuesName)
        (('.' :: piece) ++ steps, left)
    | '[' :: rest =>
      match readBracket budget rest with
      | none => ([], s)
      | some (inner, left) =>
        let (steps, left) := readSteps budget left
        (('[' :: inner) ++ (']' :: steps), left)
    | _ => ([], s)
where
  /-- The content of a bracket, and what follows the closing bracket. -/
  readBracket : Nat → List Char → Option (List Char × List Char)
    | 0, _ => none
    | budget + 1, s =>
      match signedDigits? s with
      | some ((negative, digits), rest) =>
        (after? [']'] rest).map (if negative then '-' :: digits else digits, ·)
      | none =>
        match quoted? s with
        | some ((quote, inner), rest) => (after? [']'] rest).map (quote :: inner ++ [quote], ·)
        | none => do
          let (first, rest) ← name? s
          let (steps, rest) := readSteps budget rest
          let left ← after? [']'] rest
          some (first ++ steps, left)

/-- A way to a variable. -/
def readWay (s : List Char) : Option (Way × List Char) := do
  let (first, rest) ← name? (skipGap s)
  let (steps, left) := readSteps (2 * rest.length + 2) rest
  some (⟨String.ofList (first ++ steps)⟩, left)

/-! ### Operators by precedence -/

/-- Puts operands together from the left, operators that bind tightly before the others.
`pending` is the part before the last operator that does not. -/
def arrange {α β : Type} (tight : α → Bool) (join : α → β → β → β) (pending : Option (β × α))
    (current : β) : List (α × β) → β
  | [] =>
    match pending with
    | none => current
    | some (left, op) => join op left current
  | (op, operand) :: rest =>
    if tight op then arrange tight join pending (join op current operand) rest
    else
      let left :=
        match pending with
        | none => current
        | some (before, last) => join last before current
      arrange tight join (some (left, op)) operand rest

def ArithOp.isTight : ArithOp → Bool
  | mul | div | mod => true
  | add | sub => false

def readArithOp (s : List Char) : Option (ArithOp × List Char) :=
  [("+", ArithOp.add), ("-", .sub), ("*", .mul), ("/", .div), ("%", .mod)].firstM fun (w, op) =>
    (symbol? w s).map fun rest => (op, rest)

def readRelation (s : List Char) : Option (LogicOp × List Char) :=
  [("<=", LogicOp.le), (">=", .ge), (">", .gt), ("<", .lt), ("==", .eq), ("!=", .ne)].firstM
    fun (w, op) => (symbol? w s).map fun rest => (op, rest)

def readJunction (s : List Char) : Option (LogicOp × List Char) :=
  [("or", LogicOp.or), ("and", .and)].firstM fun (w, op) =>
    (word? w s).map fun rest => (op, rest)

/-- A mark for the truth of what follows to be turned around. -/
def readNot (s : List Char) : Bool × List Char :=
  match word? "not" s with
  | some rest => (true, rest)
  | none => (false, s)

/-! ### Expressions -/

/-- The concatenation of parts: texts next to each other are one text, and a text alone is no
concatenation. -/
def concatenated (parts : List Term) : Term :=
  match merge "" parts with
  | [] => .text ""
  | [.text s] => .text s
  | parts => .concat parts
where
  /-- The parts after a text that may be empty, which goes in front of them. -/
  merge (text : String) : List Term → List Term
    | [] => if text = "" then [] else [.text text]
    | .text s :: rest => merge (text ++ s) rest
    | t :: rest => if text = "" then t :: merge "" rest else .text text :: t :: merge "" rest

mutual

/-- A term that arithmetic applies to. -/
def readTerm : Nat → Reader Term
  | 0, _ => none
  | n + 1, s =>
    ((readBool s).map fun (b, rest) => (.bool b, rest)) <|>
    readTest n s <|>
    readSnippetCall n s <|>
    ((readCall n s).map fun (c, rest) => (.call c, rest)) <|>
    ((readWay s).map fun (w, rest) => (.variable w, rest)) <|>
    ((readFloat s).map fun (x, rest) => (.float x, rest)) <|>
    ((readInt s).map fun (i, rest) => (.int i, rest))

/-- A test of a variable. -/
def readTest : Nat → Reader Term
  | 0, _ => none
  | n + 1, s => do
    let (way, rest) ← readWay s
    let rest ← symbol? "is" rest
    let negative := (symbol? "not" rest).bind fun rest =>
      (readTestName n rest).map fun ((name, args), left) => (Term.test way true name args, left)
    negative <|>
      ((readTestName n rest).map fun ((name, args), left) => (Term.test way false name args, left))

/-- The name of a test and its arguments. -/
def readTestName : Nat → Reader (String × List Expr)
  | 0, _ => none
  | n + 1, s => do
    let (name, rest) ← readName s
    let withArgs := (symbol? "(" rest).bind fun rest => do
      let (args, rest) ← readItems n rest
      if args.isEmpty then none
      else
        let left ← symbol? ")" rest
        some ((name, args), left)
    withArgs <|> some ((name, []), rest)

/-- Arguments separated by commas; a comma may stand after the last one. -/
def readItems : Nat → Reader (List Expr)
  | 0, _ => none
  | n + 1, s =>
    match readArgument n s with
    | none => some ([], s)
    | some (e, rest) =>
      match symbol? "," rest with
      | none => some ([e], rest)
      | some rest => (readItems n rest).map fun (es, left) => (e :: es, left)

/-- A call of a snippet. -/
def readSnippetCall : Nat → Reader Term
  | 0, _ => none
  | n + 1, s => do
    let (space, rest) ← readName s
    let rest ← symbol? "::" rest
    let (name, rest) ← readName rest
    let rest ← symbol? "(" rest
    let (args, rest) ← readNamed n rest
    let left ← symbol? ")" rest
    some (.snippet space name args, left)

/-- A call of a function. -/
def readCall : Nat → Reader Call
  | 0, _ => none
  | n + 1, s => do
    let (name, rest) ← readName s
    let rest ← symbol? "(" rest
    let (args, rest) ← readNamed n rest
    let left ← symbol? ")" rest
    some (.mk name args, left)

/-- Named arguments separated by commas; a comma may stand after the last one. -/
def readNamed : Nat → Reader (List (String × Expr))
  | 0, _ => none
  | n + 1, s =>
    let first := do
      let (name, rest) ← readName s
      let rest ← symbol? "=" rest
      let (e, rest) ← readArgument n rest
      some ((name, e), rest)
    match first with
    | none => some ([], s)
    | some (arg, rest) =>
      match symbol? "," rest with
      | none => some ([arg], rest)
      | some rest => (readNamed n rest).map fun (args, left) => (arg :: args, left)

/-- An argument: any expression or list. -/
def readArgument : Nat → Reader Expr
  | 0, _ => none
  | n + 1, s => readLogic n s <|> readList n s

/-- Filters, each after a bar. -/
def readFilters : Nat → Reader (List Call)
  | 0, s => some ([], s)
  | n + 1, s =>
    let first := (symbol? "|" s).bind fun rest =>
      readCall n rest <|> ((readName rest).map fun (name, left) => (.mk name [], left))
    match first with
    | none => some ([], s)
    | some (c, rest) => (readFilters n rest).map fun (cs, left) => (c :: cs, left)

/-- A term, or an arithmetic expression in brackets. -/
def readOperand : Nat → Reader Term
  | 0, _ => none
  | n + 1, s =>
    let bracketed := (symbol? "(" s).bind fun rest => do
      let (t, rest) ← readArith n rest
      let left ← symbol? ")" rest
      some (t, left)
    bracketed <|> readTerm n s

/-- Arithmetic on terms. -/
def readArith : Nat → Reader Term
  | 0, _ => none
  | n + 1, s => do
    let (first, rest) ← readOperand n s
    let (more, left) ← readOperands n rest
    some (arrange ArithOp.isTight (fun op l r => .arith op (.ofTerm l) (.ofTerm r)) none first more,
      left)

def readOperands : Nat → Reader (List (ArithOp × Term))
  | 0, s => some ([], s)
  | n + 1, s =>
    let first := do
      let (op, rest) ← readArithOp s
      let (t, rest) ← readOperand n rest
      some ((op, t), rest)
    match first with
    | none => some ([], s)
    | some (operand, rest) => (readOperands n rest).map fun (ts, left) => (operand :: ts, left)

/-- Arithmetic on terms, and the filters of its result. -/
def readFiltered : Nat → Reader Expr
  | 0, _ => none
  | n + 1, s => do
    let (t, rest) ← readArith n s
    let (filters, left) ← readFilters n rest
    some (.mk t false filters, left)

/-- A text or a concatenation, and the filters of it. -/
def readTextual : Nat → Reader Expr
  | 0, _ => none
  | n + 1, s => do
    let concat := do
      let (first, rest) ← readPart n s
      let (more, left) ← readParts n rest
      if more.isEmpty then none else some (concatenated (first :: more), left)
    let text := (readText s).map fun (text, left) => (Term.text text, left)
    let (t, rest) ← concat <|> text
    let (filters, left) ← readFilters n rest
    some (.mk t false filters, left)

/-- A part of a concatenation. -/
def readPart : Nat → Reader Term
  | 0, _ => none
  | n + 1, s =>
    ((readCall n s).map fun (c, rest) => (.call c, rest)) <|>
    ((readFloat s).map fun (x, rest) => (.float x, rest)) <|>
    ((readInt s).map fun (i, rest) => (.int i, rest)) <|>
    ((readText s).map fun (text, rest) => (.text text, rest)) <|>
    ((readWay s).map fun (w, rest) => (.variable w, rest))

def readParts : Nat → Reader (List Term)
  | 0, s => some ([], s)
  | n + 1, s =>
    match (symbol? "~" s).bind (readPart n) with
    | none => some ([], s)
    | some (t, rest) => (readParts n rest).map fun (ts, left) => (t :: ts, left)

/-- A list with its filters. -/
def readList : Nat → Reader Expr
  | 0, _ => none
  | n + 1, s => do
    let rest ← symbol? "[" s
    let (items, rest) ← readElements n rest
    let rest ← symbol? "]" rest
    let (filters, left) ← readFilters n rest
    some (.mk (.list items) false filters, left)

/-- The elements of a list; they are no lists themselves. -/
def readElements : Nat → Reader (List Expr)
  | 0, _ => none
  | n + 1, s =>
    match readLogicOperand n s with
    | none => some ([], s)
    | some (e, rest) =>
      match symbol? "," rest with
      | none => some ([e], rest)
      | some rest => (readElements n rest).map fun (es, left) => (e :: es, left)

/-- Arithmetic on filtered values. -/
def readQuantity : Nat → Reader Expr
  | 0, _ => none
  | n + 1, s => do
    let (first, rest) ← readFiltered n s
    let (more, left) ← readQuantities n rest
    some (arrange ArithOp.isTight (fun op l r => .ofTerm (.arith op l r)) none first more, left)

def readQuantities : Nat → Reader (List (ArithOp × Expr))
  | 0, s => some ([], s)
  | n + 1, s =>
    let first := do
      let (op, rest) ← readArithOp s
      let (e, rest) ← readFiltered n rest
      some ((op, e), rest)
    match first with
    | none => some ([], s)
    | some (operand, rest) => (readQuantities n rest).map fun (es, left) => (operand :: es, left)

/-- One side of a comparison. -/
def readSide : Nat → Reader Expr
  | 0, _ => none
  | n + 1, s => readTextual n s <|> readQuantity n s

/-- A value, or a comparison of two. -/
def readComparison : Nat → Reader Expr
  | 0, _ => none
  | n + 1, s => do
    let (left, rest) ← readSide n s
    let compared := do
      let (op, rest) ← readRelation rest
      let (right, rest) ← readSide n rest
      some (Expr.ofTerm (.logic op left right), rest)
    compared <|> some (left, rest)

/-- Whether a value is in a container. -/
def readMembership : Nat → Reader Expr
  | 0, _ => none
  | n + 1, s => do
    let (item, rest) ← readTextual n s <|> readFiltered n s
    let (negated, rest) := readNot rest
    let rest ← symbol? "in" rest
    let (container, left) ← readTextual n rest <|> readList n rest <|>
      ((readWay rest).map fun (w, left) => (.ofTerm (.variable w), left))
    some (.ofTerm (.within item container negated), left)

/-- An operand of `and` and `or`: a value or comparison, perhaps with its truth turned around, or
anything in brackets.  Brackets around a lone `not` undo it. -/
def readLogicOperand : Nat → Reader Expr
  | 0, _ => none
  | n + 1, s =>
    let (negated, rest) := readNot s
    match readMembership n rest <|> readComparison n rest with
    | some (e, left) => some (e.turned negated, left)
    | none => do
      let (e, rest) ← readLogic n (← symbol? "(" s)
      let left ← symbol? ")" rest
      some (e.turned false, left)

/-- Any expression but a list. -/
def readLogic : Nat → Reader Expr
  | 0, _ => none
  | n + 1, s => do
    let (first, rest) ← readLogicOperand n s
    let (more, left) ← readJunctions n rest
    some (arrange (· = LogicOp.and) (fun op l r => .ofTerm (.logic op l r)) none first more, left)

def readJunctions : Nat → Reader (List (LogicOp × Expr))
  | 0, s => some ([], s)
  | n + 1, s =>
    let first := do
      let (op, rest) ← readJunction s
      let (e, rest) ← readLogicOperand n rest
      some ((op, e), rest)
    match first with
    | none => some ([], s)
    | some (operand, rest) => (readJunctions n rest).map fun (es, left) => (operand :: es, left)

end

/-! ### Readers with a budget of their own -/

/-- More steps than reading a text can take. -/
def budgetFor (s : List Char) : Nat := 24 * (s.length + 2)

/-- Any expression or list. -/
def readExpression (s : List Char) : Option (Expr × List Char) := readArgument (budgetFor s) s

/-- Any expression but a list. -/
def readCondition (s : List Char) : Option (Expr × List Char) := readLogic (budgetFor s) s

/-- What a loop goes through. -/
def readContainer (s : List Char) : Option (Expr × List Char) :=
  readFiltered (budgetFor s) s <|> readList (budgetFor s) s

/-- A filter for a body. -/
def readFilter (s : List Char) : Option (Call × List Char) :=
  readCall (budgetFor s) s <|> ((readName s).map fun (name, left) => (.mk name [], left))

/-- A default of a parameter. -/
def readDefault (s : List Char) : Option (Term × List Char) :=
  ((readBool s).map fun (b, rest) => (.bool b, rest)) <|>
  ((readText s).map fun (text, rest) => (.text text, rest)) <|>
  ((readFloat s).map fun (x, rest) => (.float x, rest)) <|>
  ((readInt s).map fun (i, rest) => (.int i, rest))

end Scribe.Template
