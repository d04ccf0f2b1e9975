import Scribe.Template.Scope

/-!
# What expressions mean

An expression can be asked for its value, for its truth, and for a number, and the three are not
the same question: a condition does not mind a variable that does not exist, and arithmetic does
not take a text for a number.  The meaning of an expression holds the three answers as steps, and
is put together from the meanings of its parts.

The negation of an expression applies to its value and to its truth.  A comparison is asked for
its truth to find its value, so that there its negation applies twice.  The filters of an
expression change its value and a number, but the truth only of a variable or a concatenation.
-/

namespace Scribe.Template

/-! ### Meanings -/

/-- Whether what comes after a node is still rendered. -/
inductive Flow where
  | on
  /-- The loop around ends. -/
  | leave
  /-- The loop around goes on with its next item. -/
  | next
  deriving Repr, DecidableEq

/-- A text, and how the body that gave it ended. -/
abbrev Outcome := String × Flow

/-- The answers that an expression can give. -/
structure Meaning where
  value : Run Value
  truth : Run Bool
  /-- Nothing for a result of arithmetic that is no number. -/
  number : Run (Option Number)

/-- What decides how the meaning of a term becomes that of an expression. -/
inductive TermKind where
  | variable
  | logic
  | concat
  | other
  deriving DecidableEq

/-- The answers of a term; its truth is nothing where a comparison has no answer, which is false
whether negated or not. -/
structure TermMeaning where
  kind : TermKind
  value : Run Value
  truth : Run (Option Bool)
  number : Run (Option Number)

/-- A call with the meanings of its arguments. -/
structure CallMeaning where
  name : String
  args : List (String × Meaning)

/-- What expressions refer to. -/
structure Surroundings where
  library : Library
  /-- The file that is rendered. -/
  file : String
  /-- The values that the caller gives. -/
  given : List (String × Value)
  /-- Renders a body that is not part of the one at hand. -/
  render : List Node → Run Outcome

/-- The file whose layout is filled in, which is the rendered one if it has no parent. -/
def Surroundings.root (s : Surroundings) : String :=
  ((s.library.parents s.file).getLast?).getD s.file

/-! ### Calls -/

/-- The values of named arguments; of two with one name the last counts. -/
def argumentValues (kind : Callable) (name : String) :
    List (String × Meaning) → Run Arguments
  | [] => pure []
  | (key, m) :: rest => do
    let v ← Run.asPartOf kind name m.value
    let others ← argumentValues kind name rest
    return if (others.lookup key).isSome then others else (key, v) :: others

def CallMeaning.asFilter (c : CallMeaning) (v : Value) : Run Value :=
  match filter? c.name with
  | none => throw (.unknown .filter c.name)
  | some f => do
    let args ← argumentValues .filter c.name c.args
    Run.ofCall .filter c.name (f v args)

def CallMeaning.asFunction (c : CallMeaning) : Run Value :=
  match function? c.name with
  | none => throw (.unknown .function c.name)
  | some f => do
    let args ← argumentValues .function c.name c.args
    Run.ofCall .function c.name (f (← Run.random) args)

/-- A value after filters; two names among them do not stand for filters. -/
def applyFilters (v : Value) : List CallMeaning → Run Value
  | [] => pure v
  | c :: rest => do
    if c.name = "safe" || c.name = "default" then applyFilters v rest
    else applyFilters (← c.asFilter v) rest

/-! ### From terms to expressions -/

/-- The default that an expression gives, if its first filter is one. -/
def defaultOf? (filters : List CallMeaning) : Option (Run Value) :=
  match filters with
  | c :: _ =>
    if c.name = "default" then
      some (match c.args.reverse.lookup "value" with
        | some m => m.value
        | none => throw .missingDefault)
    else none
  | [] => none

/-- The value of a variable that may not exist: a default stands for it, and a negation makes up
for it without any filter. -/
def variableValue (lookup : Run Value) (negated : Bool) (filters : List CallMeaning) :
    Run Value := do
  let finish (v : Value) : Run Value := do
    let v ← applyFilters v filters
    return if negated then .bool (!v.truthy) else v
  match ← lookup.attempt with
  | .ok v => finish v
  | .error e =>
    match defaultOf? filters with
    | some default => finish (← default)
    | none => if negated then return .bool true else throw e

/-- The truth of a term, negated if the expression is. -/
def negatedTruth (t : TermMeaning) (negated : Bool) : Run Bool := do
  match ← t.truth with
  | none => return false
  | some b => return if negated then !b else b

def expressionValue (t : TermMeaning) (negated : Bool) (filters : List CallMeaning) :
    Run Value := do
  match t.kind with
  | .variable => variableValue t.value negated filters
  | kind =>
    let v ← if kind = .logic then Value.bool <$> negatedTruth t negated else t.value
    let v ← applyFilters v filters
    return if negated then .bool (!v.truthy) else v

/-- The meaning of an expression. -/
def TermMeaning.toMeaning (t : TermMeaning) (negated : Bool) (filters : List CallMeaning) :
    Meaning where
  value := expressionValue t negated filters
  truth :=
    match t.kind with
    | .variable => do
      match ← (expressionValue t negated filters).attempt with
      | .ok v => return v.truthy
      | .error _ => return false
    | .concat => Value.truthy <$> expressionValue t negated filters
    | _ => negatedTruth t negated
  number :=
    if filters.isEmpty then t.number
    else do
      match ← expressionValue t negated filters with
      | .number n => return some n
      | _ => throw .notNumber

/-! ### Terms -/

/-- A term with a value that decides its truth, and that is no operand of arithmetic. -/
def plainTerm (value : Run Value) (operand : Fault) : TermMeaning where
  kind := .other
  value := value
  truth := do return some (← value).truthy
  number := throw operand

def numberTerm (n : Number) : TermMeaning where
  kind := .other
  value := pure (.number n)
  truth := pure (some (!n.isZero))
  number := pure (some n)

def variableTerm (written : String) (lookup : Run Value) : TermMeaning where
  kind := .variable
  value := lookup
  truth := do return some (← lookup).truthy
  number := do
    match ← lookup with
    | .number n => return some n
    | _ => throw (.variableNotNumber written)

/-- Arithmetic on two numbers; `left` and `right` are the operands as they were written. -/
def arithmetic (op : ArithOp) (l r : Meaning) (left right : Expr) : Run (Option Number) := do
  let a ← l.number
  let b ← r.number
  match a, b with
  | some a, some b =>
    match Number.apply op a b with
    | .ok n => pure n
    | .error (.overflow i sign j) => throw (.overflow i sign j)
    | .error .zeroModulus => throw (.zeroModulus left.describe right.describe)
  | _, _ => return none

def arithTerm (n : Run (Option Number)) : TermMeaning where
  kind := .other
  value := do
    match ← n.attempt with
    | .ok (some n) => return .number n
    | .ok none => return .text "NaN"
    | .error e => throw (.arith e)
  truth := do return some ((← n).any (!·.isZero))
  number := n

/-- The truth of a comparison or junction. -/
def logicTruth (op : LogicOp) (l r : Meaning) : Run (Option Bool) := do
  let order (holds : Float → Float → Bool) : Run (Option Bool) := do
    let a ← l.number
    let b ← r.number
    match a, b with
    | some a, some b => return some (holds a.toFloat b.toFloat)
    | _, _ => throw .comparedNoNumber
  let equality (positive : Bool) : Run (Option Bool) := do
    let a ← l.value
    let b ← r.value
    return (a.equal? b).map (· == positive)
  match op with
  | .or => if ← l.truth then return some true else some <$> r.truth
  | .and => if ← l.truth then some <$> r.truth else return some false
  | .gt => order fun a b => b < a
  | .ge => order fun a b => b ≤ a
  | .lt => order fun a b => a < b
  | .le => order fun a b => a ≤ b
  | .eq => equality true
  | .ne => equality false

def logicTerm (truth : Run (Option Bool)) : TermMeaning where
  kind := .logic
  value := do return .bool ((← truth).getD false)
  truth := truth
  number := throw .notNumber

/-- Whether a list of characters is somewhere in another one. -/
def isWithin (part whole : List Char) : Bool :=
  part.isPrefixOf whole ||
    match whole with
    | [] => false
    | _ :: rest => isWithin part rest

/-- Whether a value is in a container. -/
def membership (item container : Value) : Run Bool :=
  match container, item with
  | .list items, item => return items.any (·.same item)
  | .text s, .text part => return isWithin part.toList s.toList
  | .text _, item => throw (.membershipInText item.describe)
  | .record fields, .text key => return (fields.lookup key).isSome
  | .record _, item => throw (.membershipInRecord item.describe)
  | _, _ => throw .membershipKind

/-- The truth of a test of a variable. -/
def testTruth (name : String) (negated : Bool) (lookup : Run Value) (args : List Meaning) :
    Run Bool :=
  match test? name with
  | none => throw (.unknown .test name)
  | some f => do
    let args ← args.mapM fun m => Run.asPartOf .test name m.value
    let found := (← lookup.attempt).toOption
    let holds ← Run.ofCall .test name (f found args)
    return holds != negated

def callTerm (c : CallMeaning) : TermMeaning where
  kind := .other
  value := c.asFunction
  truth := do
    match ← c.asFunction with
    | .bool b => return some b
    | _ => throw (.callNotTruth c.name)
  number := do
    match ← c.asFunction with
    | .number n => return some n
    | _ => throw (.callNotNumber c.name)

/-- What a part of a concatenation adds to it. -/
def concatPart (t : Term) (value : Run Value) : Run String := do
  match t, ← value with
  | .text s, _ => return s
  | .variable _, .text s => return s
  | .variable _, .number n => return n.write Number.dataStyle
  | .variable way, _ => throw (.concatVariable way.written)
  | .call _, .text s => return s
  | .call _, .number n => return n.write Number.dataStyle
  | .call c, _ => throw (.concatCall c.name)
  | _, v => return v.output

/-! ### Snippets -/

/-- The file whose snippets can be called. -/
def callingFile (s : Surroundings) (scope : Scope) : String :=
  match scope.blocks with
  | entry :: _ => entry.file
  | [] => if s.file = s.root then scope.file else s.root

/-- The snippet with a name, and its file. -/
def findSnippet (s : Surroundings) (space name : String) : Run (String × Snippet) := do
  let file := callingFile s (← get)
  match (s.library.spaces file).find? (·.name = space) with
  | none => throw (.unknownSpace space file)
  | some found =>
    match found.snippets.find? (·.name = name) with
    | none => throw (.unknownSnippet space name file)
    | some snippet => return (found.file, snippet)

/-- The value of a default. -/
def defaultValue : Term → Value
  | .text s => .text s
  | .int i => .number (.int i)
  | .float x => .number (.float x)
  | .bool b => .bool b
  | _ => .text ""

/-- The variables that a snippet starts with. -/
def bindParameters (snippet : String) (args : List (String × Meaning)) :
    List Parameter → Run (List (String × Value))
  | [] => pure []
  | p :: rest => do
    let v ←
      match args.reverse.lookup p.name with
      | some m => m.value
      | none =>
        match p.default with
        | some t => pure (defaultValue t)
        | none => throw (.missingArgument snippet p.name)
    return (p.name, v) :: (← bindParameters snippet args rest)

/-- What a snippet gives. -/
def callSnippet (s : Surroundings) (space name : String) (args : List (String × Meaning)) :
    Run Value := do
  let (file, snippet) ← findSnippet s space name
  let locals ← bindParameters snippet.name args snippet.parameters
  Run.push ⟨.snippet space name, file, locals.reverse⟩
  let (text, _) ← s.render snippet.body
  Run.pop
  return .text text

/-! ### The meaning of expressions -/

mutual

def Expr.meaning (s : Surroundings) : Expr → Meaning
  | .mk t negated filters => (t.meaning s).toMeaning negated (callMeanings s filters)

def Term.meaning (s : Surroundings) : Term → TermMeaning
  | .text text =>
    plainTerm (pure (.text text)) (.operand ("string: `" ++ text ++ "`"))
  | .int i => numberTerm (.int i)
  | .float x => numberTerm (.float x)
  | .bool b => plainTerm (pure (.bool b)) (.operand ("boolean: `" ++ toString b ++ "`"))
  | .variable way => variableTerm way.written (way.value s.given)
  | .arith op l r =>
    arithTerm (arithmetic op (l.meaning s) (r.meaning s) l r)
  | .logic op l r => logicTerm (logicTruth op (l.meaning s) (r.meaning s))
  | .test way negated name args =>
    plainTerm
      (do return .bool (← testTruth name negated (way.value s.given) (exprMeanings s args)))
      (.operand ("test: " ++ name))
  | .snippet space name args => plainTerm (callSnippet s space name (argMeanings s args)) .notNumber
  | .call c => callTerm (c.meaning s)
  | .list items => plainTerm (listValue s items) .notNumber
  | .concat parts =>
    { plainTerm (do return .text (← concatValue s parts))
        (.operand ("string concatenation: " ++ concatText parts)) with kind := .concat }
  | .within item container negated =>
    plainTerm
      (do
        let item ← (item.meaning s).value
        let container ← (container.meaning s).value
        return .bool ((← membership item container) != negated))
      .notNumber

def Call.meaning (s : Surroundings) : Call → CallMeaning
  | .mk name args => ⟨name, argMeanings s args⟩

def argMeanings (s : Surroundings) : List (String × Expr) → List (String × Meaning)
  | [] => []
  | (name, e) :: rest => (name, e.meaning s) :: argMeanings s rest

def exprMeanings (s : Surroundings) : List Expr → List Meaning
  | [] => []
  | e :: rest => e.meaning s :: exprMeanings s rest

def callMeanings (s : Surroundings) : List Call → List CallMeaning
  | [] => []
  | c :: rest => c.meaning s :: callMeanings s rest

def listValue (s : Surroundings) : List Expr → Run Value
  | items => do return .list (← (exprMeanings s items).mapM (·.value))

def concatValue (s : Surroundings) : List Term → Run String
  | [] => pure ""
  | t :: rest => do
    let part ← concatPart t (t.meaning s).value
    return part ++ (← concatValue s rest)

end

end Scribe.Template
