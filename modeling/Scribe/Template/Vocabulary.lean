import Scribe.Template.Fault
import Scribe.Text.Blank
import Scribe.Text.Cluster
import Scribe.Text.Words

/-!
# The vocabulary of templates

The filters, tests and functions that a template can call by name.  Each one takes values only, so
what it does depends on nothing else.
-/

namespace Scribe.Template

open Scribe.Text

/-- The named arguments of a call. -/
abbrev Arguments := List (String × Value)

/-! ### Kinds of values -/

/-- The value of a filter that is for texts. -/
def textOf (filter : String) (v : Value) : Except CallFault String :=
  match v with
  | .text s => .ok s
  | v => .error (.value filter v.data "String")

/-- The value of a filter that is for lists. -/
def listOf (filter : String) (v : Value) : Except CallFault (List Value) :=
  match v with
  | .list items => .ok items
  | v => .error (.value filter v.data "Vec<Value>")

/-- An argument that has to be a text. -/
def textArgument (filter name : String) (v : Value) : Except CallFault String :=
  match v with
  | .text s => .ok s
  | v => .error (.argument filter name v.data "a String")

/-- The natural number that a value is. -/
def nat? : Value → Option Nat
  | .number (.int i) => if 0 ≤ i then some i.toNat else none
  | _ => none

/-- A filter that changes texts. -/
def onText (filter : String) (change : List Char → List Char) (v : Value) :
    Except CallFault Value :=
  (textOf filter v).map fun s => .text (String.ofList (change s.toList))

/-! ### Changes of texts -/

/-- The first character in upper case, the others in lower case. -/
def capitalize : List Char → List Char
  | [] => []
  | c :: rest => upper c ++ lowerText rest

/-- A character of a word, or an apostrophe in one. -/
def inWord (c : Char) : Bool := isWordPart c || c = '\''

/-- A run of word characters and apostrophes as part of a title: the first letter in upper case and
the others in lower case.  The apostrophes around a word are not part of it. -/
def titleRun (run : List Char) : List Char :=
  let quotes := run.takeWhile (· = '\'')
  let word := run.dropWhile (· = '\'')
  let back := word.reverse.takeWhile (· = '\'')
  match word.take (word.length - back.length) with
  | [] => run
  | c :: rest => quotes ++ upper c ++ lowerText rest ++ back

/-- Every word with its first letter in upper case; `run` is the current run, last character
first. -/
def titleFrom (run : List Char) : List Char → List Char
  | [] => titleRun run.reverse
  | c :: rest =>
    if inWord c then titleFrom (c :: run) rest
    else titleRun run.reverse ++ c :: titleFrom [] rest

def title (s : List Char) : List Char := titleFrom [] s

/-- A text with one text in place of another wherever it stands, from the left.  In place of an
empty text, something stands around every character. -/
def replaceFrom (old new : List Char) (skip : Nat) : List Char → List Char
  | [] => if old = [] then new else []
  | c :: rest =>
    match skip with
    | n + 1 => replaceFrom old new n rest
    | 0 =>
      if old = [] then new ++ c :: replaceFrom old new 0 rest
      else if old.isPrefixOf (c :: rest) then new ++ replaceFrom old new (old.length - 1) rest
      else c :: replaceFrom old new 0 rest

def replace (old new s : List Char) : List Char := replaceFrom old new 0 s

/-- A text cut after some characters, with an end put on what was cut. -/
def truncate (limit : Nat) (ending : List Char) (s : List Char) : List Char :=
  let parts := clusters s
  if parts.length ≤ limit then s else (parts.take limit).flatten ++ ending

/-! ### Filters -/

def lengthFilter (v : Value) : Except CallFault Value :=
  match v with
  | .list items => .ok (.ofNat items.length)
  | .record fields => .ok (.ofNat fields.length)
  | .text s => .ok (.ofNat s.length)
  | _ => .error .lengthOf

def reverseFilter (v : Value) : Except CallFault Value :=
  match v with
  | .list items => .ok (.list items.reverse)
  | .text s => .ok (.text (String.ofList s.toList.reverse))
  | v => .error (.argument "reverse" "value" v.data "Array|String")

def replaceFilter (v : Value) (args : Arguments) : Except CallFault Value := do
  let s ← textOf "replace" v
  let argument (name : String) : Except CallFault String :=
    match args.lookup name with
    | some a => textArgument "replace" name a
    | none => .error (.missingReplaceArgument name)
  let old ← argument "from"
  let new ← argument "to"
  return .text (String.ofList (replace old.toList new.toList s.toList))

def truncateFilter (v : Value) (args : Arguments) : Except CallFault Value := do
  let s ← textOf "truncate" v
  let limit ←
    match args.lookup "length" with
    | none => .ok 255
    | some a =>
      match nat? a with
      | some n => .ok n
      | none => .error (.argument "truncate" "length" a.data "a usize")
  let ending ←
    match args.lookup "end" with
    | none => .ok "…"
    | some a => textArgument "truncate" "end" a
  return .text (String.ofList (truncate limit ending.toList s.toList))

/-- A part of each item of a list; items without it are left out. -/
def mapFilter (v : Value) (args : Arguments) : Except CallFault Value := do
  let items ← listOf "map" v
  if items.isEmpty then return .list []
  match args.lookup "attribute" with
  | none => .error .missingMapAttribute
  | some a => do
    let way ← textArgument "map" "attribute" a
    return .list (items.filterMap (·.atWay? way))

/-- The outputs of the items of a list, joined.  A separator can have a line feed or a tab spelled
with a backslash. -/
def joinFilter (v : Value) (args : Arguments) : Except CallFault Value := do
  let items ← listOf "join" v
  let separator ←
    match args.lookup "sep" with
    | none => .ok ""
    | some a => textArgument "truncate" "sep" a
  let separator := replace ['\\', 't'] ['\t'] (replace ['\\', 'n'] ['\n'] separator.toList)
  return .text ((String.ofList separator).intercalate (items.map Value.output))

/-- The first item of a list, or an empty text. -/
def firstFilter (v : Value) : Except CallFault Value := do
  return ((← listOf "first" v).head?).getD (.text "")

def getFilter (v : Value) (args : Arguments) : Except CallFault Value :=
  match args.lookup "key" with
  | none => .error .missingGetKey
  | some a => do
    let key ← textArgument "get" "key" a
    match v with
    | .record fields =>
      match fields.lookup key with
      | some found => .ok found
      | none =>
        match args.lookup "default" with
        | some d => .ok d
        | none => .error (.unknownGetKey key)
    | _ => .error .getFrom

/-- A conversion between the spellings of names. -/
def conversion (name : String) (change : List Char → List Char) (v : Value) :
    Except CallFault Value :=
  match v with
  | .text s => .ok (.text (String.ofList (change s.toList)))
  | v => .error (.conversion name v.data)

/-- The filter with a name. -/
def filter? (name : String) : Option (Value → Arguments → Except CallFault Value) :=
  match name with
  | "upper" => some fun v _ => onText name upperText v
  | "lower" => some fun v _ => onText name lowerText v
  | "capitalize" => some fun v _ => onText name capitalize v
  | "title" => some fun v _ => onText name title v
  | "trim" => some fun v _ => onText name trim v
  | "length" => some fun v _ => lengthFilter v
  | "reverse" => some fun v _ => reverseFilter v
  | "replace" => some replaceFilter
  | "truncate" => some truncateFilter
  | "map" => some mapFilter
  | "join" => some joinFilter
  | "first" => some fun v _ => firstFilter v
  | "get" => some getFilter
  | "snake_case" => some fun v _ => conversion name snakeCase v
  | "pascal_case" => some fun v _ => conversion name pascalCase v
  | "camel_case" => some fun v _ => conversion name camelCase v
  | "kebab_case" => some fun v _ => conversion name kebabCase v
  | _ => none

/-! ### Tests -/

/-- Checks that a test is given no more arguments than it takes. -/
def checkCount (test : String) (limit : Nat) (args : List Value) : Except CallFault Unit :=
  if args.length ≤ limit then .ok ()
  else if limit = 0 then .error (.testArguments test)
  else .error (.tooManyTestArguments test args.length limit)

/-- The value of a test that is for variables which exist. -/
def defined (test : String) (v : Option Value) : Except CallFault Value :=
  match v with
  | some v => .ok v
  | none => .error (.undefinedTested test)

def testedText (test part : String) (v : Option Value) : Except CallFault String :=
  match v with
  | some (.text s) => .ok s
  | _ => .error (.testedText test part)

/-- The test with a name, on a variable that may not exist. -/
def test? (name : String) : Option (Option Value → List Value → Except CallFault Bool) :=
  match name with
  | "defined" => some fun v args => do
    checkCount name 0 args
    return v.isSome
  | "undefined" => some fun v args => do
    checkCount name 0 args
    return v.isNone
  | "string" => some fun v args => do
    checkCount name 0 args
    match ← defined name v with
    | .text _ => return true
    | _ => return false
  | "starting_with" => some fun v args => do
    checkCount name 1 args
    let s ← testedText name "on a variable" (some (← defined name v))
    let start ← testedText name "with a parameter" args.head?
    return start.toList.isPrefixOf s.toList
  | _ => none

/-! ### Functions -/

/-- A natural number among the arguments of `range`. -/
def rangeArgument (args : Arguments) (name what : String) : Except CallFault (Option Nat) :=
  match args.lookup name with
  | none => .ok none
  | some a =>
    match nat? a with
    | some n => .ok (some n)
    | none => .error (.numberArgument "range" name a.data what)

/-- The numbers from `start` on in steps of `step`, below `last`. -/
def numbers (start step last : Nat) : List Nat :=
  if step = 0 then []
  else (List.range ((last - start + step - 1) / step)).map fun k => start + k * step

def rangeFunction (args : Arguments) : Except CallFault Value := do
  let start := (← rangeArgument args "start" "start").getD 0
  let step := (← rangeArgument args "step_by" "step").getD 1
  match ← rangeArgument args "end" "end" with
  | none => .error .missingRangeEnd
  | some last =>
    if last < start then .error .rangeOrder
    else .ok (.list ((numbers start step last).map .ofNat))

/-- A whole number among the arguments of `get_random`. -/
def randomArgument (args : Arguments) (name : String) : Except CallFault (Option Int) :=
  match args.lookup name with
  | none => .ok none
  | some (.number (.int i)) => .ok (some i)
  | some a => .error (.numberArgument "get_random" name a.data name)

/-- A number from `start` on and below `last`, chosen by a random one. -/
def randomFunction (random : Nat) (args : Arguments) : Except CallFault Value := do
  let start := (← randomArgument args "start").getD 0
  match ← randomArgument args "end" with
  | none => .error .missingRandomEnd
  | some last =>
    if last ≤ start then .error .randomOrder
    else .ok (.number (.int (start + random % (last - start))))

def throwFunction (args : Arguments) : Except CallFault Value :=
  match args.lookup "message" with
  | some (.text s) => .error (.thrown s)
  | some v => .error (.throwArgument v.data)
  | none => .error .missingThrowMessage

/-- The function with a name, which is given a random number with its arguments. -/
def function? (name : String) : Option (Nat → Arguments → Except CallFault Value) :=
  match name with
  | "range" => some fun _ => rangeFunction
  | "get_random" => some randomFunction
  | "throw" => some fun _ => throwFunction
  | _ => none

end Scribe.Template
