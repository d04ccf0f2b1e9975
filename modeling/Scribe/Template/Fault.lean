import Scribe.Template.Syntax

/-!
# Faults of templates

Why rendering a template stops.  A fault can have another fault as its cause; `Fault.chain` is
what is said of it, its own text first and that of its last cause at the end.
-/

namespace Scribe.Template

/-- What can be called by name. -/
inductive Callable where
  | filter
  | function
  | test
  deriving Repr, DecidableEq

def Callable.title : Callable → String
  | filter => "Filter"
  | function => "Function"
  | test => "Test"

/-- Why a call fails. -/
inductive CallFault where
  /-- A filter is used on a value of another kind than the one it is for. -/
  | value (filter : String) (got : String) (kind : String)
  /-- An argument is of another kind than the one it has to be. -/
  | argument (filter : String) (name : String) (got : String) (kind : String)
  /-- A case conversion is used on something else than a text. -/
  | conversion (filter : String) (got : String)
  | lengthOf
  | missingReplaceArgument (name : String)
  | missingMapAttribute
  | missingGetKey
  | unknownGetKey (key : String)
  | getFrom
  | testArguments (test : String)
  | tooManyTestArguments (test : String) (count : Nat) (limit : Nat)
  | undefinedTested (test : String)
  /-- What a test is given is no text; `part` says what is meant. -/
  | testedText (test : String) (part : String)
  /-- An argument of a function is no number of the kind that it has to be. -/
  | numberArgument (function : String) (name : String) (got : String) (what : String)
  | missingRangeEnd
  | rangeOrder
  | missingRandomEnd
  /-- There is no number to choose from. -/
  | randomOrder
  | thrown (message : String)
  | throwArgument (got : String)
  | missingThrowMessage
  deriving Repr, DecidableEq

def CallFault.message : CallFault → String
  | value filter got kind =>
    "Filter `" ++ filter ++ "` was called on an incorrect value: got `" ++ got ++
      "` but expected a " ++ kind
  | argument filter name got kind =>
    "Filter `" ++ filter ++ "` received an incorrect type for arg `" ++ name ++ "`: got `" ++ got ++
      "` but expected " ++ kind
  | conversion filter got => filter ++ " filter expects a string, got " ++ got
  | lengthOf =>
    "Filter `length` was used on a value that isn't an array, an object, or a string."
  | missingReplaceArgument name => "Filter `replace` expected an arg called `" ++ name ++ "`"
  | missingMapAttribute => "The `map` filter has to have an `attribute` argument"
  | missingGetKey => "The `get` filter has to have an `key` argument"
  | unknownGetKey key => "Filter `get` tried to get key `" ++ key ++ "` but it wasn't found"
  | getFrom => "Filter `get` was used on a value that isn't an object"
  | testArguments test =>
    "Tester `" ++ test ++ "` was called with some args but this test doesn't take args"
  | tooManyTestArguments test count limit =>
    "Tester `" ++ test ++ "` was called with " ++ toString count ++ " args, the max number is " ++
      toString limit
  | undefinedTested test => "Tester `" ++ test ++ "` was called on an undefined variable"
  | testedText test part =>
    "Tester `" ++ test ++ "` was called " ++ part ++ " that isn't a string"
  | numberArgument function name got what =>
    "Function `" ++ function ++ "` received " ++ name ++ "=" ++ got ++ " but `" ++ what ++
      "` can only be a number"
  | missingRangeEnd => "Function `range` was called without a `end` argument"
  | rangeOrder =>
    "Function `range` was called with a `start` argument greater than the `end` one"
  | missingRandomEnd => "Function `get_random` was called without an `end` argument"
  | randomOrder => "cannot sample empty range"
  | thrown message => message
  | throwArgument got =>
    "Function `throw` received message=" ++ got ++ " but `message` can only be a string"
  | missingThrowMessage => "Function `throw` was called without a `message` argument"

/-- Why rendering stops. -/
inductive Fault where
  | unknownVariable (way : String) (file : String)
  /-- A way through brackets leads nowhere. -/
  | unknownPart (way : String) (file : String) (evaluated : String)
  | unknownIndex (way : String) (cause : Fault)
  | indexKind (inner : String) (way : String)
  | unknown (kind : Callable) (name : String)
  | failed (kind : Callable) (name : String) (cause : Fault)
  | call (fault : CallFault)
  | concatVariable (way : String)
  | concatCall (name : String)
  | missingDefault
  /-- Arithmetic fails; only what its fault says itself is passed on. -/
  | arith (cause : Fault)
  | overflow (left : Int) (sign : String) (right : Int)
  | zeroModulus (left : String) (right : String)
  | notNumber
  | variableNotNumber (way : String)
  | callNotNumber (name : String)
  /-- An operand of arithmetic is no number; `operand` says what it is. -/
  | operand (operand : String)
  | comparedNoNumber
  | callNotTruth (name : String)
  | membershipInText (item : String)
  | membershipInRecord (item : String)
  | membershipKind
  | loopContainer (container : String)
  | loopWithKey (container : String)
  | loopWithoutKey (container : String)
  | loopKind (container : String)
  | unknownSpace (space : String) (file : String)
  | unknownSnippet (space : String) (name : String) (file : String)
  | missingArgument (snippet : String) (argument : String)
  | unknownFile (file : String)
  | insertedExtends (file : String)
  | nothingReplaced
  /-- A loop is left, or gone on with, where there is none; `tag` says which. -/
  | outsideLoop (tag : String)
  /-- Templates call each other without an end. -/
  | endless
  deriving Repr, DecidableEq

namespace Fault

/-- What a fault says itself. -/
def message : Fault → String
  | unknownVariable way file =>
    "Variable `" ++ way ++ "` not found in context while rendering '" ++ file ++ "'"
  | unknownPart way file evaluated =>
    "Variable `" ++ way ++ "` not found in context while rendering '" ++ file ++
      "': the evaluated version was `" ++ evaluated ++ "`. Maybe the index is out of bounds?"
  | unknownIndex way cause =>
    "Variable " ++ way ++ " can not be evaluated because: " ++ cause.message
  | indexKind inner way =>
    "Only variables evaluating to String or Number can be used as index (`" ++ inner ++ "` of `" ++
      way ++ "`)"
  | unknown kind name => kind.title ++ " '" ++ name ++ "' not found"
  | failed kind name _ => kind.title ++ " call '" ++ name ++ "' failed"
  | call fault => fault.message
  | concatVariable way =>
    "Tried to concat a value that is not a string or a number from ident " ++ way
  | concatCall name =>
    "Tried to concat a value that is not a string or a number from function call " ++ name
  | missingDefault => "The `default` filter requires a `value` argument."
  | arith cause => cause.message
  | overflow left sign right =>
    toString left ++ " " ++ sign ++ " " ++ toString right ++ " results in an out of bounds i64"
  | zeroModulus left right => "Tried to do a modulo by zero: " ++ left ++ "/" ++ right
  | notNumber => "Tried to do math with an expression not resulting in a number"
  | variableNotNumber way =>
    "Variable `" ++ way ++ "` was used in a math operation but is not a number"
  | callNotNumber name =>
    "Function `" ++ name ++ "` was used in a math operation but is not returning a number"
  | operand what => "Tried to do math with a " ++ what
  | comparedNoNumber => "Comparison to NaN"
  | callNotTruth name =>
    "Function `" ++ name ++ "` was used in a logic operation but is not returning a bool"
  | membershipInText item =>
    "Tried to check if " ++ item ++ " is in a string, but it isn't a string"
  | membershipInRecord item =>
    "Tried to check if " ++ item ++ " is in a object, but it isn't a string"
  | membershipKind => "The `in` operator only supports strings, arrays and objects."
  | loopContainer container =>
    "Forloop containers have to be an ident or a function call (tried to iterate on '" ++
      container ++ "')"
  | loopWithKey container =>
    "Tried to iterate using key value on variable `" ++ container ++
      "`, but it isn't an object/map"
  | loopWithoutKey container =>
    "Tried to iterate using key value on variable `" ++ container ++ "`, but it is missing a key"
  | loopKind container =>
    "Tried to iterate on a container (`" ++ container ++ "`) that has a unsupported type"
  | unknownSpace space file =>
    "Macro namespace `" ++ space ++ "` was not found in template `" ++ file ++
      "`. Have you maybe forgotten to import it, or misspelled it?"
  | unknownSnippet space name file =>
    "Macro `" ++ space ++ "::" ++ name ++ "` not found in template `" ++ file ++ "`"
  | missingArgument snippet argument =>
    "Macro `" ++ snippet ++ "` is missing the argument `" ++ argument ++ "`"
  | unknownFile file => "Template '" ++ file ++ "' not found"
  | insertedExtends file =>
    "Inheritance in included templates is currently not supported: extended `" ++ file ++ "`"
  | nothingReplaced => "Tried to use super() in the top level block"
  | outsideLoop tag => "Attempted `" ++ tag ++ "` while not in `for loop`"
  | endless => "Templates call each other without an end"

/-- What is said of a fault and of its causes. -/
def chain : Fault → List String
  | failed kind name cause => (failed kind name cause).message :: cause.chain
  | fault => [fault.message]

end Fault

end Scribe.Template
