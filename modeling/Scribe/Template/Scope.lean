import Scribe.Template.Fault
import Scribe.Template.Library
import Scribe.Template.Vocabulary

/-!
# Scopes

Where a template finds its variables.  Frames lie on each other: the innermost one is searched
first, and nothing is searched below a snippet or the template itself except what the caller
gives.  Loops and inserted templates see the frames around them.

The scope stays as it was when rendering stops at a fault, because where that happened is part of
the report.
-/

namespace Scribe.Template

/-! ### Frames -/

/-- What a loop is at. -/
structure LoopPoint where
  item : String
  /-- The current item; a text is gone through once for each of its code points, and has no items
  left where some of these are characters together. -/
  value : Option Value
  /-- The name for keys and the current key, if the loop goes through a record. -/
  key : Option (String × String)
  index : Nat
  count : Nat

/-- What a frame was opened for. -/
inductive FrameKind where
  | whole
  | inserted
  | snippet (space name : String)
  | loop (point : LoopPoint)

structure Frame where
  kind : FrameKind
  /-- The file that messages name. -/
  file : String
  locals : List (String × Value)

def FrameKind.isLoop : FrameKind → Bool
  | loop _ => true
  | _ => false

/-- Whether the frames below are hidden. -/
def FrameKind.isFloor : FrameKind → Bool
  | whole | snippet .. => true
  | _ => false

/-- What a loop says of itself: everything under the name `loop`. -/
def LoopPoint.own? (p : LoopPoint) (way : String) : Option Value :=
  match way with
  | "loop.index" => some (.ofNat (p.index + 1))
  | "loop.index0" => some (.ofNat p.index)
  | "loop.first" => some (.bool (p.index = 0))
  | "loop.last" => some (.bool (p.index + 1 = p.count))
  | _ => none

/-- The first name of a way, and what follows its first dot. -/
def splitWay (way : String) : String × Option String :=
  let s := way.toList
  (String.ofList (s.takeWhile (· ≠ '.')),
    match s.dropWhile (· ≠ '.') with
    | [] => none
    | _ :: rest => some (String.ofList rest))

/-- What a loop gives to its body: the key first, then what it says of itself, then the item. -/
def LoopPoint.find? (p : LoopPoint) (way : String) : Option Value :=
  match p.key.filter (·.1 = way) with
  | some (_, key) => some (.text key)
  | none =>
    let (name, rest) := splitWay way
    if name = "loop" then p.own? way
    else if name = p.item then p.value.bind fun v => rest.elim (some v) v.atWay?
    else none

/-- What a way leads to from some named values. -/
def findAmong? (values : List (String × Value)) (way : String) : Option Value :=
  let (name, rest) := splitWay way
  (values.lookup name).bind fun v => rest.elim (some v) v.atWay?

def Frame.find? (f : Frame) (way : String) : Option Value :=
  findAmong? f.locals way <|>
    match f.kind with
    | .loop point => point.find? way
    | _ => none

/-- The names that a frame gives values to; those of a loop count before its variables. -/
def Frame.named (f : Frame) : List (String × Value) :=
  match f.kind with
  | .loop p =>
    (p.key.map fun (name, key) => (name, Value.text key)).toList ++
      (p.value.map fun v => (p.item, v)).toList ++ f.locals
  | _ => f.locals

/-! ### Scopes -/

/-- A block that was entered. -/
structure BlockEntry where
  name : String
  /-- The file that its body comes from. -/
  file : String
  /-- How many parents up that file is. -/
  level : Nat

/-- The frames and the blocks that were entered, innermost and last first. -/
structure Scope where
  frames : List Frame
  blocks : List BlockEntry
  /-- What the next random number is made of. -/
  seed : Nat

/-- Steps of rendering. -/
abbrev Run := ExceptT Fault (StateM Scope)

namespace Scope

/-- The file that messages name. -/
def file (s : Scope) : String := (s.frames.head?.map (·.file)).getD ""

/-- What a way leads to from the frames that can be seen. -/
def findInFrames? (way : String) : List Frame → Option Value
  | [] => none
  | f :: rest =>
    match f.find? way with
    | some v => some v
    | none => if f.kind.isFloor then none else findInFrames? way rest

/-- What a way leads to from the frames, or else from the given values. -/
def find? (s : Scope) (given : List (String × Value)) (way : String) : Option Value :=
  findInFrames? way s.frames <|> findAmong? given way

/-- All that has a name, as far as a snippet sees it.  Unlike where a way is followed, an outer
frame comes before the ones in it, whose names are `inner`, and what the caller gives comes last. -/
def named (given inner : List (String × Value)) : List Frame → List (String × Value)
  | [] => inner ++ given
  | f :: rest =>
    match f.kind with
    | .snippet .. => f.named ++ inner
    | _ => named given (f.named ++ inner) rest

/-- The first of the values with each name. -/
def firstOfEach : List (String × Value) → List (String × Value)
  | [] => []
  | (name, v) :: rest => (name, v) :: (firstOfEach rest).filter (·.1 ≠ name)

/-- The data form of all that has a name. -/
def dump (s : Scope) (given : List (String × Value)) : String :=
  (Value.ofFields (firstOfEach (named given [] s.frames))).pretty ""

/-- Sets a variable of the innermost frame. -/
def assignIn (name : String) (value : Value) : List Frame → List Frame
  | [] => []
  | f :: rest =>
    { f with locals := (name, value) :: f.locals.filter (·.1 ≠ name) } :: rest

/-- Sets a variable of the innermost frame that is no loop. -/
def assignOutside (name : String) (value : Value) : List Frame → List Frame
  | [] => []
  | f :: rest =>
    if f.kind.isLoop then f :: assignOutside name value rest
    else assignIn name value (f :: rest)

end Scope

/-! ### Steps on scopes -/

namespace Run

def onScope (change : Scope → Scope) : Run Unit := modify change

def push (f : Frame) : Run Unit := onScope fun s => { s with frames := f :: s.frames }

def pop : Run Unit := onScope fun s => { s with frames := s.frames.tail }

def assign (name : String) (outside : Bool) (value : Value) : Run Unit :=
  onScope fun s =>
    { s with
      frames :=
        if outside then Scope.assignOutside name value s.frames
        else Scope.assignIn name value s.frames }

/-- The next random number. -/
def random : Run Nat := do
  let seed := (6364136223846793005 * (← get).seed + 1442695040888963407) % 18446744073709551616
  onScope fun s => { s with seed }
  return seed / 65536

/-- The outcome of a step instead of a fault. -/
def attempt {α : Type} (r : Run α) : Run (Except Fault α) := fun s =>
  let (outcome, s) := r s
  (.ok outcome, s)

/-- A call of something in the vocabulary. -/
def ofCall {α : Type} (kind : Callable) (name : String) (r : Except CallFault α) : Run α :=
  match r with
  | .ok a => pure a
  | .error e => throw (.failed kind name (.call e))

/-- A step whose fault is the cause of the failure of a call. -/
def asPartOf {α : Type} (kind : Callable) (name : String) (r : Run α) : Run α := do
  match ← r.attempt with
  | .ok a => pure a
  | .error e => throw (.failed kind name e)

end Run

/-! ### Brackets -/

/-- Whether a text is an index. -/
def isIndex (s : List Char) : Bool :=
  let digits := if s.head? = some '+' then s.drop 1 else s
  digits ≠ [] && digits.all Char.isDigit && natOfDigits digits ≤ 18446744073709551615

/-- How far the reading of a way's brackets is. -/
inductive BracketState where
  | outside
  /-- Right after a bracket. -/
  | opened
  /-- So many further brackets are open; then the characters held so far, the last one first. -/
  | inside (deeper : Nat) (held : List Char)

/-- What stands in the brackets of a way and is neither an index nor a text in quotes.  Quotes are
only looked at right after a bracket. -/
def bracketed : BracketState → List Char → List (List Char)
  | _, [] => []
  | .outside, c :: rest => bracketed (if c = '[' then .opened else .outside) rest
  | .opened, c :: rest =>
    bracketed (if c = '"' || c = '\'' then .outside else .inside 0 [c]) rest
  | .inside 0 held, ']' :: rest =>
    if isIndex held.reverse then bracketed .outside rest
    else held.reverse :: bracketed .outside rest
  | .inside (n + 1) held, ']' :: rest => bracketed (.inside n (']' :: held)) rest
  | .inside n held, c :: rest =>
    bracketed (.inside (if c = '[' then n + 1 else n) (c :: held)) rest

/-- A text with another one in place of the first occurrence of a third, or at its end if there is
none. -/
def replaceFirst (old new : List Char) : List Char → List Char
  | [] => new
  | c :: rest =>
    if old.isPrefixOf (c :: rest) then new ++ (c :: rest).drop old.length
    else c :: replaceFirst old new rest

/-- A way without brackets: every step stands after a dot, and texts in quotes. -/
def withoutBrackets (way : List Char) : List Char :=
  let change (way : List Char) (p : String × String) := replace p.1.toList p.2.toList way
  let changes :=
    [("/", "~1"), ("['", ".\""), ("[\"", ".\""), ("[", "."), ("']", "\""), ("\"]", "\""), ("]", "")]
  changes.foldl change way

/-! ### Looking variables up -/

/-- The form in which a value stands in an evaluated way. -/
def indexText? : Value → Option String
  | .text s => some ("\"" ++ s ++ "\"")
  | .number n => some (n.write Number.dataStyle)
  | _ => none

/-- A way with what its brackets hold looked up, one bracket after the other. -/
def evaluateWay (find : String → Run Value) (way : String) (current : List Char) :
    List (List Char) → Run String
  | [] => pure (String.ofList (withoutBrackets current))
  | inner :: more => do
    match ← (find (String.ofList inner)).attempt with
    | .error e => throw (.unknownIndex way e)
    | .ok v =>
      match indexText? v with
      | none => throw (.indexKind (String.ofList inner) way)
      | some s =>
        let old := '[' :: inner ++ [']']
        evaluateWay find way (replaceFirst old ('.' :: s.toList) current) more

/-- The value that a way leads to, with brackets within brackets at most so deep. -/
def wayValue (given : List (String × Value)) : Nat → String → Run Value
  | 0, way => do throw (.unknownVariable way (← get).file)
  | depth + 1, way => do
    let scope ← get
    if way.toList.any (· = '[') then
      let parts := bracketed .outside way.toList
      let evaluated ← evaluateWay (wayValue given depth) way way.toList parts
      match scope.find? given evaluated with
      | some v => pure v
      | none => throw (.unknownPart way scope.file evaluated)
    else
      match scope.find? given way with
      | some v => pure v
      | none => throw (.unknownVariable way scope.file)

/-- The variable that stands for all others. -/
def dumpName : String := "__tera_context"

/-- The value that a way leads to. -/
def Way.value (given : List (String × Value)) (way : Way) : Run Value := do
  if way.written = dumpName then return .text ((← get).dump given)
  else wayValue given (way.written.length + 1) way.written

end Scribe.Template
