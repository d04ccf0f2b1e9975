import Scribe.Template.Meaning
import Scribe.Text.Cluster

/-!
# Rendering templates

A body is rendered node by node.  What leaves a loop, or goes on with its next item, ends every
body up to that loop, and the text so far stays.

Snippets, inserted files and replaced blocks are bodies that are no part of the one at hand, so
rendering them is no recursion on the template.  It is a number of calls within each other that
has a limit, and a template that goes beyond it is taken to have no end.
-/

namespace Scribe.Template

open Text

/-! ### Loops -/

/-- What messages call the container of a loop. -/
def containerName (e : Expr) : Run String :=
  match e.term with
  | .variable way => return way.written
  | .call c => return c.name
  | .list _ => return "an array literal"
  | t => throw (.loopContainer t.describe)

/-- What a loop goes through: items, with keys if there are any. -/
def loopEntries (container : String) (keyed : Bool) (v : Value) :
    Run (List (Option String × Option Value)) :=
  match v with
  | .list items =>
    if keyed then throw (.loopWithKey container) else return items.map fun v => (none, some v)
  | .text s =>
    if keyed then throw (.loopWithKey container)
    else
      let characters := (clusters s.toList).map fun c => (none, some (.text (String.ofList c)))
      return characters ++ List.replicate (s.length - characters.length) (none, none)
  | .record fields =>
    if keyed then return fields.map fun (k, v) => (some k, some v)
    else throw (.loopWithoutKey container)
  | _ => throw (.loopKind container)

/-- The innermost frame with a loop at another point, and without variables. -/
def moveLoop (point : LoopPoint) : Run Unit :=
  Run.onScope fun s =>
    match s.frames with
    | f :: rest => { s with frames := { f with kind := .loop point, locals := [] } :: rest }
    | [] => s

/-- Renders a body for each entry from `index` on, after the text so far. -/
def renderEntries (key : Option String) (item : String) (count : Nat) (body : Run Outcome)
    (text : String) (index : Nat) : List (Option String × Option Value) → Run String
  | [] => pure text
  | (k, v) :: rest => do
    moveLoop ⟨item, v, key.bind fun name => k.map fun k => (name, k), index, count⟩
    let (more, flow) ← body
    let text := text ++ more
    match flow with
    | .leave => pure text
    | _ => renderEntries key item count body text (index + 1) rest

def renderLoop (s : Surroundings) (key : Option String) (item : String) (container : Expr)
    (body empty : Run Outcome) : Run Outcome := do
  let name ← containerName container
  let v ← (container.meaning s).value
  let entries ← loopEntries name key.isSome v
  match entries with
  | [] => empty
  | (_, first) :: _ => do
    let file := (← get).file
    Run.push ⟨.loop ⟨item, first, none, 0, entries.length⟩, file, []⟩
    let text ← renderEntries key item entries.length body "" 0 entries
    Run.pop
    return (text, .on)

/-- Checks that there is a loop that a tag can end or go on with. -/
def requireLoop (tag : String) : Run Unit := do
  match (← get).frames with
  | f :: _ => if f.kind.isLoop then return () else throw (.outsideLoop tag)
  | [] => throw (.outsideLoop tag)

/-! ### Blocks -/

/-- The nearest of some files that gives a block a body, with how many files come before it. -/
def nearestBlock? (l : Library) (name : String) (level : Nat) :
    List String → Option (BlockEntry × List Node)
  | [] => none
  | file :: rest =>
    match l.block? file name with
    | some body => some (⟨name, file, level⟩, body)
    | none => nearestBlock? l name (level + 1) rest

def enterBlock (entry : BlockEntry) : Run Unit :=
  Run.onScope fun s => { s with blocks := entry :: s.blocks }

def leaveBlock : Run Unit := Run.onScope fun s => { s with blocks := s.blocks.tail }

/-- The body that a block has in the template at hand, or else in its nearest parent that has it.
A block that none of them lists stands for itself. -/
def renderBlock (s : Surroundings) (name : String) (itself : Run Outcome) : Run Outcome := do
  let file := (← get).file
  match nearestBlock? s.library name 0 (file :: s.library.parents file) with
  | none => itself
  | some (entry, body) => do
    enterBlock entry
    s.render body

/-- The body of the block that the block entered last replaces. -/
def renderReplaced (s : Surroundings) : Run Outcome := do
  match (← get).blocks with
  | [] => throw .nothingReplaced
  | last :: _ => do
    let parents := s.library.parents s.file
    match nearestBlock? s.library last.name (last.level + 1) (parents.drop last.level) with
    | none => throw .nothingReplaced
    | some (entry, body) => do
      enterBlock entry
      let outcome ← s.render body
      leaveBlock
      if parents.length ≤ entry.level then leaveBlock
      return outcome

/-! ### Inserted files -/

def renderInserted (s : Surroundings) (files : List String) (optional : Bool) : Run Outcome := do
  match files.findSome? fun file => (s.library.find? file).map (file, ·) with
  | some (file, t) => do
    Run.push ⟨.inserted, file, []⟩
    match t.parent with
    | some layout => throw (.insertedExtends layout)
    | none =>
      let (text, _) ← s.render t.nodes
      Run.pop
      return (text, .on)
  | none =>
    if optional then return ("", .on)
    else throw (.unknownFile ("[" ++ ", ".intercalate files ++ "]"))

/-! ### Nodes -/

/-- Two parts of a body after each other; the second is only rendered if the first does not end
the body. -/
def andThen (first second : Run Outcome) : Run Outcome := do
  let (a, flow) ← first
  match flow with
  | .on => do
    let (b, flow) ← second
    return (a ++ b, flow)
  | flow => return (a, flow)

mutual

def Node.render (s : Surroundings) : Node → Run Outcome
  | .text text | .verbatim text => return (text, .on)
  | .output e => do return ((← (e.meaning s).value).output, .on)
  | .assign name outside value => do
    Run.assign name outside (← (value.meaning s).value)
    return ("", .on)
  | .filtered filter body => do
    let (text, flow) ← renderBody s body
    if filter.name = "safe" then return (text, flow)
    else
      let v ← (filter.meaning s).asFilter (.text text)
      return (v.output, flow)
  | .choice branches otherwise => renderBranches s (renderBody s otherwise) branches
  | .loop key item container body empty =>
    renderLoop s key item container (renderBody s body) (renderBody s empty)
  | .leave => do
    requireLoop "break"
    return ("", .leave)
  | .next => do
    requireLoop "continue"
    return ("", .next)
  | .block name body => renderBlock s name (renderBody s body)
  | .replaced => renderReplaced s
  | .insert files optional => renderInserted s files optional

def renderBody (s : Surroundings) : List Node → Run Outcome
  | [] => return ("", .on)
  | n :: rest => andThen (n.render s) (renderBody s rest)

def renderBranches (s : Surroundings) (otherwise : Run Outcome) : List Branch → Run Outcome
  | [] => otherwise
  | .mk condition body :: rest => do
    if ← (condition.meaning s).truth then renderBody s body
    else renderBranches s otherwise rest

end

/-! ### Templates -/

/-- How many calls may be within each other. -/
def maxCalls : Nat := 10000

/-- Renders a body with at most so many calls within each other. -/
def renderWithin (l : Library) (file : String) (given : List (String × Value)) :
    Nat → List Node → Run Outcome
  | 0, _ => throw .endless
  | calls + 1, body => renderBody ⟨l, file, given, renderWithin l file given calls⟩ body

/-- Where rendering stopped, as the first part of a report. -/
def stoppingPlace (l : Library) (file : String) (scope : Scope) : String :=
  let start := "Failed to render '" ++ file ++ "'"
  let snippet :=
    match scope.frames.head?.map (·.kind) with
    | some (.snippet space name) =>
      ": error while rendering macro `" ++ space ++ "::" ++ name ++ "`"
    | _ => ""
  let parents := l.parents file
  let block :=
    match scope.blocks with
    | entry :: _ =>
      let defining := (file :: parents).filter fun f => (l.block? f entry.name).isSome
      if (l.block? file entry.name).isNone then " (error happened in a parent template)"
      else
        match defining[entry.level]? with
        | some f => if f = file then "" else " (error happened in '" ++ f ++ "')."
        | none => " (error happened in a parent template)"
    | [] =>
      match parents.getLast? with
      | some f => " (error happened in '" ++ f ++ "')."
      | none => ""
  start ++ snippet ++ block

/-- The text of a template of a library, or what is said of the fault at which it stopped.  The
random numbers of the template come from a seed. -/
def Library.render (l : Library) (seed : Nat) (file : String) (given : List (String × Value)) :
    Except String String :=
  let root := (((l.parents file).getLast?).getD file)
  let nodes := ((l.find? root).map (·.nodes)).getD []
  let scope : Scope := ⟨[⟨.whole, file, []⟩], [], seed⟩
  match (renderWithin l file given maxCalls nodes).run.run scope with
  | (.ok (text, _), _) => .ok text
  | (.error e, scope) => .error (": ".intercalate (stoppingPlace l file scope :: e.chain))

end Scribe.Template
