import Scribe.Template.Markup

/-!
# Putting tags together

Tags open and close parts of a template, and parts nest.  The pieces are read once, with a stack
of the parts that are still open.

What a part may hold depends on where it stands.  Blocks are for the template itself, for blocks
and for filtered parts, only loops are left or gone on with, only a block refers to what it
replaces, and a choice may hold what may stand around it.

A dash removes the blanks of the text next to its mark.  There are three exceptions.  What a loop
says for an empty container is kept as it was written, the tags around and in it included, and in
its place the dash of the tag that ends the loop applies to the body before it.  The dashes of a
mark for what a block replaces mean nothing, and a dash before that mark applies to the text after
it.  And comments at the very start of a template are not part of it.
-/

namespace Scribe.Template

open Scribe.Text

/-! ### Open parts -/

/-- A part that is still open, without the nodes that belong to what was opened last. -/
inductive OpenPart where
  /-- A choice, with the branches that are finished, last first, and the condition of the current
  one. -/
  | choice (done : List Branch) (condition : Expr)
  | otherwise (done : List Branch)
  | loop (key : Option String) (item : String) (container : Expr)
  | empty (key : Option String) (item : String) (container : Expr) (body : List Node)
  | block (name : String)
  | snippet (name : String) (parameters : List Parameter)
  | filtered (filter : Call)

/-- Where a part of a template stands. -/
inductive Place where
  | template
  | loop
  | block
  | snippet
  | filtered
  deriving Repr, DecidableEq

namespace OpenPart

def isEmptyCase : OpenPart → Bool
  | empty .. => true
  | _ => false

/-- The place that a part makes, if it is no choice. -/
def place? : OpenPart → Option Place
  | choice .. | otherwise .. => none
  | loop .. | empty .. => some .loop
  | block _ => some .block
  | snippet .. => some .snippet
  | filtered _ => some .filtered

end OpenPart

/-- How far a template has been read. -/
structure Nesting where
  /-- The nodes of the part opened last, last first. -/
  nodes : List Node
  /-- The open parts, innermost first, each with the nodes before it, last first. -/
  outer : List (OpenPart × List Node)
  snippets : List Snippet
  imports : List (String × String)
  /-- Whether the last mark removes the blanks after it. -/
  trimNext : Bool

namespace Nesting

def start : Nesting := ⟨[], [], [], [], false⟩

/-- Whether text is kept as it was written. -/
def keepsText (n : Nesting) : Bool := n.outer.any (·.1.isEmptyCase)

/-- Where the next node stands. -/
def place (n : Nesting) : Place := (n.outer.findSome? (·.1.place?)).getD .template

def add (n : Nesting) (node : Node) : Nesting := { n with nodes := node :: n.nodes }

/-- Opens a part. -/
def push (n : Nesting) (part : OpenPart) : Nesting :=
  { n with nodes := [], outer := (part, n.nodes) :: n.outer }

/-- Whether an output stands for the block that the block around it replaces. -/
def isReplaced (n : Nesting) (content : List Char) : Bool :=
  n.place = .block && (symbol? "super()" content).any fun rest => skipGap rest = []

/-- Whether the next piece has a dash for the text before it. -/
def dashAhead (n : Nesting) (next : Option Piece) : Bool :=
  match next, n.outer with
  | none, _ => false
  | some (.tag content d), (.loop .., _) :: _ =>
    d.left && (Tag.closing? "else" false .otherwise content).isNone
  | some (.output content d), _ => d.left && !n.isReplaced content
  | some piece, _ => piece.dashes.left

def addText (n : Nesting) (s : List Char) (next : Option Piece) : Nesting :=
  if n.keepsText then n.add (.text (String.ofList s))
  else
    let s := if n.trimNext then trimStart s else s
    let s := if n.dashAhead next then trimEnd s else s
    { n.add (.text (String.ofList s)) with trimNext := false }

def addVerbatim (n : Nesting) (s : List Char) (opening closing : Dashes) : Nesting :=
  if n.keepsText then n.add (.verbatim (String.ofList s))
  else
    let s := if opening.right then trimStart s else s
    let s := if closing.left then trimEnd s else s
    { n.add (.verbatim (String.ofList s)) with trimNext := closing.right }

/-- The nodes of a body, last first, without the blanks at its end. -/
def trimLast : List Node → List Node
  | .text s :: rest => .text (String.ofList (trimEnd s.toList)) :: rest
  | nodes => nodes

/-- The branches of a choice with the current one, last first. -/
def finish (done : List Branch) (condition : Expr) (nodes : List Node) : List Branch :=
  .mk condition nodes.reverse :: done

/-- Reads a tag.  Of several cases for an empty container only the last one stays. -/
def addTag (n : Nesting) (tag : Tag) (dashes : Dashes) : Option Nesting :=
  match tag, n.outer with
  | .choice e, _ => some (n.push (.choice [] e))
  | .otherwiseIf e, (.choice done c, before) :: outer =>
    some { n with nodes := [], outer := (.choice (finish done c n.nodes) e, before) :: outer }
  | .otherwise, (.choice done c, before) :: outer =>
    some { n with nodes := [], outer := (.otherwise (finish done c n.nodes), before) :: outer }
  | .otherwise, (.loop key item container, before) :: outer =>
    some { n with nodes := [], outer := (.empty key item container n.nodes, before) :: outer }
  | .otherwise, (.empty .., _) :: _ => some { n with nodes := [] }
  | .endChoice, (.choice done c, before) :: outer =>
    some { n with nodes := .choice (finish done c n.nodes).reverse [] :: before, outer := outer }
  | .endChoice, (.otherwise done, before) :: outer =>
    some { n with nodes := .choice done.reverse n.nodes.reverse :: before, outer := outer }
  | .loop key item container, _ => some (n.push (.loop key item container))
  | .endLoop, (.loop key item container, before) :: outer =>
    some { n with nodes := .loop key item container n.nodes.reverse [] :: before, outer := outer }
  | .endLoop, (.empty key item container body, before) :: outer =>
    let kept := outer.any (·.1.isEmptyCase)
    let body := if dashes.left && !kept then trimLast body else body
    some { n with
      nodes := .loop key item container body.reverse n.nodes.reverse :: before
      outer := outer }
  | .assign name outside value, _ => some (n.add (.assign name outside value))
  | .filtered c, _ => some (n.push (.filtered c))
  | .endFiltered, (.filtered c, before) :: outer =>
    some { n with nodes := .filtered c n.nodes.reverse :: before, outer := outer }
  | .block name, _ =>
    if n.place = .loop || n.place = .snippet then none else some (n.push (.block name))
  | .endBlock, (.block name, before) :: outer =>
    some { n with nodes := .block name n.nodes.reverse :: before, outer := outer }
  | .snippet name parameters, [] => some (n.push (.snippet name parameters))
  | .endSnippet, (.snippet name parameters, before) :: outer =>
    some { n with
      nodes := before
      outer := outer
      snippets := n.snippets ++ [⟨name, parameters, n.nodes.reverse⟩] }
  | .insert files optional, _ => some (n.add (.insert files optional))
  | .snippetsFrom file space, [] => some { n with imports := n.imports ++ [(file, space)] }
  | .leave, _ => if n.place = .loop then some (n.add .leave) else none
  | .next, _ => if n.place = .loop then some (n.add .next) else none
  | _, _ => none

/-- Reads an output. -/
def addOutput (n : Nesting) (content : List Char) (dashes : Dashes) : Option Nesting :=
  if n.isReplaced content then some (n.add .replaced)
  else
    (Tag.whole? (readExpression content)).map fun e =>
      { n.add (.output e) with trimNext := dashes.right }

/-- Reads a piece; `next` is the piece after it. -/
def addPiece (n : Nesting) (piece : Piece) (next : Option Piece) : Option Nesting :=
  match piece with
  | .text s => some (n.addText s next)
  | .comment d => some { n with trimNext := d.right }
  | .verbatim s opening closing => some (n.addVerbatim s opening closing)
  | .output content d => n.addOutput content d
  | .tag content d => do
    let n ← n.addTag (← Tag.read? content) d
    some { n with trimNext := d.right }

/-- Reads pieces. -/
def addPieces (n : Nesting) : List Piece → Option Nesting
  | [] => some n
  | piece :: rest => do
    (← n.addPiece piece rest.head?).addPieces rest

end Nesting

/-! ### Templates -/

/-- The pieces after the comments at the start of a template. -/
def Piece.afterComments : List Piece → List Piece
  | .comment _ :: rest => afterComments rest
  | pieces => pieces

/-- The file whose layout a template fills in, if a piece says so. -/
def Piece.extended? : Piece → Option String
  | .tag content _ =>
    match Tag.read? content with
    | some (.extends file) => some file
    | _ => none
  | _ => none

/-- The file whose layout a template fills in, and the pieces of the template itself.  Blanks may
stand before the tag that names the file. -/
def Piece.splitParent (pieces : List Piece) : Option String × List Piece :=
  match pieces with
  | .text s :: piece :: rest =>
    match if s.all isGap then piece.extended? else none with
    | some file => (some file, rest)
    | none => (none, pieces)
  | piece :: rest =>
    match piece.extended? with
    | some file => (some file, rest)
    | none => (none, pieces)
  | [] => (none, [])

/-- The template that a text is, if it is one. -/
def TemplateFile.read? (source : String) : Option TemplateFile := do
  let (parent, pieces) := Piece.splitParent (Piece.afterComments (← Piece.ofTemplate? source))
  let n ← Nesting.start.addPieces pieces
  if n.outer.isEmpty then some ⟨parent, n.nodes.reverse, n.snippets, n.imports⟩ else none

end Scribe.Template
