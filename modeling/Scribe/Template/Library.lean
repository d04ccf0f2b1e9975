import Scribe.Template.Nesting

/-!
# Libraries of templates

The templates of a directory, by the names of their files.  A template can fill in the layout of
another one, which is then its parent, and can use snippets of others.  A library is only made of
files that are templates, whose parents and snippets are there, whose ways to a first parent end,
and in which no block or snippet is there twice.
-/

namespace Scribe.Template

/-! ### Blocks of one template -/

mutual

/-- The blocks that a node is or holds directly, with their bodies. -/
def Node.blocks : Node → List (String × List Node)
  | .block name body => (name, body) :: blocksOf body
  | _ => []

/-- The blocks among nodes, and the blocks directly in these. -/
def blocksOf : List Node → List (String × List Node)
  | [] => []
  | n :: rest => n.blocks ++ blocksOf rest

end

/-- Whether no name is there twice. -/
def distinct : List String → Bool
  | [] => true
  | a :: rest => !rest.contains a && distinct rest

/-- Whether no block and no snippet of a template is there twice. -/
def TemplateFile.isClear (t : TemplateFile) : Bool :=
  distinct ((blocksOf t.nodes).map (·.1)) && distinct (t.snippets.map (·.name))

/-! ### Libraries -/

/-- Templates by the names of their files. -/
structure Library where
  templates : List (String × TemplateFile)

namespace Library

def find? (l : Library) (file : String) : Option TemplateFile := l.templates.lookup file

/-- The parents of a template, nearest first, at most as many as the budget; nothing if one is
missing or the budget does not last. -/
def parents? (l : Library) : Nat → TemplateFile → Option (List String)
  | 0, _ => none
  | budget + 1, t =>
    match t.parent with
    | none => some []
    | some file => do
      let parent ← l.find? file
      return file :: (← l.parents? budget parent)

/-- The parents of a template of the library, nearest first. -/
def parents (l : Library) (file : String) : List String :=
  ((l.find? file).bind (l.parents? (l.templates.length + 1))).getD []

/-- The body that a template itself gives to a block. -/
def block? (l : Library) (file name : String) : Option (List Node) :=
  (l.find? file).bind fun t => (blocksOf t.nodes).lookup name

/-- Whether a template can be used together with the others. -/
def accepts (l : Library) (t : TemplateFile) : Bool :=
  t.isClear && (l.parents? (l.templates.length + 1) t).isSome &&
    t.imports.all fun (file, _) => (l.find? file).isSome

/-- The library of some files, if they make up one. -/
def ofFiles? (files : List (String × String)) : Option Library := do
  let templates ← files.mapM fun (file, source) => (TemplateFile.read? source).map (file, ·)
  let l : Library := ⟨templates⟩
  if templates.all fun (_, t) => l.accepts t then some l else none

/-! ### Snippets -/

/-- Snippets of one file, under the name by which a template knows them. -/
structure Space where
  name : String
  file : String
  snippets : List Snippet

/-- The spaces with another one, in place of the one with its name. -/
def withSpace (spaces : List Space) (s : Space) : List Space :=
  s :: spaces.filter (·.name ≠ s.name)

/-- The spaces with those of others whose names are not taken yet. -/
def withOthers (spaces others : List Space) : List Space :=
  spaces ++ others.filter fun s => spaces.all (·.name ≠ s.name)

/-- The snippets that a template can use: its own, those it imports, those that these files can use
themselves, and those of its parents.  A name that a template gives itself counts whatever stood
for it before; one that comes along with a file counts only if nothing else has it. -/
def spacesWithin (l : Library) : Nat → String → List Space
  | 0, _ => []
  | budget + 1, file =>
    match l.find? file with
    | none => []
    | some t =>
      let own := if t.snippets.isEmpty then [] else [⟨"self", file, t.snippets⟩]
      let addImport (spaces : List Space) (i : String × String) : List Space :=
        let snippets := ((l.find? i.1).map (·.snippets)).getD []
        withOthers (withSpace spaces ⟨i.2, i.1, snippets⟩) (l.spacesWithin budget i.1)
      let addParent (spaces : List Space) (parent : String) : List Space :=
        withOthers spaces (l.spacesWithin budget parent)
      (l.parents file).foldl addParent (t.imports.foldl addImport own)

def spaces (l : Library) (file : String) : List Space :=
  l.spacesWithin (l.templates.length + 1) file

end Library

end Scribe.Template
