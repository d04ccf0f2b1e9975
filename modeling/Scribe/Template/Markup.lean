import Scribe.Template.Grammar
import Scribe.Text.Blank

/-!
# Markup

A template is text with marks in it: outputs in double braces, tags in braces with percent signs,
and comments in braces with hashes.  `Piece.ofTemplate?` splits it, and `Tag.read?` reads what a
tag says.

A mark can have a dash at either end, which removes the blanks of the text on that side.  Where
the text between two marks starts and ends is decided here; which blanks go depends on how the
tags nest, and is decided when they are put together.
-/

namespace Scribe.Template

open Scribe.Text

/-! ### Pieces -/

/-- The dashes of a mark. -/
structure Dashes where
  left : Bool
  right : Bool
  deriving Repr, DecidableEq

/-- A piece of a template. -/
inductive Piece where
  | text (s : List Char)
  | output (content : List Char) (dashes : Dashes)
  | tag (content : List Char) (dashes : Dashes)
  | comment (dashes : Dashes)
  /-- Text that is not searched for marks, with the dashes of the tags before and after it. -/
  | verbatim (s : List Char) (opening closing : Dashes)

/-- The dashes of a piece; text has none. -/
def Piece.dashes : Piece → Dashes
  | text _ => ⟨false, false⟩
  | output _ d => d
  | tag _ d => d
  | comment d => d
  | verbatim _ opening closing => ⟨opening.left, closing.right⟩

namespace Piece

/-- The text up to the next mark, and the rest. -/
def untilMark : List Char → List Char × List Char
  | '{' :: c :: rest =>
    if c = '{' || c = '%' || c = '#' then ([], '{' :: c :: rest)
    else
      let (before, left) := untilMark (c :: rest)
      ('{' :: before, left)
  | c :: rest =>
    let (before, left) := untilMark rest
    (c :: before, left)
  | [] => ([], [])

/-- What stands before the two characters that end a mark, and what comes after them.  The end
does not count inside quotes. -/
def untilEnd (last : Char) (quote : Option Char) : List Char → Option (List Char × List Char)
  | c :: rest =>
    match quote with
    | some q =>
      (untilEnd last (if c = q then none else quote) rest).map fun (s, left) => (c :: s, left)
    | none =>
      if c = last && rest.head? = some '}' then some ([], rest.drop 1)
      else
        let quote := if c = '"' || c = '\'' || c = '\x60' then some c else none
        (untilEnd last quote rest).map fun (s, left) => (c :: s, left)
  | [] => none

/-- What a comment says, whether a dash stands at its end, and what comes after it. -/
def untilCommentEnd : List Char → Option (List Char × Bool × List Char)
  | '-' :: '#' :: '}' :: rest => some ([], true, rest)
  | '#' :: '}' :: rest => some ([], false, rest)
  | c :: rest => (untilCommentEnd rest).map fun (s, dash, left) => (c :: s, dash, left)
  | [] => none

/-- The dash at the start of what a mark holds, and what follows it. -/
def takeDash : List Char → Bool × List Char
  | '-' :: rest => (true, rest)
  | s => (false, s)

/-- What a mark holds, without the dash that it ends with. -/
def dropDash (s : List Char) : Bool × List Char :=
  if s.getLast? = some '-' then (true, s.dropLast) else (false, s)

/-- The dashes of a tag that consists of a word, and what comes after the tag. -/
def wordTag? (word : String) : List Char → Option (Dashes × List Char)
  | '{' :: '%' :: rest => do
    let (left, rest) := takeDash rest
    let rest ← symbol? word rest
    let rest := skipGap rest
    let (right, rest) := takeDash rest
    let rest ← after? ['%', '}'] rest
    some (⟨left, right⟩, rest)
  | _ => none

/-- The text up to the tag that ends a verbatim part, the dashes of that tag, and the rest. -/
def untilEndRaw : List Char → Option (List Char × Dashes × List Char)
  | [] => none
  | c :: rest =>
    match wordTag? "endraw" (c :: rest) with
    | some (d, left) => some ([], d, left)
    | none => (untilEndRaw rest).map fun (s, d, left) => (c :: s, d, left)

/-- The piece at the start of a text that is not empty, and the rest.  A comment has to say
something. -/
def first? (s : List Char) : Option (Piece × List Char) :=
  match wordTag? "raw" s with
  | some (opening, rest) => do
    let (body, closing, left) ← untilEndRaw rest
    some (verbatim body opening closing, left)
  | none =>
    match s with
    | '{' :: '{' :: rest => do
      let (left, rest) := takeDash rest
      let (content, rest) ← untilEnd '}' none rest
      let (right, content) := dropDash content
      some (output content ⟨left, right⟩, rest)
    | '{' :: '%' :: rest => do
      let (left, rest) := takeDash rest
      let (content, rest) ← untilEnd '%' none rest
      let (right, content) := dropDash content
      some (tag content ⟨left, right⟩, rest)
    | '{' :: '#' :: rest => do
      let (left, rest) := takeDash rest
      let (content, right, rest) ← untilCommentEnd rest
      if content = [] then none else some (comment ⟨left, right⟩, rest)
    | s =>
      let (before, rest) := untilMark s
      some (text before, rest)

/-- The pieces of a text, at most as many as the budget. -/
def split : Nat → List Char → Option (List Piece)
  | 0, s => if s = [] then some [] else none
  | budget + 1, s =>
    if s = [] then some []
    else do
      let (piece, rest) ← first? s
      (split budget rest).map (piece :: ·)

/-- The pieces of a template, if every mark in it ends. -/
def ofTemplate? (source : String) : Option (List Piece) :=
  split source.toList.length source.toList

end Piece

/-! ### Tags -/

/-- What a tag says. -/
inductive Tag where
  | choice (condition : Expr)
  | otherwiseIf (condition : Expr)
  | otherwise
  | endChoice
  | loop (key : Option String) (item : String) (container : Expr)
  | endLoop
  | assign (name : String) (outside : Bool) (value : Expr)
  | filtered (filter : Call)
  | endFiltered
  | block (name : String)
  | endBlock
  | snippet (name : String) (parameters : List Parameter)
  | endSnippet
  | insert (files : List String) (optional : Bool)
  | extends (file : String)
  | snippetsFrom (file : String) (space : String)
  | leave
  | next

namespace Tag

/-- What a reader returns if it leaves nothing but a gap. -/
def whole? {α : Type} (r : Option (α × List Char)) : Option α :=
  r.bind fun (a, rest) => if skipGap rest = [] then some a else none

/-- A tag that consists of a word, or of a word and a name. -/
def closing? (word : String) (named : Bool) (tag : Tag) (s : List Char) : Option Tag :=
  (symbol? word s).bind fun rest =>
    if skipGap rest = [] then some tag
    else if named then (whole? (readName rest)).map fun _ => tag
    else none

/-- Texts in quotes, separated by commas; a comma may stand after the last one. -/
def readTexts : Nat → Reader (List String)
  | 0, _ => none
  | n + 1, s =>
    match readText s with
    | none => some ([], s)
    | some (t, rest) =>
      match symbol? "," rest with
      | none => some ([t], rest)
      | some rest => (readTexts n rest).map fun (ts, left) => (t :: ts, left)

/-- The files that a tag names: one, or several in brackets. -/
def readFiles (s : List Char) : Option (List String × List Char) :=
  ((readText s).map fun (file, rest) => ([file], rest)) <|> do
    let rest ← symbol? "[" s
    let (files, rest) ← readTexts (rest.length + 1) rest
    let left ← symbol? "]" rest
    some (files, left)

/-- A parameter, perhaps with a default. -/
def readParameter (s : List Char) : Option (Parameter × List Char) := do
  let (name, rest) ← readName s
  match symbol? "=" rest with
  | none => some (⟨name, none⟩, rest)
  | some rest => (readDefault rest).map fun (t, left) => (⟨name, some t⟩, left)

/-- One parameter or more, separated by commas. -/
def readParameters : Nat → Reader (List Parameter)
  | 0, _ => none
  | n + 1, s => do
    let (p, rest) ← readParameter s
    match symbol? "," rest with
    | none => some ([p], rest)
    | some rest => (readParameters n rest).map fun (ps, left) => (p :: ps, left)

/-- The parameters of which each name is the last one like it. -/
def lastOfEach : List Parameter → List Parameter
  | [] => []
  | p :: rest => if rest.any (·.name = p.name) then lastOfEach rest else p :: lastOfEach rest

def readLoop (s : List Char) : Option Tag := do
  let rest ← word? "for" s
  let (first, rest) ← readName rest
  let (key, item, rest) ←
    match rest with
    | ',' :: rest => (readName rest).map fun (second, left) => (some first, second, left)
    | _ => some (none, first, rest)
  let rest ← if rest.head?.any isGap then some rest else none
  let rest ← word? "in" rest
  let container ← whole? (readContainer rest)
  some (.loop key item container)

def readAssign (word : String) (outside : Bool) (s : List Char) : Option Tag := do
  let rest ← word? word s
  let (name, rest) ← readName rest
  let rest ← symbol? "=" rest
  let value ← whole? (readExpression rest)
  some (.assign name outside value)

def readInsert (s : List Char) : Option Tag := do
  let rest ← word? "include" s
  let (files, rest) ← readFiles rest
  let (optional, rest) :=
    match (symbol? "ignore" rest).bind (symbol? "missing") with
    | some left => (true, left)
    | none => (false, rest)
  if skipGap rest = [] then some (.insert files optional) else none

def readSnippet (s : List Char) : Option Tag := do
  let rest ← word? "macro" s
  let (name, rest) ← readName rest
  let rest ← symbol? "(" rest
  let (parameters, rest) := (readParameters (rest.length + 1) rest).getD ([], rest)
  let rest ← symbol? ")" rest
  if skipGap rest = [] then some (.snippet name (lastOfEach parameters)) else none

def readSnippetsFrom (s : List Char) : Option Tag := do
  let rest ← word? "import" s
  let (file, rest) ← readText rest
  let rest ← if rest.head?.any isGap then some rest else none
  let rest ← word? "as" rest
  let space ← whole? (readName rest)
  some (.snippetsFrom file space)

/-- What the content of a tag says. -/
def read? (s : List Char) : Option Tag :=
  ((word? "if" s).bind fun rest => (whole? (readCondition rest)).map .choice) <|>
  ((word? "elif" s).bind fun rest => (whole? (readCondition rest)).map .otherwiseIf) <|>
  closing? "else" false .otherwise s <|>
  closing? "endif" false .endChoice s <|>
  readLoop s <|>
  closing? "endfor" false .endLoop s <|>
  readAssign "set" false s <|>
  readAssign "set_global" true s <|>
  ((word? "filter" s).bind fun rest => (whole? (readFilter rest)).map .filtered) <|>
  closing? "endfilter" false .endFiltered s <|>
  ((word? "block" s).bind fun rest => (whole? (readName rest)).map .block) <|>
  closing? "endblock" true .endBlock s <|>
  readSnippet s <|>
  closing? "endmacro" true .endSnippet s <|>
  readInsert s <|>
  ((word? "extends" s).bind fun rest => (whole? (readText rest)).map .extends) <|>
  readSnippetsFrom s <|>
  closing? "break" false .leave s <|>
  closing? "continue" false .next s

end Tag

end Scribe.Template
