import Scribe.Config.Scalar

/-!
# Reading configuration files

A configuration file has lines with a key and a value, and lines with the name of the table that
the following keys belong to.  A name can go through several tables, which come about on the way.
What was given once cannot be given again, and a table that was written out cannot be extended.

Readers of values carry a budget, because lists and tables in a line can hold others.
-/

namespace Scribe.Config

/-! ### Values -/

/-- A value; of values that are no texts, lists or tables it matters only that they are there and
whether they can be read. -/
inductive Setting where
  | text (s : String)
  | scalar (readable : Bool)
  | list (items : List Setting)
  | table (entries : List (String × Setting))

mutual

/-- Whether a value and all values in it can be read. -/
def Setting.isReadable : Setting → Bool
  | .text _ => true
  | .scalar readable => readable
  | .list items => areReadable items
  | .table entries => entriesAreReadable entries

def areReadable : List Setting → Bool
  | [] => true
  | v :: rest => v.isReadable && areReadable rest

def entriesAreReadable : List (String × Setting) → Bool
  | [] => true
  | (_, v) :: rest => v.isReadable && entriesAreReadable rest

end

/-- How a table came about. -/
inductive TableOrigin where
  /-- On the way to another table. -/
  | passed
  /-- By a line of its own. -/
  | named
  /-- On the way to a key. -/
  | dotted
  deriving DecidableEq

/-- What stands under a key while a file is read. -/
inductive Entry where
  | value (v : Setting)
  | table (origin : TableOrigin) (entries : List (String × Entry))
  /-- Tables of one name in a row, last first. -/
  | row (tables : List (List (String × Entry)))

abbrev Entries := List (String × Entry)

/-! ### Building tables -/

/-- The entries with another one under a key. -/
def Entries.put (es : Entries) (key : String) (e : Entry) : Entries :=
  if (es.lookup key).isSome then es.map fun (k, old) => (k, if k = key then e else old)
  else es ++ [(key, e)]

/-- The entries with a value at the end of a dotted key.  Tables on the way that came about on the
way to others may be passed, but only one that a dotted key made takes the value; `isOpen` says
whether these entries take it. -/
def Entries.assign (es : Entries) (isOpen : Bool) (v : Setting) : List String → Option Entries
  | [] => none
  | [key] => if !isOpen || (es.lookup key).isSome then none else some (es.put key (.value v))
  | key :: rest =>
    match es.lookup key with
    | none => do
      let sub ← Entries.assign [] true v rest
      some (es.put key (.table .dotted sub))
    | some (.table .named _) => none
    | some (.table origin sub) => do
      let sub ← Entries.assign sub (origin = .dotted) v rest
      some (es.put key (.table origin sub))
    | _ => none

/-- The entries with a table opened by a line of its own, as one of a row or alone. -/
def Entries.openTable (es : Entries) (inRow : Bool) : List String → Option Entries
  | [] => none
  | [key] =>
    match inRow, es.lookup key with
    | false, none => some (es.put key (.table .named []))
    | false, some (.table .passed sub) => some (es.put key (.table .named sub))
    | true, none => some (es.put key (.row [[]]))
    | true, some (.row tables) => some (es.put key (.row ([] :: tables)))
    | _, _ => none
  | key :: rest =>
    match es.lookup key with
    | none => do
      let sub ← Entries.openTable [] inRow rest
      some (es.put key (.table .passed sub))
    | some (.table origin sub) => do
      let sub ← Entries.openTable sub inRow rest
      some (es.put key (.table origin sub))
    | some (.row (last :: earlier)) => do
      let last ← Entries.openTable last inRow rest
      some (es.put key (.row (last :: earlier)))
    | _ => none

/-- The entries with a change in the table at the end of a way. -/
def Entries.changeAt (es : Entries) (change : Entries → Option Entries) :
    List String → Option Entries
  | [] => change es
  | key :: rest =>
    match es.lookup key with
    | some (.table origin sub) => do
      let sub ← Entries.changeAt sub change rest
      some (es.put key (.table origin sub))
    | some (.row (last :: earlier)) => do
      let last ← Entries.changeAt last change rest
      some (es.put key (.row (last :: earlier)))
    | _ => none

mutual

/-- An entry as a value. -/
def Entry.setting : Entry → Setting
  | .value v => v
  | .table _ entries => .table (settings entries)
  | .row tables => .list (rowSettings tables).reverse

def settings : List (String × Entry) → List (String × Setting)
  | [] => []
  | (k, e) :: rest => (k, e.setting) :: settings rest

def rowSettings : List (List (String × Entry)) → List Setting
  | [] => []
  | t :: rest => .table (settings t) :: rowSettings rest

end

/-! ### Blanks and comments -/

def isSpace (c : Char) : Bool := c = ' ' || c = '\t'

def skipSpaces (s : List Char) : List Char := s.dropWhile isSpace

/-- Whether a character can stand in a text on one line. -/
def isPrintable (c : Char) : Bool := c = '\t' || (32 ≤ c.toNat && c.toNat ≠ 127)

/-- What follows a line end. -/
def lineEnd? : List Char → Option (List Char)
  | '\n' :: rest => some rest
  | '\r' :: '\n' :: rest => some rest
  | _ => none

/-- What follows the spaces and the comment at the end of a line, and the line end. -/
def restOfLine? (s : List Char) : Option (List Char) :=
  let s := skipSpaces s
  let s := if s.head? = some '#' then s.dropWhile isPrintable else s
  if s = [] then some [] else lineEnd? s

/-- What follows lines that say nothing, as far as there are any. -/
def skipLines : Nat → List Char → List Char
  | 0, s => s
  | n + 1, s =>
    match restOfLine? s with
    | none => skipSpaces s
    | some rest => if s = [] then [] else skipLines n rest

/-! ### Texts -/

def hexValue (s : List Char) : Option Nat :=
  if s.all isHex then some (valueOf 16 s) else none

/-- The character with a code of so many digits, and the rest. -/
def codePoint? (count : Nat) (s : List Char) : Option (Char × List Char) := do
  let ds := s.take count
  let n ← if ds.length = count then hexValue ds else none
  if n.isValidChar then some (Char.ofNat n, s.drop count) else none

/-- The character that an escape stands for, and what follows it. -/
def escape? : List Char → Option (Char × List Char)
  | 'b' :: rest => some ('\x08', rest)
  | 't' :: rest => some ('\t', rest)
  | 'n' :: rest => some ('\n', rest)
  | 'f' :: rest => some ('\x0c', rest)
  | 'r' :: rest => some ('\r', rest)
  | 'e' :: rest => some ('\x1b', rest)
  | '"' :: rest => some ('"', rest)
  | '\\' :: rest => some ('\\', rest)
  | 'x' :: rest => codePoint? 2 rest
  | 'u' :: rest => codePoint? 4 rest
  | 'U' :: rest => codePoint? 8 rest
  | _ => none

/-- What follows a backslash at the end of a line and the blanks after it. -/
def continuation? (s : List Char) : Option (List Char) :=
  (lineEnd? (skipSpaces s)).map fun rest =>
    rest.dropWhile fun c => isSpace c || c = '\n' || c = '\r'

/-- The rest of a text in quotes, on one line or on several, and what follows it. -/
def quotedRest (quote : Char) (long : Bool) : Nat → List Char → Option (List Char × List Char)
  | 0, _ => none
  | n + 1, s =>
    match s with
    | [] => none
    | c :: rest =>
      if c = quote then
        if !long then some ([], rest)
        else
          match rest with
          | d :: e :: left =>
            if d = quote && e = quote then
              let more := (left.takeWhile (· = quote)).take 2
              some (more, left.drop more.length)
            else (quotedRest quote long n rest).map fun (t, left) => (c :: t, left)
          | _ => none
      else if c = '\\' && quote = '"' then
        match if long then continuation? rest else none with
        | some rest => quotedRest quote long n rest
        | none => do
          let (e, rest) ← escape? rest
          let (t, left) ← quotedRest quote long n rest
          some (e :: t, left)
      else if isPrintable c then
        (quotedRest quote long n rest).map fun (t, left) => (c :: t, left)
      else if long then
        match c, rest with
        | '\n', rest => (quotedRest quote long n rest).map fun (t, left) => ('\n' :: t, left)
        | '\r', '\n' :: rest =>
          (quotedRest quote long n rest).map fun (t, left) => ('\r' :: '\n' :: t, left)
        | _, _ => none
      else none

/-- A text in quotes, and what follows it. -/
def quotedText (s : List Char) : Option (String × List Char) :=
  let text (quote : Char) (long : Bool) (s : List Char) :=
    (quotedRest quote long (s.length + 1) s).map fun (t, left) => (String.ofList t, left)
  match s with
  | '"' :: '"' :: '"' :: rest => text '"' true ((lineEnd? rest).getD rest)
  | '\'' :: '\'' :: '\'' :: rest => text '\'' true ((lineEnd? rest).getD rest)
  | '"' :: rest => text '"' false rest
  | '\'' :: rest => text '\'' false rest
  | _ => none

/-! ### Keys -/

def inBareKey (c : Char) : Bool := c.isAlphanum || c = '_' || c = '-'

def simpleKey (s : List Char) : Option (String × List Char) :=
  match s with
  | '"' :: '"' :: '"' :: _ => none
  | '\'' :: '\'' :: '\'' :: _ => none
  | '"' :: _ | '\'' :: _ => quotedText s
  | _ =>
    match s.takeWhile inBareKey with
    | [] => none
    | key => some (String.ofList key, s.dropWhile inBareKey)

/-- A key with dots, and what follows it and its spaces. -/
def dottedKey : Nat → List Char → Option (List String × List Char)
  | 0, _ => none
  | n + 1, s => do
    let (key, rest) ← simpleKey (skipSpaces s)
    match skipSpaces rest with
    | '.' :: rest => (dottedKey n rest).map fun (keys, left) => (key :: keys, left)
    | rest => some ([key], rest)

/-- How many names a key can have, and how many lists and tables can be within each other. -/
def maxDepth : Nat := 80

def readKey (s : List Char) : Option (List String × List Char) := do
  let (key, rest) ← dottedKey (s.length + 1) s
  if key.length ≤ maxDepth then some (key, rest) else none

/-! ### Values in a line -/

/-- A bare word that is a value, and what follows it.  A date and a time can have a space between
them. -/
def readScalar (s : List Char) : Option (Setting × List Char) :=
  let word := s.takeWhile inScalar
  let rest := s.dropWhile inScalar
  let alone := (scalar? word).map fun readable => (.scalar readable, rest)
  match rest with
  | ' ' :: more =>
    if takeDate word = some [] && more.head?.any Char.isDigit then
      let time := more.takeWhile inScalar
      if isDateTime (word ++ ' ' :: time) then some (.scalar true, more.dropWhile inScalar)
      else none
    else alone
  | _ => alone

mutual

/-- A value, in which at most `depth` lists and tables can be within each other, and what follows
it. -/
def readValue : Nat → Nat → List Char → Option (Setting × List Char)
  | 0, _, _ => none
  | n + 1, depth, s =>
    match s, depth with
    | '"' :: _, _ | '\'' :: _, _ => (quotedText s).map fun (t, rest) => (.text t, rest)
    | '[' :: rest, depth + 1 =>
      (readItems n depth rest).map fun (items, left) => (.list items, left)
    | '{' :: rest, depth + 1 =>
      (readPairs n depth [] rest).map fun (es, left) => (.table (settings es), left)
    | s, _ => readScalar s

/-- The rest of a list; lines can end anywhere between its items. -/
def readItems : Nat → Nat → List Char → Option (List Setting × List Char)
  | 0, _, _ => none
  | n + 1, depth, s =>
    match skipLines (s.length + 1) s with
    | ']' :: left => some ([], left)
    | s => do
      let (v, rest) ← readValue n depth s
      match skipLines (rest.length + 1) rest with
      | ',' :: rest => (readItems n depth rest).map fun (vs, left) => (v :: vs, left)
      | ']' :: left => some ([v], left)
      | _ => none

/-- The rest of a table in a line; lines can end anywhere but in a key. -/
def readPairs : Nat → Nat → Entries → List Char → Option (Entries × List Char)
  | 0, _, _, _ => none
  | n + 1, depth, es, s =>
    match skipLines (s.length + 1) s with
    | '}' :: left => some (es, left)
    | s => do
      let (key, rest) ← readKey s
      let '=' :: rest := skipLines (rest.length + 1) rest | none
      let (v, rest) ← readValue n depth (skipLines (rest.length + 1) rest)
      let es ← es.assign true v key
      match skipLines (rest.length + 1) rest with
      | ',' :: rest => readPairs n depth es rest
      | '}' :: left => some (es, left)
      | _ => none

end

/-! ### Files -/

/-- How far a file has been read: what it holds, and the table that keys belong to. -/
structure Reading where
  entries : Entries
  current : List String

/-- The key in the brackets of a line that opens a table, and what follows the line. -/
def tableLine (inRow : Bool) (s : List Char) : Option (List String × List Char) := do
  let (key, rest) ← readKey s
  match inRow, rest with
  | false, ']' :: rest => (restOfLine? rest).map (key, ·)
  | true, ']' :: ']' :: rest => (restOfLine? rest).map (key, ·)
  | _, _ => none

/-- Reads a line that says something. -/
def Reading.readLine (r : Reading) (s : List Char) : Option (Reading × List Char) :=
  let opening (inRow : Bool) (s : List Char) := do
    let (key, left) ← tableLine inRow s
    let entries ← r.entries.openTable inRow key
    some (⟨entries, key⟩, left)
  match s with
  | '[' :: '[' :: rest => opening true rest
  | '[' :: rest => opening false rest
  | s => do
    let (key, rest) ← readKey s
    let '=' :: rest := rest | none
    let (v, rest) ← readValue (rest.length + 1) maxDepth (skipSpaces rest)
    let left ← restOfLine? rest
    let entries ← r.entries.changeAt (·.assign true v key) r.current
    some ({ r with entries }, left)

def readLines : Nat → Reading → List Char → Option Entries
  | 0, _, _ => none
  | n + 1, r, s =>
    match skipLines (s.length + 1) s with
    | [] => some r.entries
    | s => do
      let (r, left) ← r.readLine s
      readLines n r left

/-- What a configuration file holds, if it is one. -/
def readSettings (source : String) : Option (List (String × Setting)) :=
  let s := source.toList
  let s := if s.head? = some '\ufeff' then s.drop 1 else s
  (readLines (s.length + 1) ⟨[], []⟩ s).map settings

end Scribe.Config
