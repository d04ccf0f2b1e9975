import Scribe.Document.Lines
import Scribe.Schema.Table
import Scribe.Text.Escape

/-!
# Markdown pages

The page that documents a table: a title, the table comment, and a grid with one row per column.
Cells are padded on the left to fixed widths; a longer value widens its row, it is not cut.  Every
cell is escaped before it is padded, so that the bars of a row are its borders and nothing else.
-/

namespace Scribe.Document

open Scribe.Text Scribe.Schema

/-! ### Rows of the grid -/

/-- A text with blanks before it, so that it has at least `width` characters. -/
def padLeft (width : Nat) (s : String) : String :=
  String.ofList (List.replicate (width - s.length) ' ') ++ s

/-- The widths of the columns of the grid. -/
def gridWidths : List Nat := [5, 15, 15, 5, 5, 20, 10, 20]

/-- A row of the grid with the given cells. -/
def gridLine (cells : List String) : String :=
  "|" ++ ((gridWidths.zip cells).map fun (w, s) => " " ++ padLeft w s ++ " |").foldr (· ++ ·) ""

/-- The titles of the columns of the grid. -/
def gridTitles : List String :=
  ["No.", "Name", "Type", "Key", "Nullable", "Extra", "Default", "Comment"]

/-- The row that centres the columns of the grid. -/
def gridAlign : String :=
  "| :---: | :-------------: | :-------------: | :---: | :---: | " ++
    ":------------------: | :--------: | :------------------: |"

/-- A column of a table as a row of the grid, its cells escaped. -/
structure GridRow where
  ordinal : Nat
  name : String
  columnType : String
  key : String
  nullable : String
  extra : String
  default : String
  comment : String
  deriving Repr, DecidableEq

/-- A value as the inside of a cell; a missing one is empty. -/
def cell (value : Option String) : String := String.ofList (tableCell (value.getD "").toList)

def GridRow.ofColumn (c : Column) : GridRow where
  ordinal := c.ordinal
  name := cell (some c.name)
  columnType := cell (some c.columnType)
  key := cell c.key
  nullable := if c.nullable then "YES" else "NO"
  extra := cell c.extra
  default := cell c.default
  comment := cell c.comment

def GridRow.cells (r : GridRow) : List String :=
  [toString r.ordinal, r.name, r.columnType, r.key, r.nullable, r.extra, r.default, r.comment]

def GridRow.line (r : GridRow) : String := gridLine r.cells

/-! ### The page -/

/-- What a Markdown page says. -/
structure MarkdownPage where
  schema : String
  table : String
  /-- The table comment on one line. -/
  comment : String
  rows : List GridRow
  deriving Repr, DecidableEq

def MarkdownPage.header (_ : MarkdownPage) : String := gridLine gridTitles

def MarkdownPage.align (_ : MarkdownPage) : String := gridAlign

/-- The page for a table. -/
def MarkdownPage.ofTable (t : Table) : MarkdownPage where
  schema := t.schema
  table := t.name
  comment := String.ofList (flatten t.comment.toList)
  rows := t.columns.map GridRow.ofColumn

def MarkdownPage.lines (p : MarkdownPage) : List String :=
  ["#### " ++ p.schema ++ "." ++ p.table] ++
  (if p.comment = "" then [] else [p.comment]) ++
  ["", p.header, p.align] ++
  p.rows.map GridRow.line

/-- The text of the page, without a line end after its last line. -/
def MarkdownPage.text (p : MarkdownPage) : String := joinLines p.lines

end Scribe.Document
