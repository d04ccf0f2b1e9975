import Scribe.Document.Lines
import Scribe.Schema.Table
import Scribe.Text.Escape

/-!
# Struct files

The source file that models a table: a struct with one tagged field per column, and a method that
names the table.  `StructFile.ofTable` decides what the file says, `StructFile.text` writes it.

Every text of the catalog that reaches the file is escaped on the way: comments are put on one
line, since they stand in line comments; a tag's settings go through `tagValue`; the table's name
is written as a string literal where the method returns it.
-/

namespace Scribe.Document

open Scribe.Text Scribe.Schema

/-! ### Tags -/

/-- Texts joined by semicolons. -/
def joinSettings : List (List Char) → List Char
  | [] => []
  | [s] => s
  | s :: rest => s ++ ';' :: joinSettings rest

/-- The settings of a column's tag.  A marker stands only for what the column has; an empty
default is written as two quotes, so that it differs from no default. -/
def tagSettings (c : Column) : List (List Char) :=
  ["column:".toList ++ tagValue c.name.toList] ++
  (if c.isPrimaryKey then ["primary_key".toList] else []) ++
  (if c.isAutoIncrement then ["AUTO_INCREMENT".toList] else []) ++
  (if c.nullable then [] else ["NOT NULL".toList]) ++
  (match c.default with
    | none => []
    | some value =>
      if value = "" then ["default:''".toList]
      else ["default:".toList ++ tagValue value.toList]) ++
  (if c.commentText = "" then []
    else ["comment:'".toList ++ tagValue c.commentText.toList ++ "'".toList])

/-- The tag of a column's field, without the backquotes around it. -/
def fieldTag (c : Column) : List Char :=
  "gorm:\"".toList ++ joinSettings (tagSettings c) ++ "\"".toList

/-! ### The file -/

/-- A field of a struct. -/
structure StructField where
  name : String
  /-- The type, empty if the column type has no counterpart. -/
  type : String
  column : String
  tag : String
  /-- The column comment on one line. -/
  comment : String
  deriving Repr, DecidableEq

/-- What a struct file says. -/
structure StructFile where
  package : String
  structName : String
  tableName : String
  /-- The table's name as the inside of a string literal. -/
  tableLiteral : String
  /-- The table comment on one line. -/
  comment : String
  importsTime : Bool
  fields : List StructField
  deriving Repr, DecidableEq

/-- The field for a column. -/
def StructField.ofColumn (c : Column) : StructField where
  name := c.fieldName
  type := c.fieldType.spelling
  column := c.name
  tag := String.ofList (fieldTag c)
  comment := String.ofList (flatten c.commentText.toList)

/-- The package asked for, or else one made from the table's name. -/
def packageFor (table : String) (package : Option String) : String :=
  match (package.map fun p => trim p.toList).filter (· ≠ []) with
  | some p => String.ofList p
  | none => String.ofList (packageName table.toList)

/-- The struct file for a table. -/
def StructFile.ofTable (t : Table) (package : Option String) : StructFile where
  package := packageFor t.name package
  structName := String.ofList (upperCamel t.name.toList)
  tableName := t.name
  tableLiteral := String.ofList (stringLiteral t.name.toList)
  comment := String.ofList (flatten t.comment.toList)
  importsTime := t.usesTime
  fields := t.columns.map StructField.ofColumn

/-! ### Writing it -/

def StructField.line (f : StructField) : String :=
  "\t" ++ f.name ++ " " ++ f.type ++ " `" ++ f.tag ++ "`" ++
    (if f.comment = "" then "" else " // " ++ f.comment)

def StructFile.lines (f : StructFile) : List String :=
  ["package " ++ f.package] ++
  (if f.importsTime then ["", "import \"time\""] else []) ++
  ["",
    if f.comment = "" then
      "// " ++ f.structName ++ " maps the " ++ f.tableName ++ " table."
    else "// " ++ f.structName ++ " " ++ f.comment,
    "type " ++ f.structName ++ " struct \x7b"] ++
  f.fields.map StructField.line ++
  ["\x7d",
    "",
    "// TableName returns the table backing " ++ f.structName ++ ".",
    "func (" ++ f.structName ++ ") TableName() string \x7b",
    "\treturn \"" ++ f.tableLiteral ++ "\"",
    "\x7d"]

/-- The text of the file, before it is formatted. -/
def StructFile.text (f : StructFile) : String := joinLines f.lines

end Scribe.Document
