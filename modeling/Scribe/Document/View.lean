import Scribe.Document.LookupFile
import Scribe.Document.MarkdownPage
import Scribe.Document.StructFile
import Scribe.Template.Value

/-!
# Documents as values

What a template sees of a document.  The names of the fields are part of the contract with the
writers of templates, and every field of a document is there, the derived lines included.
-/

namespace Scribe.Document

open Scribe.Template

def StructField.view (f : StructField) : Value :=
  .ofFields [
    ("name", .text f.name), ("go_type", .text f.type), ("column", .text f.column),
    ("tag", .text f.tag), ("comment", .text f.comment)]

def StructFile.view (f : StructFile) : Value :=
  .ofFields [
    ("package", .text f.package), ("struct_name", .text f.structName),
    ("table_name", .text f.tableName), ("table_literal", .text f.tableLiteral),
    ("comment", .text f.comment), ("needs_time_import", .bool f.importsTime),
    ("fields", .list (f.fields.map StructField.view))]

def GridRow.view (r : GridRow) : Value :=
  .ofFields [
    ("ordinal", .ofNat r.ordinal), ("name", .text r.name), ("column_type", .text r.columnType),
    ("key", .text r.key), ("nullable", .text r.nullable), ("extra", .text r.extra),
    ("default", .text r.default), ("comment", .text r.comment), ("line", .text r.line)]

def MarkdownPage.view (p : MarkdownPage) : Value :=
  .ofFields [
    ("schema", .text p.schema), ("table", .text p.table), ("comment", .text p.comment),
    ("header", .text p.header), ("align", .text p.align),
    ("rows", .list (p.rows.map GridRow.view))]

def LookupEntry.view (e : LookupEntry) : Value :=
  .ofFields [("name", .text e.name), ("message", .text e.message), ("literal", .text e.literal)]

def LookupFile.view (f : LookupFile) : Value :=
  .ofFields [
    ("package", .text f.package), ("const_type", .text f.constType),
    ("entries", .list (f.entries.map LookupEntry.view)), ("emit_stringer", .bool f.emitStringer)]

end Scribe.Document
