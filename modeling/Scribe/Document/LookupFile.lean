import Scribe.Document.Lines
import Scribe.Source.Comments
import Scribe.Text.Blank
import Scribe.Text.Escape

/-!
# Lookup files

The source file that maps constants to their messages: a map literal with one entry per commented
constant, in the order of the names, and a function that looks a code up.  If the constants have a
type of their own, the type gets a method that gives its message.
-/

namespace Scribe.Document

open Scribe.Text Scribe.Source

/-- The constant type that gets no method, and that stands for a blank one. -/
def defaultConstType : String := "int"

/-- A constant with its message. -/
structure LookupEntry where
  name : String
  message : String
  /-- The message as the inside of a string literal. -/
  literal : String
  deriving Repr, DecidableEq

/-- What a lookup file says. -/
structure LookupFile where
  package : String
  constType : String
  entries : List LookupEntry
  /-- Whether the constant type gets a method. -/
  emitStringer : Bool
  deriving Repr, DecidableEq

def LookupEntry.ofComment (name message : String) : LookupEntry where
  name := name
  message := message
  literal := String.ofList (stringLiteral message.toList)

/-- The constant type that a text names. -/
def constTypeOf (text : String) : String :=
  let type := String.ofList (trim text.toList)
  if type = "" then defaultConstType else type

/-- The lookup file for some comments. -/
def LookupFile.ofComments (package constType : String) (comments : Comments) : LookupFile where
  package := package
  constType := constTypeOf constType
  entries := comments.entries.map fun (name, text) => .ofComment name text
  emitStringer := constTypeOf constType ≠ defaultConstType

/-! ### Writing it -/

def LookupEntry.line (e : LookupEntry) : String := "\t" ++ e.name ++ ": \"" ++ e.literal ++ "\","

def LookupFile.lines (f : LookupFile) : List String :=
  ["// Code generated by metagen-ctl. DO NOT EDIT.",
    "",
    "// Package " ++ f.package ++ " maps constant codes to their messages.",
    "package " ++ f.package,
    "",
    "// noMsg is returned by GetMsg for codes without a message.",
    "const noMsg = \"unknown\"",
    "",
    "var messages = map[" ++ f.constType ++ "]string\x7b"] ++
  f.entries.map LookupEntry.line ++
  ["\x7d"] ++
  (if f.emitStringer then
    ["",
      "// String returns the message of code.",
      "func (code " ++ f.constType ++ ") String() string \x7b",
      "\treturn GetMsg(code)",
      "\x7d"]
  else []) ++
  ["",
    "// GetMsg returns the message of code, or \"unknown\" if it has none.",
    "func GetMsg(code " ++ f.constType ++ ") string \x7b",
    "\tif msg, ok := messages[code]; ok \x7b",
    "\t\treturn msg",
    "\t\x7d",
    "\treturn noMsg",
    "\x7d"]

/-- The text of the file, before it is formatted. -/
def LookupFile.text (f : LookupFile) : String := joinLines f.lines

end Scribe.Document
