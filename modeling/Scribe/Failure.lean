/-!
# Failures

What a run ends with when it does not write its file.  Each stage has errors of its own, by cause;
here they meet, as the stage and the text that is shown to the user.  The stage is named in
diagnostics, and its preamble begins the message.
-/

namespace Scribe

/-- A failed stage of a run. -/
inductive Failure where
  | connection (text : String)
  | query (text : String)
  | parse (line : Nat) (text : String)
  | template (text : String)
  | format (text : String)
  | io (path : String) (text : String)
  | config (text : String)
  deriving Repr, DecidableEq

namespace Failure

/-- The name of the stage. -/
def stage : Failure → String
  | connection _ => "connection"
  | query _ => "query"
  | parse .. => "parse"
  | template _ => "template"
  | format _ => "format"
  | io .. => "io"
  | config _ => "config"

/-- The message for the user. -/
def message : Failure → String
  | connection text => "Connection error: " ++ text
  | query text => "Query error: " ++ text
  | parse line text => "Parse error at line " ++ toString line ++ ": " ++ text
  | template text => "Template error: " ++ text
  | format text => "Format error: " ++ text
  | io path text => "IO error for '" ++ path ++ "': " ++ text
  | config text => "Configuration error: " ++ text

end Failure

end Scribe
