import Scribe.Config.Reader
import Scribe.Files.Tree
import Scribe.Formatter

/-!
# Configuration

Defaults for what is neither given as a flag nor in the environment.  They stand in a file of the
working directory or, if it has none, of the home directory.  A file that cannot be read, or in
which a known setting has a value of the wrong kind, gives no defaults at all; of settings that are
not known it only matters that their values can be read.
-/

namespace Scribe

open Scribe.Config Scribe.Files

/-- Defaults for connections. -/
structure DatabaseDefaults where
  addr : Option String
  user : Option String
  password : Option String
  /-- The name of the schema. -/
  name : Option String
  deriving Repr, DecidableEq

/-- Defaults for all commands. -/
structure Defaults where
  formatter : Option FormatterKind
  /-- The program of the external formatter. -/
  formatterPath : Option String
  templateDir : Option String
  outputDir : Option String
  constType : Option String
  database : DatabaseDefaults
  deriving Repr, DecidableEq

def DatabaseDefaults.none : DatabaseDefaults := ⟨.none, .none, .none, .none⟩

def Defaults.none : Defaults := ⟨.none, .none, .none, .none, .none, .none⟩

/-! ### Settings -/

/-- The text under a key, which need not be there. -/
def textSetting (settings : List (String × Setting)) (key : String) : Option (Option String) :=
  match settings.lookup key with
  | none => some none
  | some (.text s) => some (some s)
  | some _ => none

/-- The formatter that the settings name, which need not be there: by a text, or by the only key of
a table, which has nothing under it. -/
def formatterSetting (settings : List (String × Setting)) : Option (Option FormatterKind) :=
  match settings.lookup "formatter" with
  | none => some none
  | some (.text s) => (FormatterKind.ofName? s).map some
  | some (.table [(name, .table [])]) | some (.table [(name, .list [])]) =>
    (FormatterKind.ofName? name).map some
  | some _ => none

def DatabaseDefaults.ofSettings? (settings : List (String × Setting)) :
    Option DatabaseDefaults := do
  return {
    addr := ← textSetting settings "addr"
    user := ← textSetting settings "user"
    password := ← textSetting settings "password"
    name := ← textSetting settings "name" }

/-- The connection defaults that a value gives: a table, or a list that starts with all four in
their order, and of which the rest does not matter. -/
def DatabaseDefaults.ofSetting? : Setting → Option DatabaseDefaults
  | .table settings => if entriesAreReadable settings then ofSettings? settings else Option.none
  | .list (.text addr :: .text user :: .text password :: .text name :: _) =>
    some ⟨some addr, some user, some password, some name⟩
  | _ => Option.none

def Defaults.ofSettings? (settings : List (String × Setting)) : Option Defaults := do
  let database ←
    match settings.lookup "database" with
    | Option.none => some DatabaseDefaults.none
    | some v => DatabaseDefaults.ofSetting? v
  guard (entriesAreReadable (settings.filter (·.1 ≠ "database")))
  return {
    formatter := ← formatterSetting settings
    formatterPath := ← textSetting settings "gofmt-path"
    templateDir := ← textSetting settings "template-dir"
    outputDir := ← textSetting settings "output-dir"
    constType := ← textSetting settings "const-type"
    database := database }

/-! ### Files -/

/-- The paths at which a configuration file may stand, best first. -/
def configPaths (home : Option String) : List String :=
  ".metagen.toml" :: (home.map fun h => join (join h ".config") "metagen.toml").toList

/-- The configuration file to read. -/
def configFile? (t : Tree) (home : Option String) : Option String :=
  (configPaths home).find? t.isFile

/-- The defaults that apply. -/
def loadDefaults (t : Tree) (home : Option String) : Defaults :=
  (do
    let path ← configFile? t home
    let source ← (t.readText path).toOption
    let settings ← readSettings source
    Defaults.ofSettings? settings).getD .none

/-- A path of the configuration, in which a tilde and a slash stand for the home directory. -/
def expandHome (home : Option String) (path : String) : String :=
  match home, path.toList with
  | some h, '~' :: '/' :: rest => join h (String.ofList rest)
  | _, _ => path

end Scribe
