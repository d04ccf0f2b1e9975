import Scribe.Schema.Address
import Scribe.Schema.Table

/-!
# Catalogs

A catalog server answers two questions about a table: its comment, and its columns.  A server is
the rows that it would answer from, in the order in which it would send them, and the faults that
it reports instead.  Nothing is asked of that order: `fetchTable` sorts, so any two orders of the
same rows give the same table.

A network is the servers by address, and whether any address can be reached.
-/

namespace Scribe.Schema

/-! ### Rows -/

/-- A row of the query for table comments. -/
structure CommentRow where
  schema : String
  table : String
  comment : Option String
  deriving Repr, DecidableEq

/-- A row of the query for columns; a missing value is `NULL`. -/
structure ColumnRow where
  schema : String
  table : String
  ordinal : Option Nat
  name : Option String
  columnType : Option String
  dataType : Option String
  key : Option String
  isNullable : Option String
  extra : Option String
  comment : Option String
  default : Option String
  deriving Repr, DecidableEq

/-- An error that a server reports. -/
structure ServerFault where
  code : Nat
  state : String
  text : String
  deriving Repr, DecidableEq

def ServerFault.message (f : ServerFault) : String :=
  "error returned from database: " ++ toString f.code ++ " (" ++ f.state ++ "): " ++ f.text

/-- A catalog server. -/
structure Server where
  comments : List CommentRow
  columns : List ColumnRow
  /-- What connecting fails with. -/
  connectFault : Option ServerFault
  /-- What the query for table comments fails with. -/
  commentsFault : Option ServerFault
  /-- What the query for columns fails with. -/
  columnsFault : Option ServerFault
  deriving Repr, DecidableEq

/-! ### Errors -/

/-- Why rows of columns cannot be had. -/
inductive RowFault where
  | server (fault : ServerFault)
  /-- The named column of the answer holds `NULL` where a value is needed. -/
  | null (column : String)
  deriving Repr, DecidableEq

def RowFault.message : RowFault → String
  | .server fault => fault.message
  | .null column =>
    "error occurred while decoding column \"" ++ column ++
      "\": unexpected null; try decoding as an `Option`"

/-- Why a question about a table is not answered. -/
inductive CatalogError where
  | comment (schema : String) (table : String) (fault : ServerFault)
  | notFound (schema : String) (table : String)
  | ambiguous (schema : String) (table : String) (rows : Nat)
  | columns (schema : String) (table : String) (fault : RowFault)
  | ordinalOutOfRange (ordinal : Nat) (column : String)
  /-- The columns do not make up one table. -/
  | malformed (e : TableError)
  deriving Repr, DecidableEq

def CatalogError.message : CatalogError → String
  | .comment schema table fault =>
    "table comment lookup for " ++ schema ++ "." ++ table ++ ": " ++ fault.message
  | .notFound schema table => "table " ++ schema ++ "." ++ table ++ " not found"
  | .ambiguous schema table rows =>
    "table comment lookup for " ++ schema ++ "." ++ table ++ " returned " ++ toString rows ++
      " rows"
  | .columns schema table fault =>
    "column lookup for " ++ schema ++ "." ++ table ++ ": " ++ fault.message
  | .ordinalOutOfRange ordinal column =>
    "ordinal position " ++ toString ordinal ++ " of column '" ++ column ++ "' is out of range"
  | .malformed e => e.message

/-! ### Rows as columns -/

/-- The values that a row must have, and the row. -/
structure CheckedRow where
  ordinal : Nat
  name : String
  columnType : String
  dataType : String
  isNullable : String
  row : ColumnRow

/-- A value that must not be `NULL`. -/
def required {α : Type} (column : String) (value : Option α) : Except RowFault α :=
  match value with
  | some v => .ok v
  | none => .error (.null column)

/-- Checks the values of a row in the order in which they are sent. -/
def ColumnRow.check (r : ColumnRow) : Except RowFault CheckedRow := do
  let ordinal ← required "ordinal_position" r.ordinal
  let name ← required "column_name" r.name
  let columnType ← required "column_type" r.columnType
  let dataType ← required "data_type" r.dataType
  let isNullable ← required "is_nullable" r.isNullable
  return { ordinal, name, columnType, dataType, isNullable, row := r }

/-- The largest ordinal that a column can have. -/
def maxOrdinal : Nat := 4294967295

/-- The column that a row describes. -/
def CheckedRow.toColumn (r : CheckedRow) : Except CatalogError Column :=
  if maxOrdinal < r.ordinal then .error (.ordinalOutOfRange r.ordinal r.name)
  else
    .ok { ordinal := r.ordinal, name := r.name, columnType := r.columnType
          dataType := r.dataType, key := r.row.key
          nullable := Column.sameIgnoringCase r.isNullable "YES"
          extra := r.row.extra, comment := r.row.comment, default := r.row.default }

/-! ### Queries -/

namespace Server

/-- The comment of a table, empty if it is `NULL`.  Exactly one row has to match. -/
def fetchComment (s : Server) (schema table : String) : Except CatalogError String :=
  match s.commentsFault with
  | some fault => .error (.comment schema table fault)
  | none =>
    match s.comments.filter fun r => r.schema = schema && r.table = table with
    | [] => .error (.notFound schema table)
    | [r] => .ok (r.comment.getD "")
    | rows => .error (.ambiguous schema table rows.length)

/-- The columns of a table, in the order in which the server sends them.  All rows are checked
before any is made a column. -/
def fetchColumns (s : Server) (schema table : String) : Except CatalogError (List Column) := do
  match s.columnsFault with
  | some fault => .error (.columns schema table (.server fault))
  | none =>
    let rows := s.columns.filter fun r => r.schema = schema && r.table = table
    match rows.mapM ColumnRow.check with
    | .error fault => .error (.columns schema table fault)
    | .ok checked => checked.mapM CheckedRow.toColumn

/-- A table with its comment and columns. -/
def fetchTable (s : Server) (schema table : String) : Except CatalogError Table :=
  match s.fetchComment schema table with
  | .error e => .error e
  | .ok comment =>
    match s.fetchColumns schema table with
    | .error e => .error e
    | .ok columns =>
      match Table.ofColumns schema table comment columns with
      | .error e => .error (.malformed e)
      | .ok t => .ok t

end Server

/-! ### Networks -/

/-- The servers that can be connected to. -/
structure Network where
  /-- Whether any address can be reached. -/
  reachable : Bool
  servers : List (Address × Server)
  deriving Repr, DecidableEq

/-- Why no connection comes about although the address is well formed. -/
inductive LinkFault where
  | unreachable
  /-- Nothing listens at the address. -/
  | refused
  | server (fault : ServerFault)
  deriving Repr, DecidableEq

def LinkFault.message : LinkFault → String
  | .unreachable =>
    "error communicating with database: Network is unreachable (os error 101)"
  | .refused => "error communicating with database: Connection refused (os error 111)"
  | .server fault => fault.message

/-- Why a connection is not opened. -/
inductive ConnectError where
  | address (e : AddressError)
  | link (addr : String) (user : String) (fault : LinkFault)
  deriving Repr, DecidableEq

def ConnectError.message : ConnectError → String
  | .address e => e.message
  | .link addr user fault =>
    "cannot connect to '" ++ addr ++ "' as '" ++ user ++ "': " ++ fault.message

namespace Network

/-- What listens at an address. -/
def reach (n : Network) (address : Address) : Except LinkFault Server :=
  if !n.reachable then .error .unreachable
  else
    match n.servers.lookup address with
    | none => .error .refused
    | some server =>
      match server.connectFault with
      | some fault => .error (.server fault)
      | none => .ok server

/-- Opens a connection. -/
def connect (n : Network) (login : Login) : Except ConnectError Server :=
  match login.options with
  | .error e => .error (.address e)
  | .ok options =>
    match n.reach options.address with
    | .error fault => .error (.link login.addr login.user fault)
    | .ok server => .ok server

end Network

end Scribe.Schema
