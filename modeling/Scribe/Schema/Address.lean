import Scribe.Text.Blank
import Scribe.Text.Numeral

/-!
# Database addresses

An address is a host with an optional port after its last colon.  Blanks around it do not count.
A port is read before the host is looked at, so an address with neither is reported for its port.
-/

namespace Scribe.Schema

open Scribe.Text

/-- Where a database listens. -/
structure Address where
  host : String
  port : Nat
  deriving Repr, DecidableEq

/-- Why a text is not an address; `text` is the address without the blanks around it. -/
inductive AddressError where
  | empty
  | invalidPort (text : String) (fault : NumeralFault)
  | missingHost (text : String)
  deriving Repr, DecidableEq

def AddressError.message : AddressError → String
  | .empty => "database address is empty"
  | .invalidPort text fault => "invalid port in address '" ++ text ++ "': " ++ fault.message
  | .missingHost text => "missing host in address '" ++ text ++ "'"

/-- What stands before and after the last colon of a text, if it has one. -/
def splitLastColon : List Char → Option (List Char × List Char)
  | [] => none
  | c :: rest =>
    match splitLastColon rest with
    | some (before, after) => some (c :: before, after)
    | none => if c = ':' then some ([], rest) else none

namespace Address

/-- The port of an address that names none. -/
def defaultPort : Nat := 3306

/-- The largest port. -/
def maxPort : Nat := 65535

/-- Reads an address from which the blanks around it have been taken. -/
def ofTrimmed (a : List Char) : Except AddressError Address :=
  if a = [] then .error .empty
  else
    match splitLastColon a with
    | none => .ok ⟨String.ofList a, defaultPort⟩
    | some (host, port) =>
      match readNumeral maxPort port with
      | .error fault => .error (.invalidPort (String.ofList a) fault)
      | .ok p =>
        if host = [] then .error (.missingHost (String.ofList a))
        else .ok ⟨String.ofList host, p⟩

/-- Reads an address. -/
def parse (text : String) : Except AddressError Address := ofTrimmed (trim text.toList)

end Address

/-! ### Logging in -/

/-- What is needed to open a connection. -/
structure Login where
  addr : String
  user : String
  password : String
  database : String
  deriving Repr, DecidableEq

/-- How a connection is opened.  An empty password or database counts as none. -/
structure ConnectOptions where
  address : Address
  user : String
  password : Option String
  database : Option String
  charset : String
  deriving Repr, DecidableEq

/-- A text, or nothing if it is empty. -/
def nonEmpty (s : String) : Option String := if s = "" then none else some s

def Login.options (login : Login) : Except AddressError ConnectOptions :=
  (Address.parse login.addr).map fun address =>
    { address, user := login.user, password := nonEmpty login.password
      database := nonEmpty login.database, charset := "utf8mb4" }

end Scribe.Schema
