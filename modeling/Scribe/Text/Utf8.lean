/-!
# Reading bytes as text

Texts are stored as UTF-8.  `decodeUtf8` reads bytes back, or says where they stop being text: at
a sequence that no continuation could make valid, with its length, or at a sequence that the end
of the bytes cuts off.  `decodeLossy` reads any bytes, with a replacement character for each such
sequence.
-/

namespace Scribe.Text

/-- Where bytes stop being text. -/
inductive Utf8Fault where
  | invalid (length : Nat) (index : Nat)
  | incomplete (index : Nat)
  deriving Repr, DecidableEq

def Utf8Fault.message : Utf8Fault → String
  | .invalid length index =>
    "invalid utf-8 sequence of " ++ toString length ++ " bytes from index " ++ toString index
  | .incomplete index => "incomplete utf-8 byte sequence from index " ++ toString index

/-- What bytes begin with. -/
inductive Utf8Step where
  | char (c : Char) (width : Nat)
  /-- That many bytes that are no text. -/
  | invalid (width : Nat)
  /-- All bytes are left, and they begin a longer sequence. -/
  | incomplete
  deriving Repr, DecidableEq

/-- How many bytes follow a leading byte, and the range of the first of them. -/
def utf8Lead (b : Nat) : Option (Nat × Nat × Nat) :=
  if 0xc2 ≤ b && b ≤ 0xdf then some (1, 0x80, 0xbf)
  else if b = 0xe0 then some (2, 0xa0, 0xbf)
  else if b = 0xed then some (2, 0x80, 0x9f)
  else if 0xe1 ≤ b && b ≤ 0xef then some (2, 0x80, 0xbf)
  else if b = 0xf0 then some (3, 0x90, 0xbf)
  else if 0xf1 ≤ b && b ≤ 0xf3 then some (3, 0x80, 0xbf)
  else if b = 0xf4 then some (3, 0x80, 0x8f)
  else none

/-- Takes `count` continuation bytes; `width` bytes of the sequence and the bits `bits` are
already read. -/
def utf8Rest (lo hi : Nat) (width bits : Nat) : Nat → List UInt8 → Utf8Step
  | 0, _ => .char (Char.ofNat bits) width
  | _ + 1, [] => .incomplete
  | count + 1, b :: rest =>
    let b := b.toNat
    if lo ≤ b && b ≤ hi then utf8Rest 0x80 0xbf (width + 1) (bits * 64 + b % 64) count rest
    else .invalid width

/-- What bytes begin with. -/
def utf8Step (b : UInt8) (rest : List UInt8) : Utf8Step :=
  let n := b.toNat
  if n < 0x80 then .char (Char.ofNat n) 1
  else
    match utf8Lead n with
    | none => .invalid 1
    | some (count, lo, hi) => utf8Rest lo hi 1 (n % (0x40 >>> count)) count rest

/-- The first fault of bytes that start at `index`; `skip` bytes belong to a character already
read. -/
def utf8FaultFrom (index skip : Nat) : List UInt8 → Option Utf8Fault
  | [] => none
  | b :: rest =>
    match skip with
    | skip + 1 => utf8FaultFrom (index + 1) skip rest
    | 0 =>
      match utf8Step b rest with
      | .char _ width => utf8FaultFrom (index + 1) (width - 1) rest
      | .invalid width => some (.invalid width index)
      | .incomplete => some (.incomplete index)

/-- Bytes as text. -/
def decodeUtf8 (bytes : ByteArray) : Except Utf8Fault String :=
  match String.fromUTF8? bytes with
  | some s => .ok s
  | none => .error ((utf8FaultFrom 0 0 bytes.toList).getD (.incomplete 0))

/-- The character that stands for bytes that are no text. -/
def replacementChar : Char := '\ufffd'

/-- Bytes as text, faults replaced; `skip` bytes have already been accounted for. -/
def decodeLossy (skip : Nat) : List UInt8 → List Char
  | [] => []
  | b :: rest =>
    match skip with
    | skip + 1 => decodeLossy skip rest
    | 0 =>
      match utf8Step b rest with
      | .char c width => c :: decodeLossy (width - 1) rest
      | .invalid width => replacementChar :: decodeLossy (width - 1) rest
      | .incomplete => [replacementChar]

end Scribe.Text
