import TierSplit.Diagnostic

/-! Source text and its bytes. Offsets count bytes of the encoded text. A negative offset counts from
the end, and an offset outside the text means its nearest end. -/

namespace TierSplit

inductive Encoding where
  | utf8
  | latin1
  | ascii
deriving Repr, DecidableEq

namespace Encoding

/-- One byte a character, for characters below the limit. -/
def encodeSmall (limit : Nat) (s : String) : Option ByteArray :=
  if s.toList.all (·.toNat < limit) then some ⟨(s.toList.map fun c => c.toNat.toUInt8).toArray⟩
  else none

def encode? : Encoding → String → Option ByteArray
  | .utf8, s => some s.toUTF8
  | .latin1, s => encodeSmall 256 s
  | .ascii, s => encodeSmall 128 s

def decodeSmall (limit : Nat) (bytes : ByteArray) : Option String :=
  if bytes.data.all (·.toNat < limit) then
    some (String.ofList (bytes.data.toList.map fun b => Char.ofNat b.toNat))
  else none

def decode? : Encoding → ByteArray → Option String
  | .utf8, bytes => String.fromUTF8? bytes
  | .latin1, bytes => decodeSmall 256 bytes
  | .ascii, bytes => decodeSmall 128 bytes

end Encoding

namespace Source

/-- The position an offset means in a text of `size` bytes. -/
def position (size : Nat) (offset : Int) : Nat :=
  if offset < 0 then (offset + size).toNat else min offset.toNat size

/-- The bytes between two offsets; none if the second is before the first. -/
def cut (bytes : ByteArray) (start stop : Int) : ByteArray :=
  bytes.extract (position bytes.size start) (position bytes.size stop)

def sliceIn (encoding : Encoding) (bytes : ByteArray) (start stop : Int) : Except Failure String :=
  match encoding.decode? (cut bytes start stop) with
  | some s => .ok s
  | none => .error .cutCharacter

def slice (bytes : ByteArray) (start stop : Int) : Except Failure String :=
  sliceIn .utf8 bytes start stop

end Source

/-- A module: the path that diagnostics name, its text and its grammar. -/
structure Source where
  path : String
  text : String
  language : String
deriving Repr, DecidableEq

namespace Source

def bytes (s : Source) : ByteArray := s.text.toUTF8

def size (s : Source) : Nat := s.text.utf8ByteSize

/-- One line about the tree of a source. -/
def describeTree (s : Source) : String := "AstTree(file=" ++ s.path ++ ", language=" ++ s.language ++ ")"

end Source

end TierSplit
