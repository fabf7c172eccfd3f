import TierSplit.Text.LowerCase
import TierSplit.Text.WholeNumber

/-! Resource paths: a file path and, after the first question mark, a query. A resource is compiled if
its suffix is a component's and its query carries the flag with a value that means yes. -/

namespace TierSplit.Resource

def splitFirst (separator : Char) : List Char → List Char × Option (List Char)
  | [] => ([], none)
  | c :: rest =>
    if c = separator then ([], some rest)
    else
      let parts := splitFirst separator rest
      (c :: parts.1, parts.2)

def pieces (separator : Char) : List Char → List (List Char)
  | [] => [[]]
  | c :: rest =>
    if c = separator then [] :: pieces separator rest
    else
      match pieces separator rest with
      | piece :: more => (c :: piece) :: more
      | [] => [[c]]

/-- The last component of a path; empty components and single dots do not count. -/
def fileName (path : List Char) : List Char :=
  ((pieces '/' path).filter fun p => !p.isEmpty && p != ['.']).getLast?.getD []

/-- The name from its last dot on, unless that dot is its first or last character. -/
def suffix (path : List Char) : List Char :=
  let name := fileName path
  let after := name.reverse.takeWhile (· != '.')
  let stem := name.length - after.length
  if after.length < name.length ∧ 1 < stem ∧ !after.isEmpty then '.' :: after.reverse else []

def percentByte? (a b : Char) : Option UInt8 :=
  match Text.hexValue? a, Text.hexValue? b with
  | some high, some low => some (16 * high + low).toUInt8
  | _, _ => none

inductive Unescaped where
  | plain (c : Char)
  | byte (b : UInt8)

def unescape : List Char → List Unescaped
  | '%' :: a :: b :: rest =>
    match percentByte? a b with
    | some byte => .byte byte :: unescape rest
    | none => .plain '%' :: unescape (a :: b :: rest)
  | c :: rest => .plain c :: unescape rest
  | [] => []

def replacement : Char := Char.ofNat 0xFFFD

/-- The number of bytes that a first byte announces, and the range of the second byte. -/
def lead? (b : UInt8) : Option (Nat × Nat × Nat) :=
  let n := b.toNat
  if 0xC2 ≤ n ∧ n < 0xE0 then some (2, 0x80, 0xBF)
  else if n = 0xE0 then some (3, 0xA0, 0xBF)
  else if n = 0xED then some (3, 0x80, 0x9F)
  else if 0xE1 ≤ n ∧ n < 0xF0 then some (3, 0x80, 0xBF)
  else if n = 0xF0 then some (4, 0x90, 0xBF)
  else if 0xF1 ≤ n ∧ n < 0xF4 then some (4, 0x80, 0xBF)
  else if n = 0xF4 then some (4, 0x80, 0x8F)
  else none

/-- A character being read: how many bytes are to come, the range of the next one, and the bits so
far. -/
structure Partial where
  missing : Nat
  low : Nat
  high : Nat
  bits : Nat

def startChar (b : UInt8) : List Char × Option Partial :=
  if b.toNat < 0x80 then ([Char.ofNat b.toNat], none)
  else
    match lead? b with
    | some (2, low, high) => ([], some ⟨1, low, high, b.toNat - 0xC0⟩)
    | some (3, low, high) => ([], some ⟨2, low, high, b.toNat - 0xE0⟩)
    | some (_, low, high) => ([], some ⟨3, low, high, b.toNat - 0xF0⟩)
    | none => ([replacement], none)

def continueChar (p : Partial) (b : UInt8) : List Char × Option Partial :=
  if p.low ≤ b.toNat ∧ b.toNat ≤ p.high then
    let bits := 64 * p.bits + (b.toNat - 0x80)
    if p.missing = 1 then ([Char.ofNat bits], none) else ([], some ⟨p.missing - 1, 0x80, 0xBF, bits⟩)
  else
    let fresh := startChar b
    (replacement :: fresh.1, fresh.2)

/-- UTF-8 with one replacement character for every broken sequence. -/
def decodeFrom (state : Option Partial) : List Unescaped → List Char
  | [] =>
    match state with
    | some _ => [replacement]
    | none => []
  | .plain c :: rest =>
    match state with
    | some _ => replacement :: c :: decodeFrom none rest
    | none => c :: decodeFrom none rest
  | .byte b :: rest =>
    let read :=
      match state with
      | some p => continueChar p b
      | none => startChar b
    read.1 ++ decodeFrom read.2 rest

/-- A plus sign means a space; escapes spell bytes of UTF-8. -/
def decode (cs : List Char) : String :=
  String.ofList (decodeFrom none (unescape (cs.map fun c => if c = '+' then ' ' else c)))

def parameter (piece : List Char) : String × String :=
  let parts := splitFirst '=' piece
  (decode parts.1, decode (parts.2.getD []))

abbrev Query := List (String × List String)

namespace Query

def add (key value : String) : Query → Query
  | [] => [(key, [value])]
  | entry :: rest =>
    if entry.1 = key then (key, entry.2 ++ [value]) :: rest else entry :: add key value rest

/-- Empty pieces between ampersands do not count. -/
def parse (query : List Char) : Query :=
  ((pieces '&' query).filter fun p => !p.isEmpty).foldl
    (fun q piece => q.add (parameter piece).1 (parameter piece).2) []

def values (query : Query) (key : String) : List String :=
  ((query.find? (·.1 == key)).map (·.2)).getD []

end Query

def meansYes (value : String) : Bool := ["", "1", "true", "yes"].contains (Text.lowerCase value)

def hasExtension (extensions : List String) (path : List Char) : Bool :=
  (extensions.map Text.lowerCase).contains (Text.lowerCase (String.ofList (suffix path)))

/-- Whether a resource asks to be compiled: of several values of the flag the last one counts. -/
def isFlagged (extensions : List String) (flag resource : String) : Bool :=
  let parts := splitFirst '?' resource.toList
  hasExtension extensions parts.1 &&
    match ((Query.parse (parts.2.getD [])).values flag).getLast? with
    | some value => meansYes value
    | none => false

end TierSplit.Resource
