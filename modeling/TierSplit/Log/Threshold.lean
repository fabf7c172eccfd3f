/-! The threshold of a log: the least severity that is written, given by the name of a level. -/

namespace TierSplit.Log

/-- Upper-casing, as far as it can lead to ASCII letters. -/
def upperChar (c : Char) : List Char :=
  match c.toNat with
  | 0xDF => ['S', 'S']
  | 0x131 => ['I']
  | 0x17F => ['S']
  | 0xFB00 => ['F', 'F']
  | 0xFB01 => ['F', 'I']
  | 0xFB02 => ['F', 'L']
  | 0xFB03 => ['F', 'F', 'I']
  | 0xFB04 => ['F', 'F', 'L']
  | 0xFB05 => ['S', 'T']
  | 0xFB06 => ['S', 'T']
  | _ => [c.toUpper]

def upperCase (s : String) : String := String.ofList (s.toList.flatMap upperChar)

/-- What a name of a level stands for. Two names are taken by something that is no level. -/
inductive LevelName where
  | severity (n : Nat)
  /-- The name stands for a text, and the text names no level. -/
  | text (s : String)
  /-- The name stands for a table. -/
  | table
  | unknown
deriving Repr, DecidableEq

def LevelName.ofString (name : String) : LevelName :=
  match upperCase name with
  | "CRITICAL" | "FATAL" => .severity 50
  | "ERROR" => .severity 40
  | "WARNING" | "WARN" => .severity 30
  | "INFO" => .severity 20
  | "DEBUG" => .severity 10
  | "NOTSET" => .severity 0
  | "BASIC_FORMAT" => .text "%(levelname)s:%(name)s:%(message)s"
  | "_STYLES" => .table
  | _ => .unknown

end TierSplit.Log
