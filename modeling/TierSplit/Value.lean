import TierSplit.Decimal.Shortest
import TierSplit.Text.Quoted

/-! Plain data: what settings are given as, what diagnostics carry as context and log events as
fields. The entries of a dictionary keep their order, and writing a key again keeps its place. -/

namespace TierSplit

inductive Value where
  | null
  | bool (b : Bool)
  | int (n : Int)
  | float (x : Float)
  | str (s : String)
  | list (items : List Value)
  | dict (entries : List (String × Value))
deriving Repr, BEq

instance : Inhabited Value := ⟨.null⟩

namespace Value

def nat (n : Nat) : Value := .int n

def strs (items : List String) : Value := .list (items.map .str)

def ints (items : List Int) : Value := .list (items.map .int)

end Value

/-- Named data in order. -/
abbrev Fields := List (String × Value)

namespace Fields

def get? (fields : Fields) (key : String) : Option Value :=
  (fields.find? (·.1 == key)).map (·.2)

def insert (key : String) (value : Value) : Fields → Fields
  | [] => [(key, value)]
  | entry :: rest =>
    if entry.1 = key then (key, value) :: rest else entry :: insert key value rest

/-- The later fields win. -/
def update (fields later : Fields) : Fields := later.foldl (fun acc e => acc.insert e.1 e.2) fields

end Fields

def Value.get? : Value → String → Option Value
  | .dict entries, key => Fields.get? entries key
  | _, _ => none

def floatLiteral (x : Float) : String :=
  match Decimal.Number.ofFloat x with
  | .notANumber => "nan"
  | .infinite negative => if negative then "-inf" else "inf"
  | .finite b => b.text

def intLiteral (n : Int) : String := if n < 0 then "-" ++ Nat.repr n.natAbs else Nat.repr n.natAbs

mutual

/-- The literal form of a value, as messages show it. -/
def Value.literal : Value → String
  | .null => "None"
  | .bool b => if b then "True" else "False"
  | .int n => intLiteral n
  | .float x => floatLiteral x
  | .str s => Text.quoted s
  | .list items => "[" ++ ", ".intercalate (literalItems items) ++ "]"
  | .dict entries => "\x7b" ++ ", ".intercalate (literalEntries entries) ++ "\x7d"

def literalItems : List Value → List String
  | [] => []
  | v :: rest => v.literal :: literalItems rest

def literalEntries : List (String × Value) → List String
  | [] => []
  | (k, v) :: rest => (Text.quoted k ++ ": " ++ v.literal) :: literalEntries rest

end

/-- As `literal`, but a string stands without quotes. -/
def Value.display : Value → String
  | .str s => s
  | v => v.literal

end TierSplit
