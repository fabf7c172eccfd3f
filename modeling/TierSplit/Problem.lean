import TierSplit.Value

/-! What is wrong with data that was handed in, and where. -/

namespace TierSplit

inductive Place where
  | field (name : String)
  | index (i : Nat)
deriving Repr, DecidableEq

inductive Complaint where
  | missing
  | notText
  | notList
  | notInteger
  /-- A text that spells no integer. -/
  | unreadableInteger
  | oversizedInteger
  | fractional
  | notFinite
  | notBoolean
  /-- A text or number that stands for neither truth value. -/
  | unreadableBoolean
  | notRecord (name : String)
  | notChoice (first second : String)
  | notMember (first second : String)
  | refused (reason : String)
  | frozen
deriving Repr, DecidableEq

def Complaint.code : Complaint → String
  | .missing => "missing"
  | .notText => "string_type"
  | .notList => "list_type"
  | .notInteger => "int_type"
  | .unreadableInteger => "int_parsing"
  | .oversizedInteger => "int_parsing_size"
  | .fractional => "int_from_float"
  | .notFinite => "finite_number"
  | .notBoolean => "bool_type"
  | .unreadableBoolean => "bool_parsing"
  | .notRecord _ => "model_type"
  | .notChoice _ _ => "literal_error"
  | .notMember _ _ => "enum"
  | .refused _ => "value_error"
  | .frozen => "frozen_instance"

def Complaint.message : Complaint → String
  | .missing => "Field required"
  | .notText => "Input should be a valid string"
  | .notList => "Input should be a valid list"
  | .notInteger => "Input should be a valid integer"
  | .unreadableInteger => "Input should be a valid integer, unable to parse string as an integer"
  | .oversizedInteger => "Unable to parse input string as an integer, exceeded maximum size"
  | .fractional => "Input should be a valid integer, got a number with a fractional part"
  | .notFinite => "Input should be a finite number"
  | .notBoolean => "Input should be a valid boolean"
  | .unreadableBoolean => "Input should be a valid boolean, unable to interpret input"
  | .notRecord name => "Input should be a valid dictionary or instance of " ++ name
  | .notChoice first second | .notMember first second =>
    "Input should be " ++ Text.quoted first ++ " or " ++ Text.quoted second
  | .refused reason => "Value error, " ++ reason
  | .frozen => "Instance is frozen"

structure Problem where
  place : List Place
  complaint : Complaint
deriving Repr, DecidableEq

/-- A value, or everything that is wrong with it. -/
abbrev Checked (α : Type) := Except (List Problem) α

namespace Checked

variable {α β : Type}

def problems : Checked α → List Problem
  | .ok _ => []
  | .error ps => ps

def fail (c : Complaint) : Checked α := .error [⟨[], c⟩]

def within (place : Place) : Checked α → Checked α
  | .ok a => .ok a
  | .error ps => .error (ps.map fun p => { p with place := place :: p.place })

/-- Checks the items of a list, the first one having index `i`. -/
def itemsFrom (check : Value → Checked α) (i : Nat) : List Value → Checked (List α)
  | [] => .ok []
  | v :: rest =>
    match within (.index i) (check v), itemsFrom check (i + 1) rest with
    | .ok a, .ok as => .ok (a :: as)
    | first, others => .error (first.problems ++ others.problems)

def list (check : Value → Checked α) : Value → Checked (List α)
  | .list items => itemsFrom check 0 items
  | _ => fail .notList

def text : Value → Checked String
  | .str s => .ok s
  | _ => fail .notText

end Checked

end TierSplit
