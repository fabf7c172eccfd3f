import TierSplit.Json.Token

/-! Reading JSON: the tokens drive a stack of containers that are still open. -/

namespace TierSplit.Json

/-- A container that is still open; its items are in reverse. -/
inductive Frame where
  | list (done : List Value)
  | dict (done : Fields) (key : String)

inductive Expect where
  | value
  | firstItem
  | firstKey
  | key
  | colon
  | separator
  | nothing

structure State where
  frames : List Frame
  expect : Expect
  result : Value

def State.start : State := ⟨[], .value, .null⟩

/-- A finished value goes into the innermost open container. -/
def State.plug (frames : List Frame) (v : Value) : State :=
  match frames with
  | [] => ⟨[], .nothing, v⟩
  | .list done :: rest => ⟨.list (v :: done) :: rest, .separator, .null⟩
  | .dict done key :: rest => ⟨.dict (done.insert key v) key :: rest, .separator, .null⟩

def State.openValue (frames : List Frame) : Token → Option State
  | .scalar v => some (.plug frames v)
  | .openList => some ⟨.list [] :: frames, .firstItem, .null⟩
  | .openDict => some ⟨.dict [] "" :: frames, .firstKey, .null⟩
  | _ => none

def State.setKey (frames : List Frame) : Token → Option State
  | .scalar (.str key) =>
    match frames with
    | .dict done _ :: rest => some ⟨.dict done key :: rest, .colon, .null⟩
    | _ => none
  | _ => none

def State.close (frames : List Frame) : Token → Option State
  | .closeList =>
    match frames with
    | .list done :: rest => some (.plug rest (.list done.reverse))
    | _ => none
  | .closeDict =>
    match frames with
    | .dict done _ :: rest => some (.plug rest (.dict done))
    | _ => none
  | _ => none

def State.comma (frames : List Frame) : Option State :=
  match frames with
  | .list _ :: _ => some ⟨frames, .value, .null⟩
  | .dict _ _ :: _ => some ⟨frames, .key, .null⟩
  | [] => none

def State.step (s : State) (t : Token) : Option State :=
  match s.expect, t with
  | .value, t => State.openValue s.frames t
  | .firstItem, .closeList => State.close s.frames .closeList
  | .firstItem, t => State.openValue s.frames t
  | .firstKey, .closeDict => State.close s.frames .closeDict
  | .firstKey, t => State.setKey s.frames t
  | .key, t => State.setKey s.frames t
  | .colon, .colon => some ⟨s.frames, .value, .null⟩
  | .separator, .comma => State.comma s.frames
  | .separator, t => State.close s.frames t
  | _, _ => none

def read (s : State) : List Token → Option Value
  | [] =>
    match s.expect with
    | .nothing => some s.result
    | _ => none
  | t :: rest =>
    match s.step t with
    | some s => read s rest
    | none => none

def parse? (s : String) : Option Value := (tokens? s).bind (read .start)

end TierSplit.Json
