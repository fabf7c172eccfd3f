import TierSplit.Concrete.Parsed

/-! The script section of a component document. -/

namespace TierSplit.Component

/-- Script text and the byte range it has in the document. -/
structure Script where
  text : String
  start : Int
  stop : Int
deriving Repr, DecidableEq

def findScript? (root : Concrete.Node) : Option Concrete.Node :=
  Concrete.Node.search (·.kind == "script_element") [root]

/-- The raw text of an element; an element without any is empty just after its first part. -/
def scriptOf (bytes : ByteArray) (element : Concrete.Node) : Except Failure Script :=
  match element.children.find? (·.kind == "raw_text") with
  | some raw => (Source.slice bytes raw.start raw.stop).map fun text => ⟨text, raw.start, raw.stop⟩
  | none =>
    match element.children with
    | tag :: _ => .ok ⟨"", tag.stop, tag.stop⟩
    | [] => .error .emptyElement

def extract (document path : String) (tree : Option Concrete.Node) : Except Failure Script :=
  let source : Source := ⟨path, document, "html"⟩
  match (Concrete.accept source true tree).tree with
  | .error e => .error e
  | .ok root =>
    match findScript? root with
    | some element => scriptOf source.bytes element
    | none => .error (.diagnostic (.noScript path))

end TierSplit.Component
