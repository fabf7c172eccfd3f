import TierSplit.CommandLine.Handler
import TierSplit.CommandLine.Style
import TierSplit.Text.Emoji

/-! Console markup: a tag in brackets opens a style and a tag with a slash closes it; neither is shown. A
backslash keeps a tag as text, and a name between colons shows an emoji. -/

namespace TierSplit.CommandLine

def isTagStart (c : Char) : Bool := c.isLower || c == '#' || c == '/' || c == '@'

def tag? : List Char → Option (List Char × List Char)
  | '[' :: c :: rest =>
    if isTagStart c then
      match rest.dropWhile fun d => d != ']' && d != '[' with
      | ']' :: after => some (c :: rest.takeWhile fun d => d != ']' && d != '[', after)
      | _ => none
    else none
  | _ => none

inductive Piece where
  | text (cs : List Char)
  | tag (cs : List Char)
deriving Repr, DecidableEq

def textPiece (cs : List Char) : List Piece := if cs.isEmpty then [] else [.text cs]

/-- Text and tags in order; `text` holds what has been read since the last tag, in reverse. Of the
backslashes before a tag every two stand for one, and an odd one keeps the tag as text. -/
def pieces (text : List Char) : Nat → List Char → List Piece
  | 0, cs => textPiece (text.reverse ++ cs)
  | fuel + 1, cs =>
    let slashes := cs.takeWhile (· == '\\')
    let after := cs.dropWhile (· == '\\')
    match tag? after with
    | some (inside, rest) =>
      textPiece text.reverse ++ textPiece (slashes.take (slashes.length / 2)) ++
        (if slashes.length % 2 = 1 then .text ('[' :: inside ++ [']']) else .tag inside) ::
          pieces [] fuel rest
    | none =>
      match after with
      | [] => textPiece (text.reverse ++ slashes)
      | c :: rest => pieces (c :: slashes ++ text) fuel rest

/-- A backslash before a bracket that opens no tag is not shown. -/
def dropEscapes : List Char → List Char
  | '\\' :: '[' :: rest => '[' :: dropEscapes rest
  | c :: rest => c :: dropEscapes rest
  | [] => []

def isDropped (c : Char) : Bool := [7, 8, 11, 12, 13].contains c.toNat

def shownText (cs : List Char) : List Char :=
  (Text.Emoji.replace (dropEscapes cs)).filter fun c => !isDropped c

/-- A style that is open: its normal form and the text after its equals sign. -/
structure Opened where
  style : String
  handler : Option (List Char)
deriving Repr, DecidableEq

def normalStyle (name : List Char) : String :=
  Style.normalForm (Text.words (String.ofList name)) (String.ofList (Text.trim name))

/-- A tag that opens a style; one that begins with an at sign names a handler. -/
def Opened.ofTag (tag : List Char) : Opened :=
  let name := tag.takeWhile (· != '=')
  let value := (tag.dropWhile (· != '=')).drop 1
  ⟨normalStyle name, if name.head? = some '@' ∧ value ≠ [] then some (Text.trim value) else none⟩

/-- A handler is looked at when its style is closed. -/
def Opened.closes (o : Opened) : Bool :=
  match o.handler with
  | some text => Handler.isValid text
  | none => true

def takeStyle (style : String) : List Opened → Option (Opened × List Opened)
  | [] => none
  | o :: rest =>
    if o.style = style then some (o, rest) else (takeStyle style rest).map fun r => (r.1, o :: r.2)

def close? (style : List Char) (opened : List Opened) : Option (Opened × List Opened) :=
  match style, opened with
  | [], o :: rest => some (o, rest)
  | [], [] => none
  | _, _ => takeStyle (normalStyle style) opened

/-- The styles still open after a tag; closing what is not open is an error. -/
def applyTag (opened : List Opened) (tag : List Char) : Option (List Opened) :=
  match tag with
  | '/' :: rest =>
    match close? (Text.trim (rest.takeWhile (· != '='))) opened with
    | some (o, others) => if o.closes then some others else none
    | none => none
  | _ => some (.ofTag tag :: opened)

def render (opened : List Opened) : List Piece → Option (List Char)
  | [] => some []
  | .text cs :: rest => (render opened rest).map (shownText cs ++ ·)
  | .tag tag :: rest =>
    match applyTag opened tag with
    | some opened => render opened rest
    | none => none

def shown? (markup : String) : Option String :=
  (render [] (pieces [] (markup.length + 1) markup.toList)).map String.ofList

end TierSplit.CommandLine
