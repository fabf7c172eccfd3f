import TierSplit.Text.Blank
import TierSplit.Text.Cluster

/-! Text on a console: tabs become blanks, and a line that is too wide is broken between words, or
within a word that no line can hold. -/

namespace TierSplit.CommandLine

/-- In code a tab reaches to the next multiple of `size` columns; any other character is one column. -/
def expandTabs (size : Nat) (column : Nat) : List Char → List Char
  | [] => []
  | '\t' :: rest =>
    let blanks := size - column % size
    List.replicate blanks ' ' ++ expandTabs size (column + blanks) rest
  | c :: rest => c :: expandTabs size (column + 1) rest

/-- Joins the parts of a line between its tabs. A tab is one blank, measured together with the part
before it, and as many more as reach to a multiple of `size` cells. -/
def joinTabbed (size : Nat) (column : Nat) : List (List Char) → List Char
  | [] => []
  | [part] => part
  | part :: rest =>
    let reached := column + Text.cells (part ++ [' '])
    let more := (size - reached % size) % size
    part ++ List.replicate (1 + more) ' ' ++ joinTabbed size (reached + more) rest

def printedLines (text : String) : List (List Char) :=
  (text.splitOn "\n").map fun line => joinTabbed 8 0 (line.toList.splitOn '\t')

/-- A word takes the blanks after it with it, and the first one also those before it. -/
def breakWords (line : List Char) : List (List Char) :=
  let runs := line.splitBy fun a b => !Text.isBlank a || Text.isBlank b
  match runs with
  | first :: second :: rest => if first.all Text.isBlank then (first ++ second) :: rest else runs
  | _ => runs

/-- Cuts a word between clusters into pieces of at most `width` cells; `piece` is the current one. -/
def chop (width : Nat) (piece : List Char) (used : Nat) : List Text.Cluster → List (List Char)
  | [] => [piece]
  | k :: rest =>
    if width < used + k.cells then piece :: chop width k.chars k.cells rest
    else chop width (piece ++ k.chars) (used + k.cells) rest

/-- A paragraph being laid out: finished lines in reverse, the current line, and its cells. -/
structure Layout where
  done : List (List Char)
  line : List Char
  used : Nat
deriving Repr, DecidableEq

namespace Layout

def empty : Layout := ⟨[], [], 0⟩

def isAtStart (l : Layout) : Bool := l.done.isEmpty && l.line.isEmpty

def startLine (l : Layout) (piece : List Char) : Layout :=
  if l.isAtStart then ⟨[], piece, Text.cells piece⟩ else ⟨l.line :: l.done, piece, Text.cells piece⟩

def addWord (width : Nat) (l : Layout) (word : List Char) : Layout :=
  let needed := Text.cells (Text.trimEnd word)
  if l.used + needed ≤ width then ⟨l.done, l.line ++ word, l.used + Text.cells word⟩
  else if width < needed then (chop width [] 0 (Text.clusters word)).foldl startLine l
  else if l.used = 0 then ⟨l.done, l.line ++ word, l.used⟩
  else l.startLine word

def lines (l : Layout) : List (List Char) := (l.line :: l.done).reverse

end Layout

def wrappedLines (width : Nat) (text : String) : List (List Char) :=
  (printedLines text).flatMap fun line =>
    let layout := (breakWords line).foldl (Layout.addWord width) .empty
    layout.lines.map fun l => Text.crop width (Text.trimEnd l)

end TierSplit.CommandLine
