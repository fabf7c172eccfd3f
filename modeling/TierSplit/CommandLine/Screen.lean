import TierSplit.CommandLine.Markup
import TierSplit.CommandLine.Paragraph
import TierSplit.Json.Writer
import TierSplit.Result

/-! What a command shows: exact text, a table of blocks, or panels of code with lines after them. -/

namespace TierSplit.CommandLine

structure Panel where
  title : String
  lines : List String
deriving Repr, DecidableEq

inductive Closing where
  | note (text : String)
  | fragments (count : Nat)
deriving Repr, DecidableEq

def Closing.text (elapsed : String) : Closing → String
  | .note s => s
  | .fragments n => Nat.repr n ++ " fragment(s) in " ++ elapsed

inductive Screen where
  | exact (text : String)
  | table (title : List String) (header : List String) (rows : List (List String))
  | panels (panels : List Panel) (closing : List Closing)
deriving Repr, DecidableEq

/-- Control characters, what is beyond the given width, and the blanks at the end of a line are not
shown. -/
def shownLine (width : Nat) (cs : List Char) : String :=
  String.ofList (Text.trimEnd (Text.crop width (cs.filter fun c => !isDropped c)))

/-- Tabs are four columns wide in code, and a byte order mark in front of it is not shown. -/
def codeLines (width : Nat) (code : String) : List String :=
  match (code.splitOn "\n").map fun line => expandTabs 4 0 line.toList with
  | first :: rest => (Text.dropMark first :: rest).map (shownLine width)
  | [] => []

/-- The cells across the inside of a panel: enough for the title with a blank on either side, and for
every line of the code, where tabs are not counted. -/
def panelWidth (title code : String) : Nat :=
  (Text.splitLines code).foldl (fun w line => max w (Text.cells line.toList)) (title.length + 2)

def panelTitle (f : Fragment) : String :=
  "block " ++ intLiteral f.id ++ (if f.session then " (session)" else "")

def panel (f : Fragment) : Panel :=
  let title := panelTitle f
  ⟨title, codeLines (panelWidth title f.code) f.code⟩

def fragmentPanels (fragments : List Fragment) : Screen :=
  match fragments with
  | [] => .panels [] [.note "No server blocks"]
  | _ => .panels (fragments.map panel) [.fragments fragments.length]

def outputText (fragments : List Fragment) : String :=
  Json.indented 0 (outputValue fragments) ++ "\n"

def blockRow (s : Summary) : List String :=
  [intLiteral s.id, ", ".intercalate (s.tiers.map Tier.name),
    "[" ++ intLiteral s.start ++ ", " ++ intLiteral s.stop ++ ")", if s.session then "✓" else "",
    ", ".intercalate s.inputs, ", ".intercalate s.outputs]

def blockHeader : List String := ["ID", "Tiers", "Span", "Session", "Inputs", "Outputs"]

/-- The cells across a table: each column as wide as its widest entry and a blank on either side, and a
line before, between and after the columns. -/
def tableWidth (rows : List (List String)) : Nat :=
  let widths := rows.foldl (fun acc row => List.zipWith max acc (row.map fun s => Text.cells s.toList))
    (List.replicate blockHeader.length 0)
  widths.foldl (· + ·) 0 + 3 * blockHeader.length + 1

/-- The title stands over the table and is no wider. -/
def blockTable (title : String) (blocks : List Summary) : Screen :=
  let rows := blocks.map blockRow
  .table ((wrappedLines (tableWidth (blockHeader :: rows)) title).map fun l => String.ofList (Text.trim l))
    blockHeader rows

def Screen.toText (elapsed : String) : Screen → String
  | .exact text => text
  | .table title header rows =>
    "".intercalate ((title ++ (header :: rows).map (" | ".intercalate ·)).map (· ++ "\n"))
  | .panels shown closing =>
    "".intercalate ((shown.flatMap (fun p => ("-- " ++ p.title) :: p.lines) ++
      closing.map (Closing.text elapsed)).map (· ++ "\n"))

end TierSplit.CommandLine
