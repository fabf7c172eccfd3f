import TierSplit.Text.CellWidth

/-! Characters that are shown together. Marks stand on the character before them, a joiner draws the
next character into it, and an emoji selector after a narrow symbol makes it an emoji of two cells. -/

namespace TierSplit.Text

def joiner : Char := Char.ofNat 0x200D

def emojiSelector : Char := Char.ofNat 0xFE0F

/-- The cell that an emoji selector adds to the last character that takes any. -/
def widening : Option Char → Nat
  | some c => if widenedAsEmoji.contains c then 1 else 0
  | none => 0

/-- The cells of a text; `last` is the last character before it that takes any, and the character after
a joiner takes none. -/
def cellsFrom (last : Option Char) : List Char → Nat
  | [] => 0
  | c :: rest =>
    if c = joiner then
      match rest with
      | [] => 0
      | _ :: more => cellsFrom last more
    else if c = emojiSelector then widening last + cellsFrom none rest
    else
      match cellWidth c with
      | 0 => cellsFrom last rest
      | w => w + cellsFrom (some c) rest

def cells (cs : List Char) : Nat := cellsFrom none cs

/-- Characters that are not torn apart, and the cells that they take together. -/
structure Cluster where
  chars : List Char
  cells : Nat
deriving Repr, DecidableEq

def Cluster.extend (k : Cluster) (cs : List Char) (wider : Nat) : Cluster :=
  ⟨k.chars ++ cs, k.cells + wider⟩

/-- The clusters of a text after the cluster `k`, whose last character that takes a cell is `last`. -/
def clustersFrom (k : Cluster) (last : Option Char) : List Char → List Cluster
  | [] => [k]
  | c :: rest =>
    if c = joiner then
      match rest with
      | [] => [k.extend [c] 0]
      | d :: more => clustersFrom (k.extend [c, d] 0) last more
    else if c = emojiSelector then clustersFrom (k.extend [c] (widening last)) none rest
    else
      match cellWidth c with
      | 0 => clustersFrom (k.extend [c] 0) last rest
      | w => k :: clustersFrom ⟨[c], w⟩ (some c) rest

/-- The clusters of a text. Whatever it starts with starts a cluster. -/
def clusters : List Char → List Cluster
  | [] => []
  | c :: rest =>
    match cellWidth c with
    | 0 => clustersFrom ⟨[c], 0⟩ none rest
    | w => clustersFrom ⟨[c], w⟩ (some c) rest

/-- What is shown of clusters in so many cells. A blank stands for half a cluster. -/
def takeCells : Nat → List Cluster → List Char
  | 0, _ => []
  | _, [] => []
  | room, k :: rest => if room < k.cells then [' '] else k.chars ++ takeCells (room - k.cells) rest

def crop (room : Nat) (cs : List Char) : List Char :=
  if cells cs ≤ room then cs else takeCells room (clusters cs)

end TierSplit.Text
