import PathRouting.Regex.Footprint

/-!
# Alternatives that are all texts

Alternatives that are all texts are put into a tree by their bytes, so that texts with the same beginning share it. The
end of a text divides the texts that come after it from those before, because the earlier is preferred: what continues a
node is grouped between two ends only.
-/

namespace PathRouting.WordTree

/-- The texts that continue a node between two ends, from first to last, given the texts that reach it. -/
def stretches : List (List Nat) → List (List (List Nat))
  | [] => [[]]
  | [] :: words => [] :: stretches words
  | word :: words =>
    match stretches words with
    | stretch :: others => (word :: stretch) :: others
    | [] => [[word]]

/-- The ends at a node that the texts of the list reach. Of ends before any continuation one counts. -/
def ends (words : List (List Nat)) : Nat :=
  (if (words.takeWhile List.isEmpty).isEmpty then 0 else 1) + ((words.dropWhile List.isEmpty).filter List.isEmpty).length

/-- The first bytes of some texts. -/
def letters (stretch : List (List Nat)) : List Nat := (stretch.filterMap List.head?).eraseDups

/-- What follows a byte in the texts that begin with it. -/
def follow (stretch : List (List Nat)) (byte : Nat) : List (List Nat) :=
  stretch.filterMap (fun word => match word with
    | b :: rest => if b = byte then some rest else none
    | [] => none)

/-- The growth by the node that the texts reach: a state for each stretch, and one that chooses between the stretches
and the ends. -/
def nodeGrowth (words : List (List Nat)) : Growth := fun f =>
  let sizes := ((stretches words).map (fun stretch => (letters stretch).length)).filter (0 < ·)
  let f := sizes.foldl (fun f size => if size = 1 then f.addStates 1 else f.addChoice size) f
  (f.addStates 1).addLinks (sizes.length + ends words)

/-- The nodes after the node that the texts reach, leaving out those that nothing continues. -/
def next (words : List (List Nat)) : List (List (List Nat)) :=
  ((stretches words).flatMap (fun stretch => (letters stretch).map (follow stretch))).filter
    (fun words => words.any (!·.isEmpty))

/-- The growth by some nodes and all after them. A node takes a byte of some text, which bounds the rounds. -/
def nodesGrowth : (rounds : Nat) → List (List (List Nat)) → Growth
  | rounds + 1, words :: waiting, f =>
    if f.isOver then f else nodesGrowth rounds (next words ++ waiting) (nodeGrowth words f)
  | _, _, f => f

/-- The growth by the tree of some texts: its nodes, and the state where all texts end. -/
def growth (words : List (List Nat)) : Growth := fun f =>
  nodesGrowth (words.foldl (fun n word => n + word.length) 1) [words] (f.addStates 1)

end PathRouting.WordTree
