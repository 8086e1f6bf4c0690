import PathRouting.Regex.Basic
import PathRouting.Regex.WordTree

/-!
# The size of an expression's automaton

An expression is refused when its automaton would take too much memory. It is matched by two automata, one that reads
forward and marks groups and one that reads backward, and the limit is for each. The size is counted from the tree, and a
counted repetition has its body once per copy; counting ends as soon as the limit is passed, so that a repetition of a
million copies is refused without being written out. A long list of texts is the exception: it takes no automaton.
-/

namespace PathRouting

namespace Growth

/-- The growth by a choice whether to go on. -/
def fork : Growth := fun f => (f.addStates 1).addLinks 2

/-- The growth by alternatives: after the first two are built, a state to choose and one where all meet. -/
def choose : List Growth → Growth
  | [] => id
  | [one] => one
  | first :: second :: others => fun f =>
    others.foldl (fun f g => g f) (((second (first f)).addStates 2).addLinks (others.length + 2))

/-- The growth by a repetition, given the growth by its body. Where the body can match the empty text, going round
without an upper bound takes a choice before the first round and one after each. -/
def repetition (least : Nat) (most : Option Nat) (neverEmpty : Bool) (body : Growth) : Growth :=
  match least, most with
  | 0, some 1 => fun f => (body (fork f)).addStates 1
  | 0, none => fun f => if neverEmpty then body (fork f) else (fork (fork (body f))).addStates 1
  | copies, none => fun f => fork (body.times copies f)
  | copies, some most => fun f =>
    if copies = most then body.times copies f
    else
      let required := if copies = 0 then f.addStates 1 else body.times copies f
      Growth.times (fun f => body (fork f)) (most - copies) (required.addStates 1)

end Growth

namespace Regex

/-- The way an automaton reads. -/
inductive Reading where
  | forward
  | backward
  deriving DecidableEq, Repr

/-- The bytes of a text in the order in which they are read. -/
def Reading.bytes (r : Reading) (t : Text) : List Nat :=
  let bytes := t.flatMap (fun c => (String.utf8EncodeChar c).map UInt8.toNat)
  if r = .forward then bytes else bytes.reverse

/-- Every match begins at the start of the text, as far as the parts that a match has to begin with tell. -/
def isAnchored : Regex → Bool
  | .look a => a == .textStart
  | .group _ _ body => body.isAnchored
  | .cat a b => a.isAnchored || (a.isZeroWidth && b.isAnchored)
  | .alt a b => a.isAnchored && b.isAnchored
  | .repeated least _ _ body => 0 < least && body.isAnchored
  | _ => false

/-- The text of a literal. -/
def literal? : Regex → Option Text
  | .literal t => some t
  | _ => none

/-- The growth by an expression, given the growth by each of its branches. Texts alone share their beginnings. -/
def growthOf (r : Reading) (e : Regex) : List Growth → Growth
  | [one] => one
  | branches =>
    match e.branches.mapM literal? with
    | some texts => WordTree.growth (texts.map r.bytes)
    | none => Growth.choose branches

/-- The growth by each of the branches of an expression. Groups are marked only when reading forward. -/
def branchGrowths (r : Reading) : Regex → List Growth
  | .empty => [fun f => f.addStates 1]
  | .literal t => [fun f => f.addStates (r.bytes t).length]
  | .chars s => [if r = .forward then s.forwardGrowth else s.backwardGrowth]
  | .look _ => [fun f => f.addStates 1]
  | .group _ _ body =>
    let inner := growthOf r body (branchGrowths r body)
    [if r = .forward then fun f => (inner (f.addStates 1)).addStates 1 else inner]
  | .cat a b =>
    let first := growthOf r a (branchGrowths r a)
    let rest := growthOf r b (branchGrowths r b)
    [if r = .forward then fun f => rest (first f) else fun f => first (rest f)]
  | .alt a b => growthOf r a (branchGrowths r a) :: branchGrowths r b
  | .repeated least most _ body =>
    [Growth.repetition least most body.isNeverEmpty (growthOf r body (branchGrowths r body))]

/-- The growth by an expression. -/
def growth (r : Reading) (e : Regex) : Growth := growthOf r e (branchGrowths r e)

/-- The states that lead to where a match can begin: any place, or only the start of the text. -/
def entry (e : Regex) : Footprint :=
  if e.isAnchored then ⟨1, 0⟩ else Growth.fork ((Footprint.addStates ⟨0, 0⟩ 1).addChoice 1)

/-- The footprint of an expression's automaton: the way in, the expression as group 0, and the state of a match. -/
def footprint (r : Reading) (e : Regex) : Footprint :=
  (growth r (.group 0 none e) e.entry).addStates 1

/-- The number of texts from which on a list of texts is searched for without an automaton of this kind. -/
def wordListSize : Nat := 3000

/-- The expression is a long list of texts. -/
def isWordList (e : Regex) : Bool := wordListSize ≤ e.branches.length && (e.branches.mapM literal?).isSome

/-- The engine takes the expression. -/
def fits (e : Regex) : Bool := e.isWordList || (!(footprint .forward e).isOver && !(footprint .backward e).isOver)

end Regex

end PathRouting
