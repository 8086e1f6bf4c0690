import PathRouting.CharSet
import PathRouting.Text.Blank

/-!
# Regular expressions

The tree of a regular expression in normal form. The constructors are not used as they are: `concat`, `alternation`,
`repetition` and `ofSet` build a tree, and what they build is flat and has no part that could be left out. A sequence
holds no sequence and no empty item, and neighbouring characters are one literal; alternatives that are sets are one set,
and what all alternatives begin with stands before them. Repetitions are kept with their bounds, so that a tree stays
small; a group keeps the index that its opening bracket has in the text and, when it has one, its name.
-/

namespace PathRouting

/-- A condition on the place between two characters. -/
inductive Assertion where
  | textStart
  | textEnd
  | lineStart
  | lineEnd
  | wordBoundary
  | notWordBoundary
  | wordStart
  | wordEnd
  | wordStartHalf
  | wordEndHalf
  deriving DecidableEq, Repr

/-- Whether there is a character at this side of the place and it is a word character. -/
def isWordAt : Option Char → Bool
  | none => false
  | some c => CharSet.word.contains c

/-- Whether the condition holds between the characters `prev` and `next`, where there are such characters. -/
def Assertion.holds (prev next : Option Char) : Assertion → Bool
  | .textStart => prev.isNone
  | .textEnd => next.isNone
  | .lineStart => prev.isNone || prev == some '\n'
  | .lineEnd => next.isNone || next == some '\n'
  | .wordBoundary => isWordAt prev != isWordAt next
  | .notWordBoundary => isWordAt prev == isWordAt next
  | .wordStart => !isWordAt prev && isWordAt next
  | .wordEnd => isWordAt prev && !isWordAt next
  | .wordStartHalf => !isWordAt prev
  | .wordEndHalf => !isWordAt next

/-- A regular expression. A literal is not empty, and a set holds more than one character, or none. Sequences and
alternatives continue on their right. -/
inductive Regex where
  | empty
  | literal (text : Text)
  | chars (set : CharSet)
  | look (condition : Assertion)
  | group (index : Nat) (name : Option Text) (body : Regex)
  | cat (first rest : Regex)
  | alt (first rest : Regex)
  | repeated (least : Nat) (most : Option Nat) (greedy : Bool) (body : Regex)
  deriving DecidableEq, Repr

namespace Regex

/-- The expression that matches nothing. -/
def fail : Regex := .chars .none

/-- The expression for a set. -/
def ofSet (s : CharSet) : Regex :=
  match s.ranges with
  | [(a, b)] => if a = b then .literal [Char.ofNat a] else .chars s
  | _ => .chars s

/-- Only the empty text can match. -/
def isZeroWidth : Regex → Bool
  | .empty => true
  | .literal _ => false
  | .chars _ => false
  | .look _ => true
  | .group _ _ body => body.isZeroWidth
  | .cat a b => a.isZeroWidth && b.isZeroWidth
  | .alt a b => a.isZeroWidth && b.isZeroWidth
  | .repeated _ _ _ body => body.isZeroWidth

/-- The number of characters a match has at least, where every part can match. -/
def minLength? : Regex → Option Nat
  | .empty => some 0
  | .literal t => some t.length
  | .chars s => if s.ranges.isEmpty then none else some 1
  | .look _ => some 0
  | .group _ _ body => body.minLength?
  | .cat a b => do some ((← a.minLength?) + (← b.minLength?))
  | .alt a b => do some (min (← a.minLength?) (← b.minLength?))
  | .repeated least _ _ body => body.minLength?.map (least * ·)

/-- The empty text cannot match, as far as the lengths of the parts tell. -/
def isNeverEmpty (e : Regex) : Bool := e.minLength?.any (0 < ·)

/-- The items of a sequence. -/
def items : Regex → List Regex
  | .empty => []
  | .cat a b => a :: b.items
  | e => [e]

/-- The branches of alternatives. -/
def branches : Regex → List Regex
  | .alt a b => a :: b.branches
  | e => [e]

/-- Puts an item before others, as one literal where two meet. -/
def consItem : Regex → List Regex → List Regex
  | .literal s, .literal t :: rest => .literal (s ++ t) :: rest
  | e, rest => e :: rest

/-- The sequence of some items. -/
def ofItems : List Regex → Regex
  | [] => .empty
  | [e] => e
  | e :: es => .cat e (ofItems es)

/-- The expressions one after the other. -/
def concat (es : List Regex) : Regex := ofItems ((es.flatMap items).foldr consItem [])

/-- The alternatives, as they are. -/
def ofBranches : List Regex → Regex
  | [] => fail
  | [e] => e
  | e :: es => .alt e (ofBranches es)

/-- The character of a literal of one. -/
def singleChar? : Regex → Option Char
  | .literal [c] => some c
  | _ => none

/-- The set of an expression that is one. -/
def set? : Regex → Option CharSet
  | .chars s => some s
  | _ => none

/-- The set that some branches stand for together, where all are single characters or all are sets. -/
def setOfBranches? (es : List Regex) : Option CharSet :=
  match es.mapM singleChar? with
  | some cs => some (.ofList cs)
  | none => (es.mapM set?).map (fun sets => .ofRanges (sets.flatMap CharSet.ranges))

/-- What two sequences begin with alike. -/
def commonItems : List Regex → List Regex → List Regex
  | a :: as, b :: bs => if a = b then a :: commonItems as bs else []
  | _, _ => []

/-- The items of a branch that is a sequence. -/
def sequence? : Regex → Option (List Regex)
  | .cat a b => some (a :: b.items)
  | _ => none

/-- What all branches begin with alike, and what is left of each, where every branch is a sequence and there is such a
beginning. -/
def splitPrefix? (es : List Regex) : Option (List Regex × List Regex) := do
  match ← es.mapM sequence? with
  | [] => none
  | first :: others =>
    let shared := others.foldl commonItems first
    if shared.isEmpty then none
    else some (shared, (first :: others).map (fun branch => concat (branch.drop shared.length)))

/-- The number of constructors of an expression. -/
def size : Regex → Nat
  | .group _ _ body => body.size + 1
  | .cat a b => a.size + b.size + 1
  | .alt a b => a.size + b.size + 1
  | .repeated _ _ _ body => body.size + 1
  | _ => 1

/-- The alternatives in normal form. What is left behind a common beginning is smaller, so their size bounds the
rounds. -/
def mergeBranches : (rounds : Nat) → List Regex → Regex
  | 0, es => ofBranches es
  | rounds + 1, es =>
    match es.flatMap branches with
    | [] => fail
    | [e] => e
    | es =>
      match setOfBranches? es with
      | some s => ofSet s
      | none =>
        match splitPrefix? es with
        | some (shared, rests) => concat (shared ++ [mergeBranches rounds rests])
        | none => ofBranches es

/-- The expressions as alternatives, the first preferred. -/
def alternation (es : List Regex) : Regex := mergeBranches (es.foldl (fun n e => n + e.size) 1) es

/-- A repetition. What can only match the empty text is repeated at most once; no time is the empty expression, and once
is the body itself. -/
def repetition (least : Nat) (most : Option Nat) (greedy : Bool) (body : Regex) : Regex :=
  let (least, most) :=
    if body.isZeroWidth then (min least 1, some (min (most.getD 1) 1)) else (least, most)
  if most = some 0 then .empty
  else if least = 1 ∧ most = some 1 then body
  else .repeated least most greedy body

/-- The groups of an expression, in the order of their opening brackets, with repetitions looked into once. -/
def groups : Regex → List (Nat × Option Text)
  | .group index name body => (index, name) :: body.groups
  | .cat a b => a.groups ++ b.groups
  | .alt a b => a.groups ++ b.groups
  | .repeated _ _ _ body => body.groups
  | _ => []

/-- The named groups with their indices, in order. -/
def namedGroups (e : Regex) : List (Nat × Text) :=
  e.groups.filterMap (fun g => g.2.map (fun name => (g.1, name)))

end Regex

end PathRouting
