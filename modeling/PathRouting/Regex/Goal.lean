import PathRouting.Regex.Basic

/-!
# Goals of a search

The form in which an expression is searched. A goal is something that is left to match; an expression is one goal, and
what is left of it are smaller ones. A counted repetition is a goal with the number of rounds left, so that it is never
written out. Every goal at which the search decides something carries a label. Labels only make goals cheap to tell
apart: two ways through the expression meet where all that is left is the same.
-/

namespace PathRouting

/-- Something that is left to match: to read a text or a character of a set, to test a condition, to begin or end a group,
or to choose between ways on. -/
inductive Goal where
  | skip
  | text (label : Nat) (t : Text)
  | chars (label : Nat) (set : CharSet)
  | look (condition : Assertion)
  | group (index : Nat) (body : Goal)
  | close (index : Nat)
  | cat (first second : Goal)
  | alt (label : Nat) (first second : Goal)
  | times (count : Nat) (body : Goal)
  | upTo (label : Nat) (count : Nat) (greedy : Bool) (body : Goal)
  | many (label : Nat) (greedy : Bool) (body : Goal)
  deriving DecidableEq, Repr

namespace Goal

/-- The number of goals that a goal can leave, all rounds counted. -/
def size : Goal → Nat
  | .text _ t => t.length + 1
  | .group _ body => body.size + 2
  | .cat a b => a.size + b.size + 1
  | .alt _ a b => a.size + b.size + 1
  | .times count body => count * (body.size + 1) + 1
  | .upTo _ count _ body => count * (body.size + 1) + 1
  | .many _ _ body => body.size + 1
  | _ => 1

/-- Two goals are equal. A goal that comes from an expression is one object however often it is met, so its address
mostly tells. -/
def sameObject (a b : Goal) : Bool :=
  withPtrEq a b (fun _ => decide (a = b)) (fun h => decide_eq_true h)

theorem sameObject_iff (a b : Goal) : a.sameObject b = true ↔ a = b := by
  simp [sameObject, withPtrEq]

/-- Two texts are equal, where rests of one text mostly are one object. -/
def sameText (t u : Text) : Bool :=
  withPtrEq t u (fun _ => decide (t = u)) (fun h => decide_eq_true h)

theorem sameText_iff (t u : Text) : sameText t u = true ↔ t = u := by
  simp [sameText, withPtrEq]

/-- Two goals are equal, which is told by their labels and counts where they differ in these. -/
def same : Goal → Goal → Bool
  | .text l t, .text l' t' => l == l' && sameText t t'
  | .times n a, .times n' a' => n == n' && a.sameObject a'
  | .upTo l n g a, .upTo l' n' g' a' => l == l' && n == n' && g == g' && a.sameObject a'
  | .many l g a, .many l' g' a' => l == l' && g == g' && a.sameObject a'
  | a, b => a.sameObject b

theorem same_iff (a b : Goal) : a.same b = true ↔ a = b := by
  cases a <;> cases b <;> simp [same, sameObject_iff, sameText_iff, and_assoc]

/-- A number that tells most goals of one expression apart. -/
def tag : Goal → Nat
  | .text label _ => 8 * label + 1
  | .chars label _ => 8 * label + 1
  | .alt label _ _ => 8 * label + 2
  | .many label _ _ => 8 * label + 3
  | .times count _ => 8 * count + 4
  | .upTo label count _ _ => 8 * (label + 31 * count) + 5
  | _ => 0

end Goal

namespace Regex

/-- A repetition as a goal, from its body as a goal. One without an upper bound goes round after its last copy. Where
none is needed, that round is the whole repetition, unless the body can match the empty text: that body is then tried
once before the repetition ends. -/
def repeatedGoal (label : Nat) (least : Nat) (most : Option Nat) (greedy neverEmpty : Bool) (body : Goal) : Goal :=
  let round := .cat body (.many label greedy body)
  match least, most with
  | 0, none => if neverEmpty then .many label greedy body else .upTo label 1 greedy round
  | copies + 1, none => .cat (.times copies body) round
  | 0, some most => .upTo label most greedy body
  | copies, some most => .cat (.times copies body) (.upTo label (most - copies) greedy body)

/-- The expression as a goal, with labels from `label` on, and the next free label. -/
def toGoal : Regex → Nat → Goal × Nat
  | .empty, label => (.skip, label)
  | .literal t, label => (.text label t, label + t.length)
  | .chars set, label => (.chars label set, label + 1)
  | .look a, label => (.look a, label)
  | .group index _ body, label =>
    let (body, next) := body.toGoal label
    (.group index body, next)
  | .cat a b, label =>
    let (first, next) := a.toGoal label
    let (second, next) := b.toGoal next
    (.cat first second, next)
  | .alt a b, label =>
    let (first, next) := a.toGoal (label + 1)
    let (second, next) := b.toGoal next
    (.alt label first second, next)
  | .repeated least most greedy body, label =>
    let (goal, next) := body.toGoal (label + 1)
    (repeatedGoal label least most greedy body.isNeverEmpty goal, next)

/-- The expression as a goal. -/
def goal (e : Regex) : Goal := (e.toGoal 0).1

end Regex

end PathRouting
