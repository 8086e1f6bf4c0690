import Std.Data.TreeMap.Basic
import PathRouting.Regex.Goal

/-!
# Searching

The search reads the text once and follows all ways through the expression side by side. A thread is what is left of the
expression on one such way; threads stand in order of preference, and of two threads with the same rest only the first
is kept, because the other could match nothing more and is preferred less. So each character costs at most the size of
the expression, whatever the nesting of its repetitions.

A match that starts earlier is preferred, then the match of the most preferred thread. A repetition that comes round to
its start without having read a character is cut, because its threads are there already.
-/

namespace PathRouting

/-- Where groups were opened and closed, latest first: group `i` is opened at mark `2 i` and closed at `2 i + 1`. -/
abbrev Marks : Type := List (Nat × Nat)

/-- A way through the expression: the goals left and the marks made. -/
structure Thread where
  stack : List Goal
  marks : Marks
  deriving DecidableEq, Repr

/-- Two stacks of goals are equal. -/
def sameStack : List Goal → List Goal → Bool
  | [], [] => true
  | s :: k, u :: l => s.same u && sameStack k l
  | _, _ => false

theorem sameStack_iff (k l : List Goal) : sameStack k l = true ↔ k = l := by
  induction k generalizing l with
  | nil => cases l <;> simp [sameStack]
  | cons s k ih => cases l <;> simp [sameStack, Goal.same_iff, ih]

/-- The stacks met at one place of the text, sorted by a number that tells most of them apart. -/
structure Seen where
  met : Std.TreeMap Nat (List (List Goal))

namespace Seen

/-- No stack. -/
def none : Seen := ⟨∅⟩

/-- The stack was met. -/
def contains (seen : Seen) (key : Nat) (stack : List Goal) : Bool := (seen.met.getD key []).any (sameStack stack)

/-- The stack with those met. -/
def insert (seen : Seen) (key : Nat) (stack : List Goal) : Seen :=
  ⟨seen.met.insert key (stack :: seen.met.getD key [])⟩

end Seen

namespace Thread

/-- A decision between a body and what comes after it, the preferred one first. -/
def fork (greedy : Bool) (enter leave : Thread) : List Thread := if greedy then [enter, leave] else [leave, enter]

/-- The number under which a stack is sorted. -/
def key (stack : List Goal) : Nat := stack.foldl (fun n s => (n * 31 + s.tag) % 1000003) 7

/-- The threads that a thread becomes by its first goal, at a place of the text between `prev` and `next`. A thread that
waits for a character stays as it is. -/
def split (prev next : Option Char) (place : Nat) (t : Thread) : List Thread :=
  match t.stack with
  | [] => [t]
  | s :: k =>
    match s with
    | .skip => [⟨k, t.marks⟩]
    | .text _ [] => [⟨k, t.marks⟩]
    | .text _ _ => [t]
    | .chars _ _ => [t]
    | .look a => if a.holds prev next then [⟨k, t.marks⟩] else []
    | .group i body => [⟨body :: .close i :: k, (2 * i, place) :: t.marks⟩]
    | .close i => [⟨k, (2 * i + 1, place) :: t.marks⟩]
    | .cat a b => [⟨a :: b :: k, t.marks⟩]
    | .alt _ a b => [⟨a :: k, t.marks⟩, ⟨b :: k, t.marks⟩]
    | .times 0 _ => [⟨k, t.marks⟩]
    | .times (count + 1) body => [⟨body :: .times count body :: k, t.marks⟩]
    | .upTo _ 0 _ _ => [⟨k, t.marks⟩]
    | .upTo label (count + 1) greedy body =>
      fork greedy ⟨body :: .upTo label count greedy body :: k, t.marks⟩ ⟨k, t.marks⟩
    | .many _ greedy body => fork greedy ⟨body :: s :: k, t.marks⟩ ⟨k, t.marks⟩

/-- The first goal is a decision, or it waits for a character. Only there can threads that were apart meet. -/
def isDecision : List Goal → Bool
  | .text _ (_ :: _) :: _ => true
  | .chars _ _ :: _ => true
  | .alt _ _ _ :: _ => true
  | .upTo _ (_ + 1) _ _ :: _ => true
  | .many _ _ _ :: _ => true
  | _ => false

/-- The thread waits for a character. -/
def isWaiting (t : Thread) : Bool :=
  match t.stack with
  | .text _ (_ :: _) :: _ => true
  | .chars _ _ :: _ => true
  | _ => false

/-- The thread after it has read a character, if it takes it. -/
def read? (c : Char) (t : Thread) : Option Thread :=
  match t.stack with
  | .text label (d :: rest) :: k => if c = d then some ⟨.text (label + 1) rest :: k, t.marks⟩ else Option.none
  | .chars _ set :: k => if set.contains c then some ⟨k, t.marks⟩ else Option.none
  | _ => Option.none

end Thread

/-- Follows threads, most preferred first, to those that wait for a character, and to the first that has nothing left to
do; what is preferred less than that one is dropped. -/
def follow (prev next : Option Char) (place : Nat) :
    (rounds : Nat) → (work : List Thread) → Seen → (waiting : List Thread) → List Thread × Option Marks
  | 0, _, _, waiting => (waiting.reverse, none)
  | rounds + 1, work, seen, waiting =>
    match work with
    | [] => (waiting.reverse, none)
    | t :: work =>
      match t.stack with
      | [] => (waiting.reverse, some t.marks)
      | stack =>
        if Thread.isDecision stack then
          let key := Thread.key stack
          if seen.contains key stack then follow prev next place rounds work seen waiting
          else if t.isWaiting then follow prev next place rounds work (seen.insert key stack) (t :: waiting)
          else follow prev next place rounds (t.split prev next place ++ work) (seen.insert key stack) waiting
        else follow prev next place rounds (t.split prev next place ++ work) seen waiting

/-- A bound on the rounds at one place, for so many threads: each of them, and each way on from a decision, comes to a
decision within the goals that the expression can leave. -/
def roundsFor (size threads : Nat) : Nat := (threads + 2 * size + 2) * (size + 2)

/-- Searches from a place on, for an expression of the given size. The work is what the threads that have read the
character before it have left to do; a thread of its own starts here as long as no match was found. A match found later is
preferred more than one found before, because the threads preferred less than a match are dropped with it. -/
def searchFrom (root : Goal) (size : Nat) :
    (prev : Option Char) → (place : Nat) → (work : List Thread) → (found : Option Marks) → Text → Option Marks
  | prev, place, work, found, rest =>
    let work := if found.isNone then work ++ [⟨[root], []⟩] else work
    let (waiting, hit) := follow prev rest.head? place (roundsFor size work.length) work .none []
    let found := hit.or found
    match rest with
    | [] => found
    | c :: rest => searchFrom root size (some c) (place + 1) (waiting.filterMap (Thread.read? c)) found rest

/-- The marks of the preferred match of an expression in a text. -/
def Goal.search (root : Goal) (t : Text) : Option Marks := searchFrom root root.size none 0 [] none t

/-- What a group matched: the text between its last marks. -/
def Marks.groupText? (marks : Marks) (t : Text) (index : Nat) : Option Text :=
  match marks.lookup (2 * index), marks.lookup (2 * index + 1) with
  | some start, some stop => some ((t.drop start).take (stop - start))
  | _, _ => none

end PathRouting
