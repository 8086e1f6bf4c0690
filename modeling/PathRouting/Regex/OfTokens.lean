import Std.Data.TreeSet.Basic
import PathRouting.Regex.Scan

/-!
# From tokens to an expression

Tokens are put together in one pass over them. What has been read since the innermost open bracket is a level: the
alternatives that a bar has ended, and the items of the alternative being read. The levels around it wait on a stack
with what their brackets open. Repetition marks take the item before them.
-/

namespace PathRouting

/-- A finished part of an expression. A change of flags is an item too, but nothing can be repeated there. -/
structure Item where
  tree : Regex
  depth : Nat
  isDirective : Bool
  deriving DecidableEq, Repr

/-- What an open bracket makes of its content. -/
inductive Opener where
  | capture (index : Nat) (name : Option Text)
  | plain
  deriving DecidableEq, Repr

/-- What was read since a bracket opened, latest first. -/
structure Nesting where
  branches : List Item
  items : List Item
  deriving DecidableEq, Repr

/-- The state of the pass: the levels that wait, the innermost one, the index of the next group, and the names given. -/
structure Assembly where
  waiting : List (Opener × Nesting)
  inner : Nesting
  nextIndex : Nat
  names : Std.TreeSet Text

/-- How deep an expression may nest. -/
def depthLimit : Nat := 250

/-- The largest depth of some items. -/
def Item.maxDepth (items : List Item) : Nat := items.foldl (fun d item => max d item.depth) 0

/-- The items one after the other, given latest first. One item alone nests nothing. -/
def Item.sequence : List Item → Item
  | [] => ⟨.empty, 0, false⟩
  | [item] => ⟨item.tree, item.depth, false⟩
  | items => ⟨.concat ((items.filter (fun item => !item.isDirective)).reverse.map Item.tree), Item.maxDepth items + 1,
      false⟩

/-- The whole content of a level. -/
def Nesting.content (level : Nesting) : Item :=
  let last := Item.sequence level.items
  match level.branches with
  | [] => last
  | branches =>
    ⟨.alternation ((last :: branches).reverse.map Item.tree), Item.maxDepth (last :: branches) + 1, false⟩

/-- The content of a bracket as an item of the level around it. -/
def Opener.wrap (opener : Opener) (content : Item) : Item :=
  match opener with
  | .capture index name => ⟨.group index name content.tree, content.depth + 1, false⟩
  | .plain => ⟨content.tree, content.depth + 1, false⟩

namespace Assembly

/-- Nothing read yet. Index 0 is the whole match. -/
def start : Assembly := ⟨[], ⟨[], []⟩, 1, ∅⟩

/-- Adds an item to the innermost level. -/
def push (s : Assembly) (item : Item) : Assembly :=
  { s with inner := { s.inner with items := item :: s.inner.items } }

/-- Opens a level. -/
def enter (s : Assembly) (opener : Opener) : Assembly :=
  { s with waiting := (opener, s.inner) :: s.waiting, inner := ⟨[], []⟩ }

/-- Reads one token. -/
def step (s : Assembly) : Token → Except RegexError Assembly
  | .chars set depth => .ok (s.push ⟨.ofSet set, depth, false⟩)
  | .look a => .ok (s.push ⟨.look a, 0, false⟩)
  | .directive => .ok (s.push ⟨.empty, 0, true⟩)
  | .openPlain => .ok (s.enter .plain)
  | .openCapture none => .ok { s.enter (.capture s.nextIndex none) with nextIndex := s.nextIndex + 1 }
  | .openCapture (some name) =>
    if s.names.contains name then .error (.duplicateGroupName name)
    else .ok { s.enter (.capture s.nextIndex (some name)) with
      nextIndex := s.nextIndex + 1, names := s.names.insert name }
  | .close =>
    match s.waiting with
    | [] => .error .unopenedGroup
    | (opener, outer) :: waiting => .ok ({ s with waiting := waiting, inner := outer }.push (opener.wrap s.inner.content))
  | .bar => .ok { s with inner := ⟨Item.sequence s.inner.items :: s.inner.branches, []⟩ }
  | .repeated least most greedy =>
    match s.inner.items with
    | item :: items =>
      if item.isDirective then .error .nothingToRepeat
      else .ok { s with inner := { s.inner with
        items := ⟨.repetition least most greedy item.tree, item.depth + 1, false⟩ :: items } }
    | [] => .error .nothingToRepeat

/-- The expression read, once every bracket is closed. -/
def finish (s : Assembly) : Except RegexError Regex :=
  match s.waiting with
  | _ :: _ => .error .unclosedGroup
  | [] => if s.inner.content.depth ≤ depthLimit then .ok s.inner.content.tree else .error .tooDeep

end Assembly

/-- The expression that some tokens spell. -/
def Regex.ofTokens (tokens : List Token) : Except RegexError Regex :=
  tokens.foldlM Assembly.step Assembly.start >>= Assembly.finish

/-- The expression that a text spells. -/
def Regex.parse (t : Text) : Except RegexError Regex := Token.ofText t >>= Regex.ofTokens

end PathRouting
