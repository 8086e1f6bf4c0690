import PathRouting.Regex.OfTokens
import PathRouting.Regex.Search
import PathRouting.Regex.Size

/-!
# Expressions

An expression is a text that has been read as a regular expression and accepted by the engine. Matching it against a
text finds the leftmost match, and of those that start there the one its alternatives and repetitions prefer; the named
groups that took part in that match are the outcome.
-/

namespace PathRouting

/-- A regular expression ready to be searched for, with the text it was read from. -/
structure Expression where
  source : Text
  tree : Regex
  root : Goal
  names : List (Nat × Text)
  deriving Repr

/-- Named values, in the order in which an expression declares their names. -/
abbrev Params : Type := List (Text × Text)

namespace Expression

/-- The expression of a tree, which is known to be written as `source`. -/
def ofTree (source : Text) (tree : Regex) : Expression := ⟨source, tree, tree.goal, tree.namedGroups⟩

/-- Reads an expression. It is refused if it is malformed or its automaton would be too large. -/
def ofSource (source : Text) : Except RegexError Expression := do
  let tree ← Regex.parse source
  if tree.fits then .ok (ofTree source tree) else .error .tooLarge

/-- The names of the groups in order. -/
def paramNames (e : Expression) : List Text := e.names.map (·.2)

/-- The named groups of the preferred match in a text that took part in it, or `none` without a match. -/
def params? (e : Expression) (t : Text) : Option Params :=
  (e.root.search t).map (fun marks =>
    e.names.filterMap (fun (index, name) => (marks.groupText? t index).map (fun value => (name, value))))

end Expression

end PathRouting
