import PathRouting.Proofs.Resolution

/-!
# What a pattern's expression means

The expression that is written for a pattern, said on the pattern's segments: each means the trees that stand for it,
whatever its text is. Statements: the expression is read as what the segments mean, so that the engine refuses it only for
its size, and its names are the declared ones; and where no segment is dynamic, the literal that is taken in its place
matches the same normalised paths.
-/

namespace PathRouting

open PathRouting.Path (separator)
open Segment (ofPattern)

/-- One or more characters other than one. -/
def Regex.anyBut (c : Char) : Regex := .repeated 1 none true (.chars (CharSet.single c).complement)

namespace Segment

/-- What a segment means behind those to its left: a group with the name of a parameter that occurs for the first time, a
group without a name for what else is dynamic, and the characters of a text. Groups are numbered from the left. -/
def meaning (left : List Segment) : Segment → List Regex
  | .param name =>
    [.group (left.countP isDynamic + 1) (if .param name ∈ left then none else some name) (.anyBut separator)]
  | .wildcard => [.group (left.countP isDynamic + 1) none (.anyBut separator)]
  | .glob => [.group (left.countP isDynamic + 1) none (.anyBut '\n')]
  | .literal t => t.map (fun c => .literal [c])
  | .unrecognised t => t.map (fun c => .literal [c])

/-- What some segments mean, each behind a separator. -/
def meanings (left : List Segment) : List Segment → List Regex
  | [] => []
  | k :: rest => .literal [separator] :: (k.meaning left ++ meanings (left ++ [k]) rest)

/-- What a pattern of some segments means: the start of the text, the segments, a separator or none, and the end. -/
def treeOf (pattern : List Segment) : Regex :=
  .concat (.look .textStart :: (meanings [] pattern ++ [.repeated 0 (some 1) true (.literal [separator]), .look .textEnd]))

/-! ## The tree -/

/-- The parameters seen are those of the segments to the left. -/
def AreSeen (seen : Std.TreeSet Text) (left : List Segment) : Prop :=
  ∀ name, seen.contains name = true ↔ .param name ∈ left

theorem areSeen_empty : AreSeen ∅ [] := fun name => by simp

theorem AreSeen.declare {seen : Std.TreeSet Text} {left : List Segment} (h : AreSeen seen left) (k : Segment) :
    AreSeen (k.declare seen) (left ++ [k]) := by
  intro name
  rw [List.mem_append, List.mem_singleton]
  cases k with
  | param other =>
    rw [Segment.declare, Std.TreeSet.contains_insert, Bool.or_eq_true, beq_iff_eq, Std.LawfulEqCmp.compare_eq_iff_eq,
      Segment.param.injEq, h name, or_comm, eq_comm]
  | _ => simp [Segment.declare, h name]

/-- The part of a segment has the trees that the segment means. -/
theorem map_tree_items {seen : Std.TreeSet Text} {left : List Segment} (h : AreSeen seen left) (k : Segment) :
    ((k.part seen).items (left.countP isDynamic + 1)).map Item.tree = k.meaning left := by
  cases k with
  | param name =>
    have hname : (if seen.contains name then none else some name) = if .param name ∈ left then none else some name :=
      if_congr (h name) rfl rfl
    rw [Segment.part, hname]
    rfl
  | wildcard => rfl
  | glob => rfl
  | literal t => exact List.map_map
  | unrecognised t => exact List.map_map

theorem nextIndex_part (seen : Std.TreeSet Text) (left : List Segment) (k : Segment) :
    (k.part seen).nextIndex (left.countP isDynamic + 1) = (left ++ [k]).countP isDynamic + 1 := by
  rw [List.countP_append, List.countP_singleton]
  cases k <;> rfl

/-- The trees of the parts of some segments are what the segments mean. -/
theorem treesOf_parts {seen : Std.TreeSet Text} {left : List Segment} (h : AreSeen seen left) (pattern : List Segment) :
    Part.treesOf (left.countP isDynamic + 1) (parts seen pattern) = meanings left pattern := by
  induction pattern generalizing seen left with
  | nil => rfl
  | cons k rest ih =>
    rw [parts, Part.treesOf, map_tree_items h, nextIndex_part, ih (h.declare k), meanings]
    rfl

theorem concat_treesBetween (pattern : List Segment) :
    Regex.concat (Part.treesBetween (parts ∅ pattern)) = treeOf pattern := by
  rw [treeOf, ← treesOf_parts areSeen_empty pattern]
  rfl

/-- The names of a pattern's expression are its declared parameters. -/
theorem paramNames_treeOf (source : Text) (pattern : List Segment) :
    (Expression.ofTree source (treeOf pattern)).paramNames = declaredParams pattern := by
  rw [← concat_treesBetween, Expression.paramNames, Expression.ofTree, Part.namedGroups_treesBetween,
    Part.map_snd_groupsOf, filterMap_name?_eq_declaredParams]

end Segment

namespace Pattern

/-! ## Expressions -/

/-- A pattern that becomes an expression becomes that of its segments. -/
theorem ofSource_of_expression {text : Text} {e : Expression} (h : (compileText text).pattern = .expression e) :
    (ofPattern (Path.normalize text)).any Segment.isDynamic ∧
      Expression.ofSource (Segment.expressionSource (ofPattern (Path.normalize text))) = .ok e := by
  simp only [compileText] at h
  split at h
  · cases h
  · split at h
    · cases h
    · split at h
      · rename_i hdynamic
        split at h
        · rename_i he
          exact ⟨hdynamic, he.trans (congrArg _ (expression.inj h))⟩
        · cases h
      · cases h

/-- The expression of a pattern is read as what its segments mean. The engine refuses it only for its size, and what it
takes for the pattern is this tree, whose names are the declared parameters in the order of their first occurrences. -/
theorem parse_eq_treeOf (text : Text) :
    Regex.parse (Segment.expressionSource (ofPattern (Path.normalize text))) =
        .ok (Segment.treeOf (ofPattern (Path.normalize text))) ∧
      (∀ err, Expression.ofSource (Segment.expressionSource (ofPattern (Path.normalize text))) = .error err →
        err = .tooLarge) ∧
      ∀ e, (Expression.ofSource (Segment.expressionSource (ofPattern (Path.normalize text))) = .ok e ∨
          (compileText text).pattern = .expression e) →
        e = Expression.ofTree (Segment.expressionSource (ofPattern (Path.normalize text)))
            (Segment.treeOf (ofPattern (Path.normalize text))) ∧
          e.paramNames = Segment.declaredParams (ofPattern (Path.normalize text)) := by
  have hne := Segment.ofPattern_ne_nil (Path.normalize text)
  have hsound := Segment.ofPattern_isSound (Path.normalize text)
  refine ⟨?_, fun err h => ?_, fun e h => ?_⟩
  · rw [Segment.parse_expressionSource hne hsound, Segment.concat_treesBetween]
  · rw [Segment.ofSource_expressionSource hne hsound] at h
    split at h
    · cases h
    · exact (Except.error.inj h).symm
  · have htree := eq_ofTree_of_ofSource (h.elim id (fun hpattern => (ofSource_of_expression hpattern).2))
    rw [Segment.concat_treesBetween] at htree
    exact ⟨htree, by rw [htree, Segment.paramNames_treeOf]⟩

-- Neighbouring characters are one literal of a sequence.
example : Segment.treeOf (ofPattern (Text.ofString "/a.b/:id")) =
    .cat (.look .textStart) (.cat (.literal (Text.ofString "/a.b/")) (.cat (.group 1 (some (Text.ofString "id"))
      (.anyBut '/')) (.cat (.repeated 0 (some 1) true (.literal ['/'])) (.look .textEnd)))) := by
  decide +kernel

/-! ## Literals -/

/-- A pattern without dynamic segments is the literal path of its segments. -/
theorem pattern_of_not_isDynamic {text : Text} (hroot : Path.normalize text ≠ ['/'])
    (hstatic : (ofPattern (Path.normalize text)).any Segment.isDynamic = false) :
    (compileText text).pattern = .literal (Segment.literalPath (ofPattern (Path.normalize text))) := by
  have hall : ¬(Path.normalize text = ['/', '*'] ∨ Path.normalize text = ['/', '*', '*']) := by
    rintro (hall | hall)
    · rw [hall] at hstatic
      cases hstatic
    · rw [hall] at hstatic
      cases hstatic
  simp only [compileText, if_neg hroot, if_neg hall, hstatic, Bool.false_eq_true, if_false]

/-- The literal that a pattern without dynamic segments becomes and the expression that is written for its segments have
the same outcome on every normalised path, without params. -/
theorem matches?_literal_eq_expression {text : Text} (hroot : Path.normalize text ≠ ['/'])
    (hstatic : (ofPattern (Path.normalize text)).any Segment.isDynamic = false) :
    ∃ l tree, (compileText text).pattern = .literal l ∧
      Regex.parse (Segment.expressionSource (ofPattern (Path.normalize text))) = .ok tree ∧
      (∀ e, Expression.ofSource (Segment.expressionSource (ofPattern (Path.normalize text))) = .ok e →
        e = Expression.ofTree (Segment.expressionSource (ofPattern (Path.normalize text))) tree) ∧
      ∀ path,
        (literal l).matches? (Path.normalize path) =
          (expression (Expression.ofTree (Segment.expressionSource (ofPattern (Path.normalize text))) tree)).matches?
            (Path.normalize path) ∧
        ∀ params, (literal l).matches? (Path.normalize path) = some params → params = [] := by
  refine ⟨_, _, pattern_of_not_isDynamic hroot hstatic,
    Segment.parse_expressionSource (Segment.ofPattern_ne_nil _) (Segment.ofPattern_isSound _),
    fun e he => eq_ofTree_of_ofSource he, fun path => ⟨?_, fun params h => ?_⟩⟩
  · refine Option.ext (fun params => ?_)
    rw [matches?_literalPath hroot hstatic path params]
    exact (params?_ofPattern hroot _ path params).symm
  · exact (Option.some.inj (Option.ite_none_right_eq_some.1 h).2).symm

/-- A text with characters that mean something in an expression, white space before it and a line feed in it. -/
theorem matches?_escapedText : ∃ tree,
    Regex.parse (Segment.expressionSource (ofPattern (Path.normalize (Text.ofString "/x/ a.b*\nc")))) = .ok tree ∧
      (expression (Expression.ofTree (Segment.expressionSource (ofPattern (Path.normalize (Text.ofString "/x/ a.b*\nc"))))
        tree)).matches? (Path.normalize (Text.ofString "x//a.b*\nc/")) = some [] := by
  obtain ⟨l, tree, hliteral, hparse, -, hmatches⟩ :=
    @matches?_literal_eq_expression (Text.ofString "/x/ a.b*\nc") (by decide +kernel) (by decide +kernel)
  obtain rfl : Text.ofString "/x/a.b*\nc" = l := Pattern.literal.inj hliteral
  refine ⟨tree, hparse, ?_⟩
  rw [← (hmatches (Text.ofString "x//a.b*\nc/")).1]
  decide +kernel

end Pattern

end PathRouting
