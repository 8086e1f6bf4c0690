import Mathlib.Data.List.Basic
import PathRouting.Expression
import PathRouting.Proofs.Ways

/-!
# Sequences of expressions

What a sequence in normal form stands for. Statements: the ways through a sequence are those through its expressions one
after the other, whatever literals were joined and whatever labels the goals have; its named groups are theirs in order;
and it is plain where they are.
-/

namespace PathRouting.Regex

/-- The ways through an expression. -/
def ways (e : Regex) : Way → List Way := e.goal.ways

/-- The ways through expressions one after the other. -/
def waysOf : List Regex → Way → List Way
  | [], w => [w]
  | e :: es, w => (e.ways w).flatMap (waysOf es)

/-! ## Labels -/

/-- The ways through a repetition do not depend on its label, nor on the labels of its body. -/
theorem ways_repeatedGoal (label label' least : Nat) (most : Option Nat) (greedy neverEmpty : Bool) {body body' : Goal}
    (h : body.ways = body'.ways) : (repeatedGoal label least most greedy neverEmpty body).ways =
      (repeatedGoal label' least most greedy neverEmpty body').ways := by
  funext w
  unfold repeatedGoal
  cases most with
  | none =>
    cases least with
    | zero =>
      cases neverEmpty with
      | true => simp only [if_true, Goal.ways, h]
      | false => simp only [Bool.false_eq_true, if_false, Goal.ways, h]
    | succ n => simp only [Goal.ways, h]
  | some most =>
    cases least with
    | zero => simp only [Goal.ways, h]
    | succ n => simp only [Goal.ways, h]

/-- The ways through an expression do not depend on the labels of its goal. -/
theorem ways_toGoal (e : Regex) (label : Nat) : (e.toGoal label).1.ways = e.ways := by
  suffices hlabels : ∀ label label', (e.toGoal label).1.ways = (e.toGoal label').1.ways from hlabels label 0
  induction e with
  | empty => intro l l'; rfl
  | literal t => intro l l'; funext w; simp only [toGoal, Goal.ways]
  | chars set => intro l l'; funext w; simp only [toGoal, Goal.ways]
  | look a => intro l l'; rfl
  | group i name body ih => intro l l'; funext w; simp only [toGoal, Goal.ways, ih l l']
  | cat a b iha ihb =>
    intro l l'
    funext w
    simp only [toGoal, Goal.ways, iha l l', ihb (a.toGoal l).2 (a.toGoal l').2]
  | alt a b iha ihb =>
    intro l l'
    funext w
    simp only [toGoal, Goal.ways, iha (l + 1) (l' + 1), ihb (a.toGoal (l + 1)).2 (a.toGoal (l' + 1)).2]
  | repeated least most greedy body ih =>
    intro l l'
    exact ways_repeatedGoal l l' least most greedy body.isNeverEmpty (ih (l + 1) (l' + 1))

/-! ## Ways -/

/-- A literal goes on where its text stands. -/
theorem ways_literal (t : Text) (w : Way) : (literal t).ways w = (w.1.readText? t).toList.map (·, w.2) := by
  simp only [ways, goal, toGoal, Goal.ways]

/-- An assertion reads nothing, and goes on where it holds. -/
theorem ways_look (a : Assertion) (w : Way) :
    (look a).ways w = if a.holds w.1.prev w.1.rest.head? then [w] else [] := by
  simp only [ways, goal, toGoal, Goal.ways]

/-- A group goes the ways of its body and notes where they begin and end. -/
theorem ways_group (i : Nat) (name : Option Text) (body : Regex) (w : Way) : (group i name body).ways w =
    (body.ways (w.1, (2 * i, w.1.place) :: w.2)).map (fun v => (v.1, (2 * i + 1, v.1.place) :: v.2)) := by
  simp only [ways, goal, toGoal, Goal.ways]

/-- Of two expressions in a row the second goes on from each way of the first. -/
theorem ways_cat (a b : Regex) (w : Way) : (cat a b).ways w = (a.ways w).flatMap b.ways := by
  have hb := ways_toGoal b (a.toGoal 0).2
  simp only [ways, goal, toGoal, Goal.ways] at hb ⊢
  rw [hb]

/-- Reading texts one after the other is reading them as one. -/
theorem readText?_append (s t : Text) (spot : Spot) :
    spot.readText? (s ++ t) = (spot.readText? s).bind (Spot.readText? t) := by
  induction s generalizing spot with
  | nil => rfl
  | cons c s ih =>
    rw [List.cons_append, Spot.readText?, Spot.readText?]
    cases spot.rest with
    | nil => rfl
    | cons d rest =>
      by_cases hd : d = c
      · simp only [hd, if_true]
        exact ih _
      · simp only [hd, if_false, Option.bind_none]

/-- A row of expressions may be cut in two. -/
theorem waysOf_append (es fs : List Regex) (w : Way) : waysOf (es ++ fs) w = (waysOf es w).flatMap (waysOf fs) := by
  induction es generalizing w with
  | nil => simp [waysOf]
  | cons e es ih =>
    rw [List.cons_append, waysOf, waysOf, List.flatMap_assoc]
    exact List.flatMap_congr (fun v _ => ih v)

/-- A row of one expression goes its ways. -/
theorem waysOf_singleton (e : Regex) (w : Way) : waysOf [e] w = e.ways w := by
  simp [waysOf]

/-- Joining two literals changes no way. -/
theorem waysOf_consItem (e : Regex) (es : List Regex) (w : Way) : waysOf (consItem e es) w = waysOf (e :: es) w := by
  unfold consItem
  split
  · rename_i s t rest
    simp only [waysOf, ways_literal]
    rw [readText?_append]
    cases w.1.readText? s with
    | none => rfl
    | some spot => simp
  · rfl

/-- Joining literals that stand side by side changes no way. -/
theorem waysOf_foldr_consItem (es : List Regex) (w : Way) : waysOf (es.foldr consItem []) w = waysOf es w := by
  induction es generalizing w with
  | nil => rfl
  | cons e es ih =>
    rw [List.foldr_cons, waysOf_consItem, waysOf, waysOf]
    exact List.flatMap_congr (fun v _ => ih v)

/-- The tree of a row goes the ways of the row. -/
theorem ways_ofItems (es : List Regex) (w : Way) : (ofItems es).ways w = waysOf es w := by
  induction es generalizing w with
  | nil => rfl
  | cons e es ih =>
    cases es with
    | nil => exact (waysOf_singleton e w).symm
    | cons f es =>
      rw [ofItems, ways_cat, waysOf]
      exact List.flatMap_congr (fun v _ => ih v)
      exact List.cons_ne_nil f es

/-- A tree goes the ways of its parts in a row. -/
theorem waysOf_items (e : Regex) (w : Way) : waysOf e.items w = e.ways w := by
  induction e generalizing w with
  | empty => rfl
  | cat a b _ ihb =>
    rw [items, waysOf, ways_cat]
    exact List.flatMap_congr (fun v _ => ihb v)
  | _ => exact waysOf_singleton _ w

/-- Taking the parts of a row apart further changes no way. -/
theorem waysOf_flatMap_items (es : List Regex) (w : Way) : waysOf (es.flatMap items) w = waysOf es w := by
  induction es generalizing w with
  | nil => rfl
  | cons e es ih =>
    rw [List.flatMap_cons, waysOf_append, waysOf_items, waysOf]
    exact List.flatMap_congr (fun v _ => ih v)

/-- The ways through a sequence are those through its expressions one after the other. -/
theorem ways_concat (es : List Regex) (w : Way) : (concat es).ways w = waysOf es w := by
  rw [concat, ways_ofItems, waysOf_foldr_consItem, waysOf_flatMap_items]

/-! ## Named groups -/

/-- Joining literals that stand side by side loses no group. -/
theorem namedGroups_consItem (e : Regex) (es : List Regex) :
    (consItem e es).flatMap groups = e.groups ++ es.flatMap groups := by
  unfold consItem
  split
  · simp [groups]
  · rfl

/-- The tree of a row has the groups of its parts in order. -/
theorem groups_ofItems (es : List Regex) : (ofItems es).groups = es.flatMap groups := by
  induction es with
  | nil => rfl
  | cons e es ih =>
    cases es with
    | nil => simp [ofItems]
    | cons f es =>
      rw [ofItems, groups, ih]
      · rfl
      · exact List.cons_ne_nil f es

/-- The parts of a tree have its groups in order. -/
theorem groups_items (e : Regex) : e.items.flatMap groups = e.groups := by
  induction e with
  | empty => rfl
  | cat a b _ ihb => rw [items, List.flatMap_cons, ihb, groups]
  | _ => simp [items]

/-- The groups of a sequence are those of its expressions in order. -/
theorem groups_concat (es : List Regex) : (concat es).groups = es.flatMap groups := by
  have hfold : ∀ fs : List Regex, (fs.foldr consItem []).flatMap groups = fs.flatMap groups := by
    intro fs
    induction fs with
    | nil => rfl
    | cons f fs ih => rw [List.foldr_cons, namedGroups_consItem, ih, List.flatMap_cons]
  rw [concat, groups_ofItems, hfold, List.flatMap_assoc]
  exact List.flatMap_congr (fun e _ => groups_items e)

/-! ## Plain expressions -/

/-- The expression reads exactly one character. -/
def IsSingle : Regex → Prop
  | .literal [_] => True
  | .chars set => set.ranges ≠ []
  | _ => False

/-- The expression has no alternatives, and what it repeats are single characters. -/
def IsPlain : Regex → Prop
  | .group _ _ body => body.IsPlain
  | .cat a b => a.IsPlain ∧ b.IsPlain
  | .alt _ _ => False
  | .repeated _ _ _ body => body.IsSingle
  | _ => True

/-- A single character is a goal that reads one, and it cannot match the empty text. -/
theorem IsSingle.toGoal {e : Regex} (h : e.IsSingle) (label : Nat) :
    (e.toGoal label).1.IsSingle ∧ e.isNeverEmpty = true := by
  match e, h with
  | .literal [c], _ => exact ⟨trivial, rfl⟩
  | .chars set, h =>
    refine ⟨trivial, ?_⟩
    have hne : set.ranges.isEmpty = false := Bool.eq_false_iff.2 (fun he => h (List.isEmpty_iff.1 he))
    simp [isNeverEmpty, minLength?, hne]

/-- The goal of a plain expression is plain. -/
theorem IsPlain.toGoal {e : Regex} (h : e.IsPlain) (label : Nat) : (e.toGoal label).1.IsPlain := by
  induction e generalizing label with
  | empty => trivial
  | literal t => trivial
  | chars set => trivial
  | look a => trivial
  | group i name body ih => exact ih h label
  | cat a b iha ihb => exact ⟨iha h.1 label, ihb h.2 _⟩
  | alt a b => exact h.elim
  | repeated least most greedy body ih =>
    obtain ⟨hsingle, hnever⟩ := IsSingle.toGoal h (label + 1)
    simp only [Regex.toGoal, repeatedGoal, hnever]
    cases most with
    | none =>
      cases least with
      | zero => exact hsingle
      | succ n => exact ⟨hsingle, hsingle.isPlain, hsingle⟩
    | some most =>
      cases least with
      | zero => exact hsingle
      | succ n => exact ⟨hsingle, hsingle⟩

/-- A plain expression put before plain ones makes a plain row. -/
theorem isPlain_consItem {e : Regex} {es : List Regex} (he : e.IsPlain) (hes : ∀ f ∈ es, f.IsPlain) :
    ∀ f ∈ consItem e es, f.IsPlain := by
  unfold consItem
  split
  · intro f hf
    rcases List.mem_cons.1 hf with rfl | hf
    · trivial
    · exact hes f (List.mem_cons_of_mem _ hf)
  · intro f hf
    rcases List.mem_cons.1 hf with rfl | hf
    · exact he
    · exact hes f hf

/-- The tree of a plain row is plain. -/
theorem isPlain_ofItems {es : List Regex} (h : ∀ e ∈ es, e.IsPlain) : (ofItems es).IsPlain := by
  induction es with
  | nil => trivial
  | cons e es ih =>
    cases es with
    | nil => exact h e (List.mem_cons_self ..)
    | cons f es => exact ⟨h e (List.mem_cons_self ..), ih (fun g hg => h g (List.mem_cons_of_mem _ hg))⟩

/-- The parts of a plain expression are plain. -/
theorem IsPlain.mem_items {e f : Regex} (h : e.IsPlain) (hf : f ∈ e.items) : f.IsPlain := by
  induction e with
  | empty => simp [items] at hf
  | cat a b _ ihb =>
    rcases List.mem_cons.1 hf with rfl | hf
    · exact h.1
    · exact ihb h.2 hf
  | _ =>
    obtain rfl := List.mem_singleton.1 hf
    exact h

/-- A sequence of plain expressions is plain. -/
theorem isPlain_concat {es : List Regex} (h : ∀ e ∈ es, e.IsPlain) : (concat es).IsPlain := by
  have hfold : ∀ fs : List Regex, (∀ f ∈ fs, f.IsPlain) → ∀ f ∈ fs.foldr consItem [], f.IsPlain := by
    intro fs
    induction fs with
    | nil => intro _ f hf; simp at hf
    | cons f fs ih =>
      intro hfs
      exact isPlain_consItem (hfs f (List.mem_cons_self ..)) (ih (fun g hg => hfs g (List.mem_cons_of_mem _ hg)))
  apply isPlain_ofItems
  apply hfold
  intro f hf
  obtain ⟨e, he, hfe⟩ := List.mem_flatMap.1 hf
  exact (h e he).mem_items hfe

end PathRouting.Regex
