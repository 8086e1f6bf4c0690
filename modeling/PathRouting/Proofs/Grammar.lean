import Mathlib
import PathRouting.Proofs.Readings

/-!
# The grammar of segments

Segments are told apart by one anchored expression with an alternative for parameters, one for wildcards and globs and one
for literals; what it does not match is outside the grammar. Statements: of the ways through an expression with the end of
the text behind it, only those count that come to it; the groups that a match leaves are those of the classified segment;
and classification is the inverse of writing, on all texts and on all segments that are written in the grammar.
-/

namespace PathRouting

/-! ## Characters -/

/-- An ASCII letter, in either case. -/
def IsLetter (c : Char) : Prop := 'A' ≤ c ∧ c ≤ 'Z' ∨ 'a' ≤ c ∧ c ≤ 'z'

/-- An ASCII digit. -/
def IsDigit (c : Char) : Prop := '0' ≤ c ∧ c ≤ '9'

/-- The letters are those of the two alphabets. -/
theorem isAlpha_iff {c : Char} : c.isAlpha = true ↔ IsLetter c := by
  simp only [Char.isAlpha, Char.isUpper, Char.isLower, IsLetter, Bool.or_eq_true, Bool.and_eq_true, decide_eq_true_eq]
  exact Iff.rfl

/-- The digits are those from zero to nine. -/
theorem isDigit_iff {c : Char} : c.isDigit = true ↔ IsDigit c := by
  simp only [Char.isDigit, IsDigit, Bool.and_eq_true, decide_eq_true_eq]
  exact Iff.rfl

/-- A letter or a digit is what the name of a parameter goes on with. -/
theorem isAlphanum_iff {c : Char} : c.isAlphanum = true ↔ IsLetter c ∨ IsDigit c := by
  rw [Char.isAlphanum, Bool.or_eq_true, isAlpha_iff, isDigit_iff]

/-- A word has letters, digits, low lines and hyphens. -/
theorem isLiteralChar_iff {c : Char} : Segment.isLiteralChar c = true ↔ IsLetter c ∨ IsDigit c ∨ c = '_' ∨ c = '-' := by
  rw [Segment.isLiteralChar, Bool.or_eq_true, Bool.or_eq_true, isAlphanum_iff, beq_iff_eq, beq_iff_eq, or_assoc, or_assoc]

namespace CharSet

/-- The characters that a parameter's name begins with. -/
def nameStart : CharSet := ⟨[(65, 90), (97, 122)]⟩

/-- The characters of a parameter's name. -/
def nameRest : CharSet := ⟨[(48, 57), (65, 90), (97, 122)]⟩

/-- The literal alphabet. -/
def literal : CharSet := ⟨[(45, 45), (48, 57), (65, 90), (95, 95), (97, 122)]⟩

/-- A name starts with a letter, in the expression as in the check. -/
theorem nameStart_contains (c : Char) : nameStart.contains c = c.isAlpha := by
  rw [Bool.eq_iff_iff, isAlpha_iff]
  simp [nameStart, contains, hasCode, IsLetter, Char.le_def, UInt32.le_iff_toNat_le]

/-- A name goes on with letters and digits, in the expression as in the check. -/
theorem nameRest_contains (c : Char) : nameRest.contains c = c.isAlphanum := by
  rw [Bool.eq_iff_iff, isAlphanum_iff]
  simp [nameRest, contains, hasCode, IsLetter, IsDigit, Char.le_def, UInt32.le_iff_toNat_le]
  omega

/-- The characters of a word are those of the check. -/
theorem literal_contains (c : Char) : literal.contains c = Segment.isLiteralChar c := by
  have heq : ∀ d : Char, c = d ↔ c.toNat = d.toNat := fun d => Char.toNat_inj.symm
  rw [Bool.eq_iff_iff, isLiteralChar_iff, heq, heq]
  simp [literal, contains, hasCode, IsLetter, IsDigit, Char.le_def, UInt32.le_iff_toNat_le]
  omega

end CharSet

/-! ## Ways to the end of the text -/

namespace Way

/-- The ways that come to the end of the text. -/
def finished (ways : List Way) : List Way := ways.filter (fun v => v.1.rest.isEmpty)

/-- What has come to the end among two lists of ways is that of both. -/
theorem finished_append (ways ways' : List Way) : finished (ways ++ ways') = finished ways ++ finished ways' :=
  List.filter_append ways ways'

/-- One way has come to the end if no text is left to it. -/
theorem finished_singleton (w : Way) : finished [w] = if w.1.rest = [] then [w] else [] := by
  rw [finished, List.filter_singleton]
  cases w.1.rest <;> rfl

/-- What has come to the end may be picked out in each part. -/
theorem finished_flatMap (ways : List Way) (f : Way → List Way) :
    finished (ways.flatMap f) = ways.flatMap (fun v => finished (f v)) := by
  rw [finished, List.filter_flatMap]
  rfl

end Way

namespace CharSet

/-- The text is a character of the first set, and characters of the second behind it. -/
def spells (first others : CharSet) : Text → Bool
  | [] => false
  | c :: rest => first.contains c && rest.all others.contains

/-- The expression of a name takes just the texts that the check accepts. -/
theorem spells_name (t : Text) : nameStart.spells nameRest t = Segment.isParamName t := by
  cases t with
  | nil => rfl
  | cons c rest =>
    rw [spells, Segment.isParamName, nameStart_contains, funext nameRest_contains]

/-- The expression of a word takes just the texts that the check accepts. -/
theorem spells_literal (t : Text) : literal.spells literal t = (!t.isEmpty && t.all Segment.isLiteralChar) := by
  cases t with
  | nil => rfl
  | cons c rest =>
    rw [spells, funext literal_contains]
    rfl

end CharSet

namespace Regex

open Way (finished finished_append finished_singleton finished_flatMap)

/-- A choice goes the ways of its first part and then those of its second. -/
theorem ways_alt (a b : Regex) (w : Way) : (alt a b).ways w = a.ways w ++ b.ways w := by
  have ha := ways_toGoal a 1
  have hb := ways_toGoal b (a.toGoal 1).2
  simp only [ways, goal, toGoal, Goal.ways] at ha hb ⊢
  rw [ha, hb]

/-- With the end of the text behind it, an expression has the ways that come to it. -/
theorem ways_cat_textEnd (e : Regex) (w : Way) : (cat e (.look .textEnd)).ways w = finished (e.ways w) := by
  have hend : ∀ v : Way, (look .textEnd).ways v = finished [v] := by
    intro v
    rw [ways_look, finished_singleton]
    cases v.1.rest <;> rfl
  rw [ways_cat, List.flatMap_congr (fun v _ => hend v), ← finished_flatMap, List.flatMap_singleton']

/-- A group comes to the end of the text where its body does. -/
theorem finished_ways_group (i : Nat) (name : Option Text) (body : Regex) (w : Way) :
    finished ((group i name body).ways w) =
      (finished (body.ways (w.1, (2 * i, w.1.place) :: w.2))).map (fun v => (v.1, (2 * i + 1, v.1.place) :: v.2)) := by
  rw [ways_group, finished, List.filter_map]
  rfl

/-- Characters of a set, as many as there are, come to the end of the text in one way, if all that is left are such. -/
theorem finished_ways_many (label label' : Nat) (set : CharSet) (w : Way) :
    finished ((Goal.many label true (.chars label' set)).ways w) =
      if w.1.rest.all set.contains then [(w.1.past w.1.rest [], w.2)] else [] := by
  obtain ⟨⟨prev, place, rest⟩, m⟩ := w
  have hsingle : (Goal.chars label' set).IsSingle := trivial
  induction rest generalizing prev place with
  | nil => rfl
  | cons c rest ih =>
    have hstays : finished [((⟨prev, place, c :: rest⟩, m) : Way)] = [] := finished_singleton _
    rw [hsingle.ways_many, Way.fork, if_pos rfl, finished_append, hstays, List.append_nil, finished_flatMap]
    by_cases hc : set.contains c = true
    · have hread : (Goal.chars label' set).ways (⟨prev, place, c :: rest⟩, m) = [(⟨some c, place + 1, rest⟩, m)] := by
        simp [Goal.ways, Spot.readChar?, hc, Spot.after]
      rw [hread, List.flatMap_singleton, ih, List.all_cons, hc, Bool.true_and]
      have hpast : (⟨some c, place + 1, rest⟩ : Spot).past rest [] = (⟨prev, place, c :: rest⟩ : Spot).past (c :: rest) [] :=
        Spot.past_past ⟨prev, place, c :: rest⟩ [c] rest rest []
      rw [hpast]
    · have hread : (Goal.chars label' set).ways (⟨prev, place, c :: rest⟩, m) = [] := by
        simp [Goal.ways, Spot.readChar?, hc]
      rw [hread, List.flatMap_nil, List.all_cons, Bool.eq_false_iff.2 hc, Bool.false_and]
      rfl

/-- A word of characters of two sets comes to the end of the text in one way, if what is left is such a word. -/
theorem finished_ways_word (label label' : Nat) (first others : CharSet) (w : Way) :
    finished (((chars first).ways w).flatMap (Goal.many label true (.chars label' others)).ways) =
      if first.spells others w.1.rest then [(w.1.past w.1.rest [], w.2)] else [] := by
  obtain ⟨⟨prev, place, rest⟩, m⟩ := w
  rw [finished_flatMap]
  cases rest with
  | nil => rfl
  | cons c rest =>
    rw [CharSet.spells]
    by_cases hc : first.contains c = true
    · have hread : (chars first).ways (⟨prev, place, c :: rest⟩, m) = [(⟨some c, place + 1, rest⟩, m)] := by
        simp [ways, goal, toGoal, Goal.ways, Spot.readChar?, hc, Spot.after]
      rw [hread, List.flatMap_singleton, finished_ways_many, hc, Bool.true_and]
      have hpast : (⟨some c, place + 1, rest⟩ : Spot).past rest [] = (⟨prev, place, c :: rest⟩ : Spot).past (c :: rest) [] :=
        Spot.past_past ⟨prev, place, c :: rest⟩ [c] rest rest []
      rw [hpast]
    · have hread : (chars first).ways (⟨prev, place, c :: rest⟩, m) = [] := by
        simp [ways, goal, toGoal, Goal.ways, Spot.readChar?, hc]
      rw [hread, List.flatMap_nil, Bool.eq_false_iff.2 hc, Bool.false_and]
      rfl

/-- A group around a body that comes to the end in one way, or in none, makes its marks at the two ends of what is left. -/
theorem marks_group {p : Prop} [Decidable p] {i : Nat} {name : Option Text} {body : Regex} {w : Way}
    (h : finished (body.ways (w.1, (2 * i, w.1.place) :: w.2)) =
      if p then [(w.1.past w.1.rest [], (2 * i, w.1.place) :: w.2)] else []) :
    (finished ((group i name body).ways w)).map Prod.snd =
      if p then [(2 * i + 1, w.1.place + w.1.rest.length) :: (2 * i, w.1.place) :: w.2] else [] := by
  rw [finished_ways_group, h, List.map_map]
  split <;> rfl

end Regex

namespace Segment

open Regex (finished_ways_word marks_group ways_alt ways_cat ways_cat_textEnd ways_literal ways_look)
open Way (finished finished_append finished_singleton finished_flatMap)

/-! ## The expression -/

/-- The expression that the kinds of segments are told apart by. -/
def grammar : Text :=
  Text.ofString "^(?::(?<param>[A-Za-z][A-Za-z0-9]*)|(?<wildcard>\\*\\*?)|(?<literal>[A-Za-z0-9_-]+))$"

/-- The alternative for parameters. -/
def paramTree : Regex :=
  .cat (.literal [':']) (.group 1 (some (Text.ofString "param"))
    (.cat (.chars CharSet.nameStart) (.repeated 0 none true (.chars CharSet.nameRest))))

/-- The alternative for wildcards and globs. -/
def starsTree : Regex :=
  .group 2 (some (Text.ofString "wildcard")) (.cat (.literal ['*']) (.repeated 0 (some 1) true (.literal ['*'])))

/-- The alternative for literals. -/
def literalTree : Regex :=
  .group 3 (some (Text.ofString "literal")) (.repeated 1 none true (.chars CharSet.literal))

/-- The expression as a tree. -/
def grammarTree : Regex :=
  .cat (.look .textStart) (.cat (.alt paramTree (.alt starsTree literalTree)) (.look .textEnd))

/-- The source of the grammar is an expression, and this is its tree. -/
theorem parse_grammar : Regex.parse grammar = .ok grammarTree := by decide +kernel

/-- The expression of the grammar is within the limits of the engine. -/
theorem fits_grammarTree : grammarTree.fits = true := by decide +kernel

/-- The engine takes the expression. -/
theorem ofSource_grammar : Expression.ofSource grammar = .ok (.ofTree grammar grammarTree) := by
  have hread : Expression.ofSource grammar =
      if grammarTree.fits then .ok (.ofTree grammar grammarTree) else .error .tooLarge := by
    rw [Expression.ofSource, parse_grammar]
    rfl
  rw [hread, if_pos fits_grammarTree]

/-- The alternatives read a character each, and only single characters are repeated. -/
theorem isPlain_grammarTree : grammarTree.goal.IsPlain :=
  ⟨trivial, ⟨⟨⟨trivial, trivial, trivial⟩, ⟨⟨trivial, trivial⟩, trivial, trivial, trivial⟩, rfl, rfl⟩, rfl, rfl⟩, trivial⟩

/-! ## What a match leaves -/

/-- The ways of the expression are those of its alternatives that come to the end of the text. -/
theorem ways_grammarTree (t : Text) : grammarTree.ways (⟨none, 0, t⟩, []) =
    finished (paramTree.ways (⟨none, 0, t⟩, [])) ++
      (finished (starsTree.ways (⟨none, 0, t⟩, [])) ++ finished (literalTree.ways (⟨none, 0, t⟩, []))) := by
  rw [grammarTree, ways_cat, ways_look]
  have hstart : Assertion.holds none t.head? .textStart = true := rfl
  rw [if_pos hstart, List.flatMap_singleton, ways_cat_textEnd, ways_alt, ways_alt, finished_append, finished_append]

/-- From any later place there is no way. -/
theorem ways_grammarTree_of_prev (c : Char) (place : Nat) (rest : Text) :
    grammarTree.ways (⟨some c, place, rest⟩, []) = [] := by
  rw [grammarTree, ways_cat, ways_look]
  rfl

/-- The alternative for parameters matches a colon and a name, and its group holds the name. -/
theorem marks_paramTree (t : Text) : (finished (paramTree.ways (⟨none, 0, t⟩, []))).map Prod.snd =
    if t.head? = some ':' ∧ isParamName t.tail = true then [[(3, t.length), (2, 1)]] else [] := by
  rw [paramTree, ways_cat, ways_literal, Spot.readText?_eq]
  cases t with
  | nil => rfl
  | cons c name =>
    by_cases hc : c = ':'
    · subst hc
      have hstarts : [':'] <+: ':' :: name := ⟨name, rfl⟩
      have hmany : (Regex.repeated 0 none true (.chars CharSet.nameRest)).ways =
          (Goal.many 0 true (.chars 1 CharSet.nameRest)).ways := rfl
      rw [if_pos hstarts, Option.toList_some, List.map_singleton, List.flatMap_singleton,
        marks_group (by rw [ways_cat, hmany, finished_ways_word])]
      simp [Spot.past, CharSet.spells_name, Nat.add_comm]
    · have hstarts : ¬[':'] <+: c :: name := fun h => hc (List.cons_prefix_cons.1 h).1.symm
      rw [if_neg hstarts, if_neg (fun h => hc (Option.some.inj h.1))]
      rfl

/-- A star that may be left out comes to the end of the text in one way, if one star is left or nothing. -/
theorem finished_ways_star (w : Way) : finished ((Regex.repeated 0 (some 1) true (.literal ['*'])).ways w) =
    if w.1.rest = [] ∨ w.1.rest = ['*'] then [(w.1.past w.1.rest [], w.2)] else [] := by
  have hways : (Regex.repeated 0 (some 1) true (.literal ['*'])).ways w =
      (w.1.readText? ['*']).toList.map (·, w.2) ++ [w] := by
    simp [Regex.ways, Regex.goal, Regex.toGoal, Regex.repeatedGoal, Goal.ways, Way.upTo, Way.fork]
  rw [hways, finished_append, finished_singleton, Spot.readText?_eq]
  obtain ⟨⟨prev, place, rest⟩, m⟩ := w
  cases rest with
  | nil => rfl
  | cons c rest =>
    by_cases hc : c = '*'
    · subst hc
      have hstarts : ['*'] <+: '*' :: rest := ⟨rest, rfl⟩
      rw [if_pos hstarts, Option.toList_some, List.map_singleton, finished_singleton]
      cases rest with
      | nil => rfl
      | cons d rest => simp [Spot.past]
    · have hstarts : ¬['*'] <+: c :: rest := fun h => hc (List.cons_prefix_cons.1 h).1.symm
      rw [if_neg hstarts]
      simp [finished, hc]

/-- The alternative for stars matches one or two of them. -/
theorem marks_starsTree (t : Text) : (finished (starsTree.ways (⟨none, 0, t⟩, []))).map Prod.snd =
    if t = ['*'] ∨ t = ['*', '*'] then [[(5, t.length), (4, 0)]] else [] := by
  have hstars : ∀ m : Marks, finished ((Regex.cat (.literal ['*']) (.repeated 0 (some 1) true (.literal ['*']))).ways
      (⟨none, 0, t⟩, m)) =
        if t = ['*'] ∨ t = ['*', '*'] then [((⟨none, 0, t⟩ : Spot).past t [], m)] else [] := by
    intro m
    rw [ways_cat, ways_literal, finished_flatMap, Spot.readText?_eq]
    cases t with
    | nil => rfl
    | cons c rest =>
      by_cases hc : c = '*'
      · subst hc
        have hstarts : ['*'] <+: '*' :: rest := ⟨rest, rfl⟩
        rw [if_pos hstarts, Option.toList_some, List.map_singleton, List.flatMap_singleton, finished_ways_star]
        have hpast : ((⟨none, 0, '*' :: rest⟩ : Spot).past ['*'] rest).past rest [] =
            (⟨none, 0, '*' :: rest⟩ : Spot).past ('*' :: rest) [] := Spot.past_past _ ['*'] rest rest []
        rw [← hpast]
        simp [Spot.past]
      · have hstarts : ¬['*'] <+: c :: rest := fun h => hc (List.cons_prefix_cons.1 h).1.symm
        rw [if_neg hstarts]
        simp [hc]
  rw [starsTree, marks_group (hstars _)]
  simp

/-- The alternative for literals matches what is written in the literal alphabet. -/
theorem marks_literalTree (t : Text) : (finished (literalTree.ways (⟨none, 0, t⟩, []))).map Prod.snd =
    if (!t.isEmpty && t.all isLiteralChar) = true then [[(7, t.length), (6, 0)]] else [] := by
  rw [literalTree, marks_group (by rw [Regex.ways_repeated_one, finished_ways_word])]
  simp [CharSet.spells_literal]

/-- A match leaves one named group: the name of a parameter, the stars, or the whole text of a literal. -/
theorem params?_grammarTree (t : Text) : (Expression.ofTree grammar grammarTree).params? t =
    if t.head? = some ':' ∧ isParamName t.tail = true then some [(Text.ofString "param", t.tail)]
    else if t = ['*'] ∨ t = ['*', '*'] then some [(Text.ofString "wildcard", t)]
    else if (!t.isEmpty && t.all isLiteralChar) = true then some [(Text.ofString "literal", t)]
    else none := by
  have hsearch : grammarTree.goal.search t =
      ((grammarTree.ways (⟨none, 0, t⟩, [])).map Prod.snd).head? := by
    rw [List.head?_map]
    exact Goal.search_of_anchored isPlain_grammarTree ways_grammarTree_of_prev t
  have hnames : grammarTree.namedGroups =
      [(1, Text.ofString "param"), (2, Text.ofString "wildcard"), (3, Text.ofString "literal")] := rfl
  rw [Expression.params?, Expression.ofTree, hnames]
  dsimp only
  rw [hsearch, ways_grammarTree, List.map_append, List.map_append, marks_paramTree, marks_starsTree, marks_literalTree]
  split
  · simp [Marks.groupText?, List.lookup]
  · split
    · simp [Marks.groupText?, List.lookup]
    · split
      · simp [Marks.groupText?, List.lookup]
      · rfl

/-- What a text stands for by the groups that took part when it was matched, if it was. -/
def ofGroups (t : Text) : Option Params → Segment
  | none => .unrecognised t
  | some groups =>
    match groups.lookup (Text.ofString "param") with
    | some name => .param name
    | none =>
      match groups.lookup (Text.ofString "wildcard") with
      | some stars => if stars = ['*', '*'] then .glob else .wildcard
      | none => .literal t

/-- What a text is classified as is what the groups of a match tell. -/
theorem classify_eq_ofGroups (t : Text) :
    classify t = ofGroups t ((Expression.ofTree grammar grammarTree).params? t) := by
  rw [params?_grammarTree]
  unfold classify
  split
  · rfl
  · rfl
  · rename_i name
    cases hname : isParamName name with
    | true => simp [ofGroups, hname]
    | false =>
      simp [ofGroups, hname, isLiteralChar]
  · rename_i hstar hstars hcolon
    have hnot : ¬(t.head? = some ':' ∧ isParamName t.tail = true) := by
      rintro ⟨hhead, -⟩
      obtain ⟨name, ht⟩ := List.head?_eq_some_iff.1 hhead
      exact hcolon name ht
    have hone : ¬(t = ['*'] ∨ t = ['*', '*']) := fun h => h.elim hstar hstars
    rw [if_neg hnot, if_neg hone]
    split
    · rfl
    · rfl

/-! ## The grammar -/

/-- A parameter's name: a letter, and letters and digits behind it. -/
def IsName (t : Text) : Prop := ∃ c rest, t = c :: rest ∧ IsLetter c ∧ ∀ d ∈ rest, IsLetter d ∨ IsDigit d

/-- A literal: one or more letters, digits, `_` and `-`. -/
def IsWord (t : Text) : Prop := t ≠ [] ∧ ∀ c ∈ t, IsLetter c ∨ IsDigit c ∨ c = '_' ∨ c = '-'

/-- The text is a colon and a name, one star, two stars, or a literal. -/
def InGrammar (t : Text) : Prop := (∃ name, t = ':' :: name ∧ IsName name) ∨ t = ['*'] ∨ t = ['*', '*'] ∨ IsWord t

/-- What a text stands for. -/
inductive StandsFor : Text → Segment → Prop where
  | param {name : Text} : IsName name → StandsFor (':' :: name) (.param name)
  | wildcard : StandsFor ['*'] .wildcard
  | glob : StandsFor ['*', '*'] .glob
  | literal {t : Text} : IsWord t → StandsFor t (.literal t)
  | unrecognised {t : Text} : ¬InGrammar t → StandsFor t (.unrecognised t)

/-- The check of a parameter's name accepts the names of the grammar. -/
theorem isParamName_iff {t : Text} : isParamName t = true ↔ IsName t := by
  cases t with
  | nil => simp [isParamName, IsName]
  | cons c rest =>
    rw [isParamName, Bool.and_eq_true, List.all_eq_true, isAlpha_iff]
    simp only [isAlphanum_iff]
    constructor
    · rintro ⟨hc, hrest⟩
      exact ⟨c, rest, rfl, hc, hrest⟩
    · rintro ⟨d, others, heq, hd, hothers⟩
      obtain ⟨rfl, rfl⟩ := List.cons.inj heq
      exact ⟨hd, hothers⟩

/-- The check of a word accepts the words of the grammar. -/
theorem isWord_iff {t : Text} : (!t.isEmpty && t.all isLiteralChar) = true ↔ IsWord t := by
  rw [Bool.and_eq_true, List.all_eq_true, Bool.not_eq_true', List.isEmpty_eq_false_iff, IsWord]
  simp only [isLiteralChar_iff]

/-- A text that stands for something is classified as that. -/
theorem StandsFor.classify_eq {t : Text} {k : Segment} (h : StandsFor t k) : classify t = k := by
  cases h with
  | param hname => rw [classify, if_pos (isParamName_iff.2 hname)]
  | wildcard => rfl
  | glob => rfl
  | literal hword =>
    unfold classify
    split
    · exact absurd hword (by rw [← isWord_iff]; decide)
    · exact absurd hword (by rw [← isWord_iff]; decide)
    · rename_i name
      exact absurd (isWord_iff.2 hword) (by simp [isLiteralChar])
    · rw [if_pos (isWord_iff.2 hword)]
  | unrecognised hnot =>
    unfold classify
    split
    · exact absurd (.inr (.inl rfl)) hnot
    · exact absurd (.inr (.inr (.inl rfl))) hnot
    · rename_i name
      rw [if_neg (fun hname => hnot (.inl ⟨name, rfl, isParamName_iff.1 hname⟩))]
    · rw [if_neg (fun hword => hnot (.inr (.inr (.inr (isWord_iff.1 hword)))))]

/-- Every text stands for what it is classified as. -/
theorem standsFor_classify (t : Text) : StandsFor t (classify t) := by
  have hsome : ∃ k, StandsFor t k := by
    by_cases h : InGrammar t
    · rcases h with ⟨name, rfl, hname⟩ | rfl | rfl | hword
      · exact ⟨_, .param hname⟩
      · exact ⟨_, .wildcard⟩
      · exact ⟨_, .glob⟩
      · exact ⟨_, .literal hword⟩
    · exact ⟨_, .unrecognised h⟩
  obtain ⟨k, hk⟩ := hsome
  rwa [hk.classify_eq]

/-- A segment is classified as the kind that its text stands for, and as no other. -/
theorem classify_eq_iff {t : Text} {k : Segment} : classify t = k ↔ StandsFor t k :=
  ⟨fun h => h ▸ standsFor_classify t, StandsFor.classify_eq⟩

/-- Writing what a text stands for gives the text back. -/
theorem StandsFor.written_eq {t : Text} {k : Segment} (h : StandsFor t k) : k.written = t := by
  cases h <;> rfl

/-- Classification tells a text by the groups of a match of the grammar's expression, and accepts exactly the grammar: a colon
and a name are a parameter, one star a wildcard, two a glob, one or more characters of the literal alphabet a literal, and
every other text is unrecognised. Nothing is lost: what a text is classified as is written as the text, and is what the
written text is classified as. -/
theorem classify_accepts_grammar (t : Text) :
    (∃ e, Expression.ofSource grammar = .ok e ∧ classify t = ofGroups t (e.params? t)) ∧
      (∀ name, classify t = .param name ↔ t = ':' :: name ∧ IsName name) ∧
      (classify t = .wildcard ↔ t = ['*']) ∧
      (classify t = .glob ↔ t = ['*', '*']) ∧
      (∀ text, classify t = .literal text ↔ text = t ∧ IsWord t) ∧
      (∀ text, classify t = .unrecognised text ↔ text = t ∧ ¬InGrammar t) ∧
      (classify t).written = t ∧
      classify (classify t).written = classify t := by
  have hwritten : (classify t).written = t := (standsFor_classify t).written_eq
  refine ⟨⟨_, ofSource_grammar, classify_eq_ofGroups t⟩, fun name => ?_, ?_, ?_, fun text => ?_, fun text => ?_, hwritten,
    by rw [hwritten]⟩
  · rw [classify_eq_iff]
    constructor
    · intro h
      cases h with
      | param hname => exact ⟨rfl, hname⟩
    · rintro ⟨rfl, hname⟩
      exact .param hname
  · rw [classify_eq_iff]
    constructor
    · intro h
      cases h with
      | wildcard => rfl
    · rintro rfl
      exact .wildcard
  · rw [classify_eq_iff]
    constructor
    · intro h
      cases h with
      | glob => rfl
    · rintro rfl
      exact .glob
  · rw [classify_eq_iff]
    constructor
    · intro h
      cases h with
      | literal hword => exact ⟨rfl, hword⟩
    · rintro ⟨rfl, hword⟩
      exact .literal hword
  · rw [classify_eq_iff]
    constructor
    · intro h
      cases h with
      | unrecognised hnot => exact ⟨rfl, hnot⟩
    · rintro ⟨rfl, hnot⟩
      exact .unrecognised hnot

end Segment

end PathRouting
