import PathRouting.Proofs.Search
import PathRouting.Proofs.Sequences
import PathRouting.Proofs.Trees

/-!
# Readings of a text by parts

What matching a text against a pattern's expression yields, said on texts alone: a reading gives each part the piece of
the text that it takes, and the readings stand in the order in which the search prefers them. The main statement is that
the outcome of a match are the named pieces of the first reading.
-/

namespace PathRouting

namespace Spot

/-- The place after a piece of the text, with what is left. -/
def past (s : Spot) (piece rest : Text) : Spot := ⟨piece.getLast?.or s.prev, s.place + piece.length, rest⟩

theorem past_past (s : Spot) (p q r r' : Text) : (s.past p r).past q r' = s.past (p ++ q) r' := by
  simp only [past, List.getLast?_append, List.length_append, Option.or_assoc, Nat.add_assoc]

/-- A text is read where it comes next. -/
theorem readText?_eq (t : Text) (s : Spot) :
    s.readText? t = if t <+: s.rest then some (s.past t (s.rest.drop t.length)) else none := by
  induction t generalizing s with
  | nil => simp [readText?, past]
  | cons c t ih =>
    rw [readText?]
    cases hr : s.rest with
    | nil => simp
    | cons d rest =>
      by_cases hd : d = c
      · subst hd
        simp only [if_true, List.cons_prefix_cons, true_and, ih]
        have hpast : ∀ r, (s.after d rest).past t r = s.past (d :: t) r := fun r => past_past s [d] t rest r
        rw [hpast]
        rfl
      · have hc : ¬c = d := fun h => hd h.symm
        simp [hd, hc]

end Spot

/-- The pieces that a text can begin with, of one or more characters other than `x`, longest first, each with what is
left. -/
def stretches (x : Char) : Text → List (Text × Text)
  | [] => []
  | c :: rest => if c = x then [] else (stretches x rest).map (fun p => (c :: p.1, p.2)) ++ [([c], rest)]

namespace Part

/-- The pieces that a part can take from the start of a text, each with what is left. -/
def pieces : Part → Text → List (Text × Text)
  | .text t, rest => if t <+: rest then [(t, rest.drop t.length)] else []
  | .run _ span, rest => stretches span.excluded rest

/-- The readings of a text by parts, each behind a separator. One separator may be left at the end. -/
def readings : List Part → Text → List (List Text)
  | [], rest => if rest = [] ∨ rest = [Path.separator] then [[]] else []
  | p :: ps, rest =>
    match rest with
    | [] => []
    | c :: rest =>
      if c = Path.separator then (p.pieces rest).flatMap (fun q => (readings ps q.2).map (q.1 :: ·)) else []

/-- The named pieces of a reading. -/
def named : List Part → List Text → Params
  | p :: ps, b :: bs => (p.name?.map (·, b)).toList ++ named ps bs
  | _, _ => []

/-- The marks that a part makes where it takes a piece. -/
def mark (index place : Nat) (piece : Text) (m : Marks) : Part → Marks
  | .text _ => m
  | .run _ _ => (2 * index + 1, place + piece.length) :: (2 * index, place) :: m

/-- The marks that parts make in a reading. -/
def marks (index place : Nat) : List Part → List Text → Marks → Marks
  | p :: ps, b :: bs, m =>
    marks (p.nextIndex index) (place + 1 + b.length) ps bs (p.mark index (place + 1) b m)
  | _, _, m => m

end Part

/-! ## The ways of a part -/

namespace Regex

/-- A text is read character by character. -/
theorem waysOf_map_literal (t : Text) (w : Way) :
    waysOf (t.map (fun c => .literal [c])) w = (w.1.readText? t).toList.map (·, w.2) := by
  induction t generalizing w with
  | nil => rfl
  | cons c t ih =>
    rw [List.map_cons, waysOf, ways_literal]
    have happend := readText?_append [c] t w.1
    rw [List.singleton_append] at happend
    rw [happend]
    cases w.1.readText? [c] with
    | none => rfl
    | some s => simp [ih]

/-- Going round characters of a span: the stretches of them, or none. -/
theorem ways_many_chars (label : Nat) (span : Span) (w : Way) :
    (Goal.many label true (.chars label span.set)).ways w =
      (stretches span.excluded w.1.rest).map (fun p => (w.1.past p.1 p.2, w.2)) ++ [w] := by
  obtain ⟨⟨prev, place, rest⟩, m⟩ := w
  induction rest generalizing prev place with
  | nil => rfl
  | cons c rest ih =>
    have hsingle : (Goal.chars label span.set).IsSingle := trivial
    rw [hsingle.ways_many, stretches]
    by_cases hc : c = span.excluded
    · simp [Goal.ways, Spot.readChar?, Span.contains_set, hc, Way.fork]
    · have hread : (Goal.chars label span.set).ways (⟨prev, place, c :: rest⟩, m) =
          [(⟨some c, place + 1, rest⟩, m)] := by
        simp [Goal.ways, Spot.readChar?, Span.contains_set, hc, Spot.after]
      rw [hread, List.flatMap_singleton, ih, if_neg hc]
      simp only [Way.fork, if_true, List.map_append, List.map_map, Function.comp_def, List.map_cons, List.map_nil]
      congr 2
      apply List.map_congr_left
      intro p _
      exact Prod.ext (Spot.past_past ⟨prev, place, c :: rest⟩ [c] p.1 rest p.2) rfl

/-- One or more characters of a set: one, and going round the others. -/
theorem ways_repeated_one (set : CharSet) (w : Way) : (repeated 1 none true (.chars set)).ways w =
    ((chars set).ways w).flatMap (Goal.many 0 true (.chars 1 set)).ways := by
  simp only [ways, goal, toGoal, repeatedGoal, Goal.ways, Way.times, List.flatMap_singleton]

/-- One or more characters of a span: its stretches. -/
theorem ways_repeated_chars (span : Span) (w : Way) : (repeated 1 none true (.chars span.set)).ways w =
    (stretches span.excluded w.1.rest).map (fun p => (w.1.past p.1 p.2, w.2)) := by
  have hmany : (Goal.many 0 true (.chars 1 span.set)).ways = (Goal.many 1 true (.chars 1 span.set)).ways := by
    funext v
    simp only [Goal.ways]
  rw [ways_repeated_one, hmany]
  have hround := ways_many_chars 1 span w
  have hsingle : (Goal.chars 1 span.set).IsSingle := trivial
  rw [hsingle.ways_many, Way.fork, if_pos rfl] at hround
  exact List.append_cancel_right hround

end Regex

namespace Part

/-- The ways through the trees of a part are the pieces that it can take. -/
theorem waysOf_items (p : Part) (index : Nat) (w : Way) : Regex.waysOf ((p.items index).map Item.tree) w =
    (p.pieces w.1.rest).map (fun q => (w.1.past q.1 q.2, p.mark index w.1.place q.1 w.2)) := by
  cases p with
  | text t =>
    have htrees : ((Part.text t).items index).map Item.tree = t.map (fun c => .literal [c]) := by
      rw [items, List.map_map]
      rfl
    rw [htrees, Regex.waysOf_map_literal, Spot.readText?_eq, pieces]
    split
    · rfl
    · rfl
  | run name span =>
    have htrees : ((Part.run name span).items index).map Item.tree = [runTree index name span] := rfl
    rw [htrees, Regex.waysOf_singleton, runTree, Regex.ways_group, Regex.ways_repeated_chars, List.map_map]
    rfl

/-- Behind the parts the text has to end, but for one separator. -/
theorem waysOf_closing (w : Way) :
    (Regex.waysOf [.repeated 0 (some 1) true (.literal ['/']), .look .textEnd] w).map Prod.snd =
      if w.1.rest = [] ∨ w.1.rest = [Path.separator] then [w.2] else [] := by
  have hgoal : (Regex.repeated 0 (some 1) true (.literal ['/'])).ways w =
      (w.1.readText? ['/']).toList.map (·, w.2) ++ [w] := by
    simp [Regex.ways, Regex.goal, Regex.toGoal, Regex.repeatedGoal, Goal.ways, Way.upTo, Way.fork]
  have hend : ∀ v : Way, (Regex.look .textEnd).ways v = if v.1.rest = [] then [v] else [] := by
    intro v
    rw [Regex.ways_look]
    cases v.1.rest with
    | nil => rfl
    | cons c rest => rfl
  simp only [Regex.waysOf, hgoal, List.flatMap_append, List.flatMap_map, List.map_append, hend, Spot.readText?_eq]
  rcases hr : w.1.rest with _ | ⟨c, _ | ⟨d, rest⟩⟩
  · simp [hr]
  · by_cases hc : c = '/'
    · subst hc
      simp [hr, Spot.past, Path.separator]
    · have hc' : ¬ '/' = c := fun h => hc h.symm
      simp [hr, hc, hc', Path.separator]
  · by_cases hc : '/' = c
    · simp [hr, Spot.past]
    · simp [hr, hc]

/-- The ways through the expression of parts, from behind the start of the text on, make the marks of the readings. -/
theorem waysOf_treesOf (ps : List Part) (index : Nat) (w : Way) :
    (Regex.waysOf (treesOf index ps ++ [.repeated 0 (some 1) true (.literal ['/']), .look .textEnd]) w).map Prod.snd =
      (readings ps w.1.rest).map (fun bs => marks index w.1.place ps bs w.2) := by
  induction ps generalizing index w with
  | nil =>
    rw [treesOf, List.nil_append, waysOf_closing, readings]
    split
    · rfl
    · rfl
  | cons p ps ih =>
    obtain ⟨⟨prev, place, rest⟩, m⟩ := w
    rw [treesOf, List.cons_append, Regex.waysOf, Regex.ways_literal, Spot.readText?_eq]
    cases rest with
    | nil => simp [readings]
    | cons c rest =>
      by_cases hc : c = Path.separator
      · subst hc
        have hstarts : ['/'] <+: Path.separator :: rest := by simp [Path.separator]
        simp only [if_pos hstarts, Option.toList_some, List.map_cons, List.map_nil, List.flatMap_cons, List.flatMap_nil,
          List.append_nil, readings, if_true, List.append_assoc]
        rw [Regex.waysOf_append, waysOf_items, List.flatMap_map, List.map_flatMap, List.map_flatMap]
        apply List.flatMap_congr
        intro q _
        rw [ih, List.map_map]
        apply List.map_congr_left
        intro bs _
        rfl
      · have hstarts : ¬['/'] <+: c :: rest := by
          simp only [List.cons_prefix_cons, not_and]
          intro h
          exact absurd h.symm hc
        simp [hstarts, readings, hc]

/-- The ways through the expression of parts from the start of the text on make the marks of the readings. -/
theorem ways_treesBetween (ps : List Part) (t : Text) :
    ((Regex.concat (treesBetween ps)).ways (⟨none, 0, t⟩, [])).map Prod.snd =
      (readings ps t).map (fun bs => marks 1 0 ps bs []) := by
  rw [Regex.ways_concat, treesBetween, Regex.waysOf, Regex.ways_look]
  have hstart : Assertion.holds none t.head? .textStart = true := rfl
  rw [if_pos hstart, List.flatMap_singleton]
  exact waysOf_treesOf ps 1 (⟨none, 0, t⟩, [])

/-- From any later place there is no way. -/
theorem ways_treesBetween_of_prev (ps : List Part) (c : Char) (place : Nat) (t : Text) (m : Marks) :
    (Regex.concat (treesBetween ps)).ways (⟨some c, place, t⟩, m) = [] := by
  rw [Regex.ways_concat, treesBetween, Regex.waysOf, Regex.ways_look]
  rfl

/-! ## Marks and groups -/

/-- The marks of groups to the left are left as they are. -/
theorem lookup_marks (ps : List Part) (index place : Nat) (bs : List Text) (m : Marks) (j : Nat) (hj : j < 2 * index) :
    (marks index place ps bs m).lookup j = m.lookup j := by
  induction ps generalizing index place bs m with
  | nil => rfl
  | cons p ps ih =>
    cases bs with
    | nil => rfl
    | cons b bs =>
      rw [marks]
      cases p with
      | text t => exact ih index _ bs m hj
      | run name span =>
        have hleft := ih (index + 1) (place + 1 + b.length) bs (mark index (place + 1) b m (.run name span)) (by omega)
        have h1 : (j == 2 * index + 1) = false := by
          rw [beq_eq_false_iff_ne]
          omega
        have h2 : (j == 2 * index) = false := by
          rw [beq_eq_false_iff_ne]
          omega
        refine hleft.trans ?_
        rw [mark, List.lookup_cons, h1, List.lookup_cons, h2]

/-- The named groups of parts, with their indices. -/
def groupsOf (index : Nat) : List Part → List (Nat × Text)
  | [] => []
  | p :: ps => (p.name?.map (index, ·)).toList ++ groupsOf (p.nextIndex index) ps

theorem map_snd_groupsOf (index : Nat) (ps : List Part) : (groupsOf index ps).map (·.2) = ps.filterMap name? := by
  induction ps generalizing index with
  | nil => rfl
  | cons p ps ih =>
    rw [groupsOf, List.map_append, ih, List.filterMap_cons]
    cases p.name? <;> rfl

theorem groups_treesOf (ps : List Part) (index : Nat) :
    ((treesOf index ps).flatMap Regex.groups).filterMap (fun g => g.2.map (fun name => (g.1, name))) =
      groupsOf index ps := by
  induction ps generalizing index with
  | nil => rfl
  | cons p ps ih =>
    rw [treesOf, List.flatMap_cons, List.flatMap_append, List.filterMap_append, List.filterMap_append, ih, groupsOf]
    cases p with
    | text t =>
      have htext : (((Part.text t).items index).map Item.tree).flatMap Regex.groups = [] := by
        simp [items, Regex.groups, List.flatMap_map]
      rw [htext]
      rfl
    | run name span => cases name <;> rfl

/-- The named groups of the expression of parts. -/
theorem namedGroups_treesBetween (ps : List Part) :
    (Regex.concat (treesBetween ps)).namedGroups = groupsOf 1 ps := by
  have htrees : (treesBetween ps).flatMap Regex.groups = (treesOf 1 ps).flatMap Regex.groups := by
    rw [treesBetween, List.flatMap_cons, List.flatMap_append]
    simp [Regex.groups]
  rw [Regex.namedGroups, Regex.groups_concat, htrees, groups_treesOf]

/-- A stretch is not empty, does not hold the character, and stands before what is left. -/
theorem of_mem_stretches {x : Char} {t : Text} {q : Text × Text} (h : q ∈ stretches x t) :
    (q.1 ≠ [] ∧ x ∉ q.1) ∧ q.1 ++ q.2 = t := by
  induction t generalizing q with
  | nil => cases h
  | cons c rest ih =>
    rw [stretches] at h
    split at h
    · cases h
    · rename_i hc
      rcases List.mem_append.1 h with h | h
      · obtain ⟨q', hq', rfl⟩ := List.mem_map.1 h
        obtain ⟨⟨-, hx⟩, happend⟩ := ih hq'
        exact ⟨⟨List.cons_ne_nil _ _, List.not_mem_cons_of_ne_of_not_mem (Ne.symm hc) hx⟩, congrArg (c :: ·) happend⟩
      · obtain rfl := List.mem_singleton.1 h
        exact ⟨⟨List.cons_ne_nil _ _, List.not_mem_cons_of_ne_of_not_mem (Ne.symm hc) List.not_mem_nil⟩, rfl⟩

/-- A piece that a part can take begins the text, before what is left. -/
theorem append_of_mem_pieces {p : Part} {t : Text} {q : Text × Text} (h : q ∈ p.pieces t) : q.1 ++ q.2 = t := by
  cases p with
  | text u =>
    rw [pieces] at h
    split at h
    · rename_i hu
      obtain rfl := List.mem_singleton.1 h
      exact List.prefix_iff_eq_append.1 hu
    · simp at h
  | run name span => exact (of_mem_stretches h).2

/-- A reading by a part and others: the part takes a piece behind a separator, and the others read what is left. -/
theorem exists_of_mem_readings_cons {p : Part} {ps : List Part} {t : Text} {bs : List Text}
    (h : bs ∈ readings (p :: ps) t) : ∃ rest q bs', t = Path.separator :: rest ∧ q ∈ p.pieces rest ∧
      bs' ∈ readings ps q.2 ∧ bs = q.1 :: bs' := by
  cases t with
  | nil => cases h
  | cons c rest =>
    rw [readings] at h
    split at h
    · rename_i hc
      obtain ⟨q, hq, hbs⟩ := List.mem_flatMap.1 h
      obtain ⟨bs', hbs', rfl⟩ := List.mem_map.1 hbs
      exact ⟨rest, q, bs', by rw [hc], hq, hbs', rfl⟩
    · cases h

/-- The root alone is no reading of parts, unless they are none, or one empty text. -/
theorem readings_separator {ps : List Part} (hne : ps ≠ []) (htext : ps ≠ [.text []]) :
    readings ps [Path.separator] = [] := by
  match ps with
  | [] => exact absurd rfl hne
  | [.text []] => exact absurd rfl htext
  | [.text (c :: t)] => simp [readings, pieces]
  | [.run name span] => rfl
  | p :: q :: ps =>
    rw [readings, if_pos rfl, List.flatMap_eq_nil_iff]
    intro taken htaken
    have hleft : taken.2 = [] := (List.append_eq_nil_iff.1 (append_of_mem_pieces htaken)).2
    rw [hleft]
    rfl

/-- The groups of a reading hold its named pieces. -/
theorem filterMap_groupsOf (ps : List Part) (index place : Nat) (m : Marks) (t : Text) {bs : List Text}
    (h : bs ∈ readings ps (t.drop place)) :
    (groupsOf index ps).filterMap (fun g =>
      ((marks index place ps bs m).groupText? t g.1).map (fun value => (g.2, value))) = named ps bs := by
  induction ps generalizing index place m bs with
  | nil => rfl
  | cons p ps ih =>
    obtain ⟨rest, q, bs', hr, hq, hbs', rfl⟩ := exists_of_mem_readings_cons h
    have hpiece : t.drop (place + 1) = q.1 ++ q.2 := by
      rw [append_of_mem_pieces hq, ← List.drop_drop, hr]
      rfl
    have hleft : t.drop (place + 1 + q.1.length) = q.2 := by
      rw [← List.drop_drop, hpiece, List.drop_left]
    have hrest := ih (p.nextIndex index) (place + 1 + q.1.length) (p.mark index (place + 1) q.1 m) (hleft.symm ▸ hbs')
    rw [groupsOf, named, List.filterMap_append, marks, hrest]
    congr 1
    cases p with
    | text u => rfl
    | run name span =>
      cases name with
      | none => rfl
      | some n =>
        have htext : Marks.groupText? (marks (index + 1) (place + 1 + q.1.length) ps bs'
            ((2 * index + 1, place + 1 + q.1.length) :: (2 * index, place + 1) :: m)) t index = some q.1 := by
          have hne : (2 * index == 2 * index + 1) = false := by
            rw [beq_eq_false_iff_ne]
            omega
          rw [Marks.groupText?, lookup_marks _ _ _ _ _ _ (by omega), lookup_marks _ _ _ _ _ _ (by omega),
            List.lookup_cons, hne, List.lookup_cons_self, List.lookup_cons_self]
          simp only [hpiece, Nat.add_sub_cancel_left, List.take_left]
        simp only [name?, Option.map_some, Option.toList_some, List.filterMap_cons, List.filterMap_nil, nextIndex,
          mark, htext]

/-! ## Matching -/

theorem isPlain_treesBetween (ps : List Part) : ∀ e ∈ treesBetween ps, e.IsPlain := by
  have htrees : ∀ (ps : List Part) (index : Nat), ∀ e ∈ treesOf index ps, e.IsPlain := by
    intro ps
    induction ps with
    | nil => intro index e he; simp [treesOf] at he
    | cons p ps ih =>
      intro index e he
      rw [treesOf, List.mem_cons, List.mem_append] at he
      rcases he with rfl | he | he
      · trivial
      · obtain ⟨item, hi, rfl⟩ := List.mem_map.1 he
        cases p with
        | text t =>
          obtain ⟨c, -, rfl⟩ := List.mem_map.1 hi
          trivial
        | run name span =>
          obtain rfl := List.mem_singleton.1 hi
          cases span <;> exact List.cons_ne_nil _ _
      · exact ih _ e he
  intro e he
  simp only [treesBetween, List.mem_cons, List.mem_append, List.not_mem_nil, or_false] at he
  rcases he with rfl | he | rfl | rfl
  · trivial
  · exact htrees ps 1 e he
  · trivial
  · trivial

/-- The search finds the marks of the first reading of the whole text. -/
theorem search_treesBetween (ps : List Part) (t : Text) : (Regex.concat (treesBetween ps)).goal.search t =
    (readings ps t).head?.map (fun bs => marks 1 0 ps bs []) := by
  have hplain : (Regex.concat (treesBetween ps)).goal.IsPlain :=
    (Regex.isPlain_concat (isPlain_treesBetween ps)).toGoal 0
  rw [Goal.search_of_anchored hplain (fun c place rest => ways_treesBetween_of_prev ps c place rest []),
    ← List.head?_map, ← List.head?_map]
  exact congrArg List.head? (ways_treesBetween ps t)

/-- Matching the expression of parts yields the named pieces of the first reading of the text. -/
theorem params?_treesBetween (source : Text) (ps : List Part) (t : Text) :
    (Expression.ofTree source (Regex.concat (treesBetween ps))).params? t =
      (readings ps t).head?.map (named ps) := by
  rw [Expression.params?, Expression.ofTree]
  simp only [search_treesBetween, namedGroups_treesBetween, Option.map_map]
  cases hr : readings ps t with
  | nil => rfl
  | cons bs rest =>
    have hbs : bs ∈ readings ps (t.drop 0) := by
      rw [List.drop_zero, hr]
      exact List.mem_cons_self ..
    exact congrArg some (filterMap_groupsOf ps 1 0 [] t hbs)

end Part

end PathRouting
