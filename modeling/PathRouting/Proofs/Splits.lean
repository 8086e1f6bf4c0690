import Mathlib.Data.List.Forall2
import PathRouting.Proofs.CanonicalPath
import PathRouting.Proofs.Readings

/-!
# Splitting a path among the segments of a pattern

Matching said on segments: a pattern's segments share out the segments of a path, each taking a block of them. The
definitions come first. Statements: the readings of a canonical path are the joined blocks of its splits, in the same
order; the splits stand from the greatest to the least by the lengths of their blocks; the first is the greedy one.
-/

namespace PathRouting.Segment

open PathRouting.Path (separator)
open Text (joinWith)

/-- A segment of a pattern takes these segments of a path: a text takes itself, a parameter or a wildcard any one
segment, and a glob one or more of which none holds a line feed. -/
def Takes : Segment → List Text → Prop
  | .param _, block => ∃ s, block = [s]
  | .wildcard, block => ∃ s, block = [s]
  | .glob, block => block ≠ [] ∧ ∀ s ∈ block, '\n' ∉ s
  | .literal t, block => block = [t]
  | .unrecognised t, block => block = [t]

/-- The segments of a path in consecutive blocks, each taken by the segment of the pattern that it is for. -/
def IsSplit (pattern : List Segment) (path : List Text) (blocks : List (List Text)) : Prop :=
  List.Forall₂ Takes pattern blocks ∧ blocks.flatten = path

/-- The split in which each segment of the pattern, from left to right, takes as many segments as it can: no split has
blocks of greater lengths in lexicographic order. -/
def IsGreedySplit (pattern : List Segment) (path : List Text) (blocks : List (List Text)) : Prop :=
  IsSplit pattern path blocks ∧
    ∀ others, IsSplit pattern path others → ¬blocks.map List.length < others.map List.length

/-- Each parameter with the segment that its first occurrence takes, in the order of these occurrences. -/
def bindings : List Segment → List (List Text) → Params
  | .param name :: pattern, block :: blocks =>
    (name, block.headD []) :: (bindings pattern blocks).filter (fun e => e.1 ≠ name)
  | _ :: pattern, _ :: blocks => bindings pattern blocks
  | _, _ => []

/-! ## All splits in order -/

/-- The segments without line feeds that a path begins with, one or more, longest first, each with what is left. -/
def lineBlocks : List Text → List (List Text × List Text)
  | [] => []
  | s :: rest =>
    if '\n' ∈ s then [] else (lineBlocks rest).map (fun q => (s :: q.1, q.2)) ++ [([s], rest)]

/-- The first segment of a path, where it is one of those, with what is left. -/
def oneBlock (p : Text → Bool) : List Text → List (List Text × List Text)
  | [] => []
  | s :: rest => if p s then [([s], rest)] else []

/-- The blocks that a segment can take from the start of a path, longest first, each with what is left. -/
def blocks : Segment → List Text → List (List Text × List Text)
  | .param _ => oneBlock (fun _ => true)
  | .wildcard => oneBlock (fun _ => true)
  | .glob => lineBlocks
  | .literal t => oneBlock (· == t)
  | .unrecognised t => oneBlock (· == t)

/-- The splits of a path, those with longer blocks first. -/
def splits : List Segment → List Text → List (List (List Text))
  | [], path => if path = [] then [[]] else []
  | k :: pattern, path => (k.blocks path).flatMap (fun q => (splits pattern q.2).map (q.1 :: ·))

/-- A block of lines is a beginning of the path without line feeds that is not empty. -/
theorem mem_lineBlocks {path : List Text} {q : List Text × List Text} :
    q ∈ lineBlocks path ↔ (q.1 ≠ [] ∧ ∀ s ∈ q.1, '\n' ∉ s) ∧ q.1 ++ q.2 = path := by
  induction path generalizing q with
  | nil =>
    constructor
    · intro h
      simp [lineBlocks] at h
    · rintro ⟨⟨hne, -⟩, happend⟩
      exact absurd (List.append_eq_nil_iff.1 happend).1 hne
  | cons s rest ih =>
    rw [lineBlocks]
    constructor
    · intro h
      split at h
      · simp at h
      · rename_i hs
        rcases List.mem_append.1 h with h | h
        · obtain ⟨q', hq', rfl⟩ := List.mem_map.1 h
          obtain ⟨⟨-, hline⟩, happend⟩ := ih.1 hq'
          refine ⟨⟨List.cons_ne_nil _ _, ?_⟩, by rw [List.cons_append, happend]⟩
          intro t ht
          rcases List.mem_cons.1 ht with rfl | ht
          · exact hs
          · exact hline t ht
        · obtain rfl := List.mem_singleton.1 h
          refine ⟨⟨List.cons_ne_nil _ _, ?_⟩, rfl⟩
          intro t ht
          obtain rfl := List.mem_singleton.1 ht
          exact hs
    · obtain ⟨block, left⟩ := q
      rintro ⟨⟨hne, hline⟩, happend⟩
      cases block with
      | nil => exact absurd rfl hne
      | cons t block =>
        obtain ⟨rfl, hrest⟩ := List.cons.inj happend
        rw [if_neg (hline t (List.mem_cons_self ..)), List.mem_append]
        cases block with
        | nil =>
          right
          rw [List.mem_singleton, ← hrest]
          rfl
        | cons u block =>
          left
          refine List.mem_map.2 ⟨(u :: block, left), ih.2 ⟨⟨List.cons_ne_nil _ _, ?_⟩, hrest⟩, rfl⟩
          exact fun v hv => hline v (List.mem_cons_of_mem _ hv)

/-- A block of one is the first segment of the path, if it is of the kind. -/
theorem mem_oneBlock {p : Text → Bool} {path : List Text} {q : List Text × List Text} :
    q ∈ oneBlock p path ↔ (∃ s, p s = true ∧ q.1 = [s]) ∧ q.1 ++ q.2 = path := by
  obtain ⟨block, left⟩ := q
  cases path with
  | nil =>
    simp only [oneBlock, List.not_mem_nil, false_iff, not_and]
    rintro ⟨s, -, rfl⟩
    exact List.cons_ne_nil s left
  | cons s rest =>
    by_cases hs : p s = true
    · simp only [oneBlock, hs, if_true, List.mem_singleton, Prod.mk.injEq]
      constructor
      · rintro ⟨rfl, rfl⟩
        exact ⟨⟨s, hs, rfl⟩, rfl⟩
      · rintro ⟨⟨t, -, rfl⟩, happend⟩
        obtain ⟨rfl, hrest⟩ := List.cons.inj happend
        exact ⟨rfl, hrest⟩
    · simp only [oneBlock, hs, Bool.false_eq_true, if_false, List.not_mem_nil, false_iff, not_and]
      rintro ⟨t, ht, rfl⟩ happend
      obtain ⟨rfl, -⟩ := List.cons.inj happend
      exact hs ht

/-- A segment can take the blocks it takes. -/
theorem mem_blocks {k : Segment} {path : List Text} {q : List Text × List Text} :
    q ∈ k.blocks path ↔ k.Takes q.1 ∧ q.1 ++ q.2 = path := by
  cases k with
  | glob => exact mem_lineBlocks
  | param name => simp only [blocks, mem_oneBlock, Takes, true_and]
  | wildcard => simp only [blocks, mem_oneBlock, Takes, true_and]
  | literal t => simp only [blocks, mem_oneBlock, Takes, beq_iff_eq, exists_eq_left]
  | unrecognised t => simp only [blocks, mem_oneBlock, Takes, beq_iff_eq, exists_eq_left]

/-- The splits are listed, all of them and nothing else. -/
theorem mem_splits {pattern : List Segment} {path : List Text} {bs : List (List Text)} :
    bs ∈ splits pattern path ↔ IsSplit pattern path bs := by
  induction pattern generalizing path bs with
  | nil =>
    rw [splits, IsSplit, List.forall₂_nil_left_iff]
    by_cases hp : path = []
    · subst hp
      rw [if_pos rfl, List.mem_singleton]
      constructor
      · rintro rfl
        exact ⟨rfl, rfl⟩
      · exact fun h => h.1
    · rw [if_neg hp]
      constructor
      · intro h
        simp at h
      · rintro ⟨rfl, rfl⟩
        exact absurd rfl hp
  | cons k pattern ih =>
    rw [splits, IsSplit, List.mem_flatMap]
    constructor
    · rintro ⟨q, hq, hbs⟩
      obtain ⟨bs, hrest, rfl⟩ := List.mem_map.1 hbs
      obtain ⟨htakes, happend⟩ := mem_blocks.1 hq
      obtain ⟨hall, hflat⟩ := ih.1 hrest
      exact ⟨List.Forall₂.cons htakes hall, by rw [List.flatten_cons, hflat, happend]⟩
    · rintro ⟨hall, hflat⟩
      cases hall with
      | cons htakes hall =>
        rename_i block bs
        refine ⟨(block, bs.flatten), mem_blocks.2 ⟨htakes, hflat⟩, List.mem_map.2 ⟨bs, ?_, rfl⟩⟩
        exact ih.2 ⟨hall, rfl⟩

/-! ## The greedy split -/

/-- Longer blocks of lines come first. -/
theorem pairwise_lineBlocks (path : List Text) :
    (lineBlocks path).Pairwise (fun a b => b.1.length < a.1.length) := by
  induction path with
  | nil => exact List.Pairwise.nil
  | cons s rest ih =>
    rw [lineBlocks]
    split
    · exact List.Pairwise.nil
    · rw [List.pairwise_append]
      refine ⟨?_, List.pairwise_singleton _ _, ?_⟩
      · rw [List.pairwise_map]
        exact ih.imp (fun h => Nat.succ_lt_succ h)
      · intro a ha b hb
        obtain ⟨q, hq, rfl⟩ := List.mem_map.1 ha
        obtain rfl := List.mem_singleton.1 hb
        exact Nat.succ_lt_succ (List.length_pos_of_ne_nil (mem_lineBlocks.1 hq).1.1)

/-- There is one block of one at most. -/
theorem pairwise_oneBlock (p : Text → Bool) (path : List Text) :
    (oneBlock p path).Pairwise (fun a b => b.1.length < a.1.length) := by
  unfold oneBlock
  split
  · exact List.Pairwise.nil
  · split
    · exact List.pairwise_singleton _ _
    · exact List.Pairwise.nil

/-- Longer blocks come first. -/
theorem pairwise_blocks (k : Segment) (path : List Text) :
    (k.blocks path).Pairwise (fun a b => b.1.length < a.1.length) := by
  cases k with
  | glob => exact pairwise_lineBlocks path
  | _ => exact pairwise_oneBlock _ path

/-- The splits stand from the greatest to the least. -/
theorem pairwise_splits (pattern : List Segment) (path : List Text) :
    (splits pattern path).Pairwise (fun a b => b.map List.length < a.map List.length) := by
  induction pattern generalizing path with
  | nil =>
    rw [splits]
    split
    · exact List.pairwise_singleton _ _
    · exact List.Pairwise.nil
  | cons k pattern ih =>
    rw [splits, List.pairwise_flatMap]
    constructor
    · intro q _
      rw [List.pairwise_map]
      exact (ih q.2).imp (fun h => List.cons_lt_cons_iff.2 (Or.inr ⟨rfl, h⟩))
    · refine (pairwise_blocks k path).imp ?_
      intro q q' hlt a ha b hb
      obtain ⟨a', -, rfl⟩ := List.mem_map.1 ha
      obtain ⟨b', -, rfl⟩ := List.mem_map.1 hb
      exact List.cons_lt_cons_iff.2 (Or.inl hlt)

/-- The first split is the greedy one. -/
theorem head?_splits {pattern : List Segment} {path : List Text} {bs : List (List Text)} :
    (splits pattern path).head? = some bs ↔ IsGreedySplit pattern path bs := by
  have hmem : ∀ cs, IsSplit pattern path cs ↔ cs ∈ splits pattern path := fun _ => mem_splits.symm
  have hsorted := pairwise_splits pattern path
  simp only [IsGreedySplit, hmem]
  cases hs : splits pattern path with
  | nil => simp
  | cons first rest =>
    rw [hs, List.pairwise_cons] at hsorted
    rw [List.head?_cons, Option.some_inj]
    constructor
    · rintro rfl
      refine ⟨List.mem_cons_self .., ?_⟩
      intro cs hcs
      rcases List.mem_cons.1 hcs with rfl | hcs
      · exact List.lt_irrefl (cs.map List.length)
      · exact List.lt_asymm (hsorted.1 cs hcs)
    · rintro ⟨hbs, hgreatest⟩
      rcases List.mem_cons.1 hbs with rfl | hbs
      · rfl
      · exact absurd (hsorted.1 bs hbs) (hgreatest first (List.mem_cons_self ..))

/-! ## Readings of a canonical path -/

/-- What follows a piece is boundary-only: nothing is made of a piece behind which the segment goes on. -/
def StopsAtSeparators {β : Type} (f : Text × Text → List β) : Prop :=
  ∀ (piece : Text) (c : Char) (rest : Text), c ≠ separator → f (piece, c :: rest) = []

variable {β : Type} {f : Text × Text → List β}

/-- The stretches of a segment and what follows it: either they go on behind the segment, or they are the segment. -/
theorem flatMap_stretches_append (hf : StopsAtSeparators f) (x : Char) {s : Text} (hne : s ≠ []) (hs : separator ∉ s)
    (tail : Text) : (stretches x (s ++ tail)).flatMap f =
      if x ∈ s then [] else (stretches x tail).flatMap (fun q => f (s ++ q.1, q.2)) ++ f (s, tail) := by
  induction s generalizing f with
  | nil => exact absurd rfl hne
  | cons c s ih =>
    rw [List.cons_append, stretches]
    by_cases hc : c = x
    · simp [hc]
    · have hx : x ∈ c :: s ↔ x ∈ s := by
        rw [List.mem_cons]
        exact or_iff_right (fun h => hc h.symm)
      rw [if_neg hc, List.flatMap_append, List.flatMap_map, List.flatMap_singleton]
      cases s with
      | nil =>
        have hxc : ¬x = c := fun h => hc h.symm
        simp [hxc]
      | cons d s =>
        have hd : d ≠ separator := fun h => hs (by simp [h])
        have hstop : f ([c], d :: s ++ tail) = [] := hf [c] d (s ++ tail) hd
        have hf' : StopsAtSeparators (fun q => f (c :: q.1, q.2)) := fun piece e rest he => hf (c :: piece) e rest he
        rw [hstop, List.append_nil, ih hf' (List.cons_ne_nil d s) (fun h => hs (List.mem_cons_of_mem c h))]
        simp only [hx, List.cons_append]

/-- Behind a separator the next segment begins. -/
theorem flatMap_stretches_separator (hf : StopsAtSeparators f) {x : Char} (hx : x ≠ separator) {c : Char}
    (hc : c ≠ separator) (rest : Text) : (stretches x (separator :: c :: rest)).flatMap f =
      (stretches x (c :: rest)).flatMap (fun q => f (separator :: q.1, q.2)) := by
  have hstop : f ([separator], c :: rest) = [] := hf [separator] c rest hc
  rw [stretches, if_neg (Ne.symm hx), List.flatMap_append, List.flatMap_map, List.flatMap_singleton, hstop,
    List.append_nil]

/-- The characters of some segments, each behind a separator. -/
abbrev pathOf (path : List Text) : Text := path.flatMap (separator :: ·)

/-- The segments of a canonical path. -/
def AreSegments (path : List Text) : Prop := ∀ s ∈ path, s ≠ [] ∧ separator ∉ s

/-- The rest of a path has proper segments. -/
theorem AreSegments.tail {s : Text} {rest : List Text} (h : AreSegments (s :: rest)) : AreSegments rest :=
  fun t ht => h t (List.mem_cons_of_mem s ht)

/-- The stretches of a line that end at separators are the blocks of segments without line feeds. -/
theorem flatMap_stretches_line (hf : StopsAtSeparators f) {s : Text} {rest : List Text}
    (h : AreSegments (s :: rest)) : (stretches '\n' (s ++ pathOf rest)).flatMap f =
      (lineBlocks (s :: rest)).flatMap (fun q => f (joinWith separator q.1, pathOf q.2)) := by
  induction rest generalizing s f with
  | nil =>
    obtain ⟨hne, hs⟩ := h s (List.mem_cons_self ..)
    rw [flatMap_stretches_append hf '\n' hne hs, lineBlocks]
    split
    · rfl
    · simp [stretches, lineBlocks, Text.joinWith_singleton]
  | cons t rest ih =>
    obtain ⟨hne, hs⟩ := h s (List.mem_cons_self ..)
    rw [flatMap_stretches_append hf '\n' hne hs, lineBlocks]
    split
    · rfl
    · rw [List.flatMap_append, List.flatMap_singleton, Text.joinWith_singleton, List.flatMap_map]
      congr 1
      obtain ⟨c, u, hcu⟩ := List.exists_cons_of_ne_nil (h t (by simp)).1
      have hc : c ≠ separator := fun hc => (h t (by simp)).2 (by simp [hcu, hc])
      have hf' : StopsAtSeparators (fun q => f (s ++ q.1, q.2)) := fun piece d r hd => hf (s ++ piece) d r hd
      have hf'' : StopsAtSeparators (fun q => f (s ++ separator :: q.1, q.2)) :=
        fun piece d r hd => hf (s ++ separator :: piece) d r hd
      have hpath : pathOf (t :: rest) = separator :: c :: (u ++ pathOf rest) := by
        rw [pathOf, List.flatMap_cons, hcu]
        rfl
      have htail : c :: (u ++ pathOf rest) = t ++ pathOf rest := by
        rw [hcu, List.cons_append]
      rw [hpath, flatMap_stretches_separator hf' (by decide) hc, htail, ih hf'' h.tail]
      apply List.flatMap_congr
      intro q hq
      obtain ⟨v, vs, hv⟩ := List.exists_cons_of_ne_nil (mem_lineBlocks.1 hq).1.1
      rw [hv, Text.joinWith_cons_cons]

/-- The stretches of a segment that end at a separator are the segment. -/
theorem flatMap_stretches_segment (hf : StopsAtSeparators f) {s : Text} {rest : List Text}
    (h : AreSegments (s :: rest)) : (stretches separator (s ++ pathOf rest)).flatMap f = f (s, pathOf rest) := by
  obtain ⟨hne, hs⟩ := h s (List.mem_cons_self ..)
  have hstop : stretches separator (pathOf rest) = [] := by
    cases rest with
    | nil => rfl
    | cons t rest => simp [pathOf, stretches]
  rw [flatMap_stretches_append hf separator hne hs, if_neg hs, hstop, List.flatMap_nil, List.nil_append]

/-- A text that ends at a separator is the segment that it begins. -/
theorem flatMap_pieces_text (hf : StopsAtSeparators f) {t s : Text} (ht : separator ∉ t) {rest : List Text}
    (h : AreSegments (s :: rest)) : ((Part.text t).pieces (s ++ pathOf rest)).flatMap f =
      if s = t then f (s, pathOf rest) else [] := by
  obtain ⟨hne, hs⟩ := h s (List.mem_cons_self ..)
  rw [Part.pieces]
  by_cases hst : s = t
  · subst hst
    rw [if_pos (List.prefix_append s _), if_pos rfl, List.flatMap_singleton, List.drop_left]
  · rw [if_neg hst]
    split
    · rename_i hstarts
      rw [List.flatMap_singleton]
      rcases List.prefix_or_prefix_of_prefix hstarts (List.prefix_append s _) with hts | hst'
      · obtain ⟨left, rfl⟩ := hts
        rw [List.append_assoc, List.drop_left]
        cases left with
        | nil => exact absurd (List.append_nil t) hst
        | cons c left => exact hf t c _ (fun hc => hs (by simp [hc]))
      · obtain ⟨left, rfl⟩ := hst'
        rw [List.prefix_append_right_inj] at hstarts
        cases left with
        | nil => exact absurd (List.append_nil s).symm hst
        | cons c left =>
          cases rest with
          | nil => simp [pathOf] at hstarts
          | cons u rest =>
            have hc : c = separator := by
              simp only [pathOf, List.flatMap_cons, List.cons_append, List.cons_prefix_cons] at hstarts
              exact hstarts.1
            exact absurd (by simp [hc]) ht
    · rfl

/-- The pieces that a part takes from a canonical path are the joined blocks that its segment takes. -/
theorem flatMap_pieces (hf : StopsAtSeparators f) {k : Segment} (hk : k.IsSound) (seen : Std.TreeSet Text) {s : Text}
    {rest : List Text} (h : AreSegments (s :: rest)) : ((k.part seen).pieces (s ++ pathOf rest)).flatMap f =
      (k.blocks (s :: rest)).flatMap (fun q => f (joinWith separator q.1, pathOf q.2)) := by
  cases k with
  | param name =>
    refine (flatMap_stretches_segment hf h).trans ?_
    rw [blocks, oneBlock, if_pos rfl, List.flatMap_singleton, Text.joinWith_singleton]
  | wildcard =>
    refine (flatMap_stretches_segment hf h).trans ?_
    rw [blocks, oneBlock, if_pos rfl, List.flatMap_singleton, Text.joinWith_singleton]
  | glob => exact flatMap_stretches_line hf h
  | literal t =>
    refine (flatMap_pieces_text hf (separator_not_mem hk) h).trans ?_
    rw [blocks, oneBlock]
    by_cases hst : s = t
    · simp [hst, Text.joinWith_singleton]
    · simp [hst]
  | unrecognised t =>
    refine (flatMap_pieces_text hf hk h).trans ?_
    rw [blocks, oneBlock]
    by_cases hst : s = t
    · simp [hst, Text.joinWith_singleton]
    · simp [hst]

/-- There is no reading behind the start of a segment. -/
theorem stopsAtSeparators_readings (ps : List Part) :
    StopsAtSeparators (fun q => (Part.readings ps q.2).map (q.1 :: ·)) := by
  intro piece c rest hc
  cases ps with
  | nil => simp [Part.readings, hc]
  | cons p ps => simp [Part.readings, hc]

/-- What a block leaves of a path has proper segments. -/
theorem AreSegments.of_mem_blocks {k : Segment} {path : List Text} (h : AreSegments path)
    {q : List Text × List Text} (hq : q ∈ k.blocks path) : AreSegments q.2 := by
  intro s hs
  apply h s
  rw [← (mem_blocks.1 hq).2]
  exact List.mem_append_right _ hs

/-- The readings of a canonical path are the joined blocks of its splits, in the same order. -/
theorem readings_pathOf {pattern : List Segment} (hsound : ∀ k ∈ pattern, k.IsSound) (seen : Std.TreeSet Text)
    {path : List Text} (h : AreSegments path) : Part.readings (parts seen pattern) (pathOf path) =
      (splits pattern path).map (fun bs => bs.map (joinWith separator)) := by
  induction pattern generalizing seen path with
  | nil =>
    cases path with
    | nil => rfl
    | cons s rest =>
      obtain ⟨c, u, hcu⟩ := List.exists_cons_of_ne_nil (h s (List.mem_cons_self ..)).1
      simp [parts, Part.readings, splits, pathOf, hcu]
  | cons k pattern ih =>
    have hrest : ∀ k ∈ pattern, k.IsSound := fun k hk => hsound k (List.mem_cons_of_mem _ hk)
    cases path with
    | nil =>
      have hnone : k.blocks [] = [] := by
        rw [List.eq_nil_iff_forall_not_mem]
        intro q hq
        obtain ⟨htakes, happend⟩ := mem_blocks.1 hq
        rw [List.append_eq_nil_iff] at happend
        rw [happend.1] at htakes
        cases k <;> simp [Takes] at htakes
      rw [splits, hnone]
      rfl
    | cons s rest =>
      have hread : Part.readings (parts seen (k :: pattern)) (pathOf (s :: rest)) =
          ((k.part seen).pieces (s ++ pathOf rest)).flatMap
            (fun q => (Part.readings (parts (k.declare seen) pattern) q.2).map (q.1 :: ·)) := by
        rw [parts, pathOf, List.flatMap_cons, List.cons_append, Part.readings, if_pos rfl]
      rw [hread, flatMap_pieces (stopsAtSeparators_readings _) (hsound k (List.mem_cons_self ..)) seen h, splits,
        List.map_flatMap]
      apply List.flatMap_congr
      intro q hq
      rw [ih hrest (k.declare seen) (h.of_mem_blocks hq), List.map_map, List.map_map]
      rfl

/-! ## Bindings -/

/-- The named pieces of a split are the bindings of the parameters that were not seen before. -/
theorem named_parts {pattern : List Segment} {bs : List (List Text)} (h : List.Forall₂ Takes pattern bs)
    (seen : Std.TreeSet Text) : Part.named (parts seen pattern) (bs.map (joinWith separator)) =
      (bindings pattern bs).filter (fun e => !seen.contains e.1) := by
  induction h generalizing seen with
  | nil => rfl
  | @cons k block pattern bs htakes _ ih =>
    rw [parts, List.map_cons, Part.named, ih]
    cases k with
    | param name =>
      obtain ⟨s, rfl⟩ := htakes
      have hrest : ∀ e : Text × Text, (!(seen.insert name).contains e.1) = (decide (e.1 ≠ name) && !seen.contains e.1) := by
        intro e
        have hcompare : (compare name e.1 == .eq) = decide (e.1 = name) := by
          rw [Bool.eq_iff_iff, beq_iff_eq, decide_eq_true_iff, Std.LawfulEqCmp.compare_eq_iff_eq]
          exact eq_comm
        rw [Std.TreeSet.contains_insert, Bool.not_or, hcompare, decide_not]
      have hfilter : (bindings pattern bs).filter (fun e => !(seen.insert name).contains e.1) =
          ((bindings pattern bs).filter (fun e => decide (e.1 ≠ name))).filter (fun e => !seen.contains e.1) := by
        rw [List.filter_filter]
        apply List.filter_congr
        intro e _
        rw [hrest, Bool.and_comm]
      rw [bindings, declare, hfilter, List.filter_cons, Text.joinWith_singleton]
      cases hc : seen.contains name with
      | true => simp [Segment.part, Part.name?, hc]
      | false => simp [Segment.part, Part.name?, hc]
    | wildcard => rfl
    | glob => rfl
    | literal t => rfl
    | unrecognised t => rfl

end PathRouting.Segment
