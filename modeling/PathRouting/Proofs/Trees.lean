import PathRouting.Proofs.Tokens

/-!
# The tree of a pattern's expression

What the pass over the tokens of parts puts together. Each part adds its items to the level that is read, and leaves the
levels around it alone. The main statement gives the tree that the expression for some segments is read as.
-/

namespace PathRouting

@[simp] theorem Regex.ofSet_single (c : Char) : ofSet (.single c) = .literal [c] := by
  simp [ofSet, CharSet.single]

theorem Span.ofSet_set (r : Span) : Regex.ofSet r.set = .chars r.set := by
  cases r <;> rfl

namespace Part

/-- The tree of a group around characters of a span. -/
def runTree (index : Nat) (name : Option Text) (span : Span) : Regex :=
  .group index name (.repeated 1 none true (.chars span.set))

/-- The items of a part, in order, with the index of the next group. -/
def items (index : Nat) : Part → List Item
  | .text t => t.map (fun c => ⟨.literal [c], 0, false⟩)
  | .run name span => [⟨runTree index name span, span.depth + 2, false⟩]

/-- The index of the next group behind a part. -/
def nextIndex (index : Nat) : Part → Nat
  | .text _ => index
  | .run _ _ => index + 1

/-- The names given behind a part. -/
def declare (names : Std.TreeSet Text) (p : Part) : Std.TreeSet Text :=
  match p.name? with
  | some name => names.insert name
  | none => names

/-- The items of parts, with a separator before each. -/
def itemsOf (index : Nat) : List Part → List Item
  | [] => []
  | p :: ps => ⟨.literal ['/'], 0, false⟩ :: (p.items index ++ itemsOf (p.nextIndex index) ps)

/-- The trees of the items. -/
def treesOf (index : Nat) : List Part → List Regex
  | [] => []
  | p :: ps => .literal ['/'] :: ((p.items index).map Item.tree ++ treesOf (p.nextIndex index) ps)

theorem map_tree_itemsOf (index : Nat) (ps : List Part) : (itemsOf index ps).map Item.tree = treesOf index ps := by
  induction ps generalizing index with
  | nil => rfl
  | cons p ps ih => rw [itemsOf, treesOf, List.map_cons, List.map_append, ih]

/-- The items nest three brackets at most and are no directives. -/
theorem mem_items {index : Nat} {p : Part} {item : Item} (h : item ∈ p.items index) :
    item.depth ≤ 3 ∧ item.isDirective = false := by
  cases p with
  | text t =>
    obtain ⟨c, -, rfl⟩ := List.mem_map.1 h
    exact ⟨Nat.zero_le _, rfl⟩
  | run name span =>
    obtain rfl := List.mem_singleton.1 h
    refine ⟨?_, rfl⟩
    cases span with
    | segment => exact Nat.le_refl 3
    | line => exact Nat.le_succ 2

theorem mem_itemsOf {index : Nat} {ps : List Part} {item : Item} (h : item ∈ itemsOf index ps) :
    item.depth ≤ 3 ∧ item.isDirective = false := by
  induction ps generalizing index with
  | nil => simp [itemsOf] at h
  | cons p ps ih =>
    rw [itemsOf, List.mem_cons, List.mem_append] at h
    rcases h with rfl | h | h
    · exact ⟨Nat.zero_le _, rfl⟩
    · exact mem_items h
    · exact ih h

end Part

namespace Assembly

/-- One level is read, and nothing waits. -/
def level (items : List Item) (nextIndex : Nat) (names : Std.TreeSet Text) : Assembly :=
  ⟨[], ⟨[], items⟩, nextIndex, names⟩

variable {items : List Item} {nextIndex : Nat} {names : Std.TreeSet Text}

/-- The characters of a text are items one after the other. -/
theorem foldlM_text (t : Text) :
    (t.map (fun c => Token.chars (.single c) 0)).foldlM step (level items nextIndex names) =
      .ok (level ((t.map (fun c => (⟨.literal [c], 0, false⟩ : Item))).reverse ++ items) nextIndex names) := by
  induction t generalizing items with
  | nil => rfl
  | cons c t ih =>
    have hstep : step (level items nextIndex names) (.chars (.single c) 0) =
        .ok (level (⟨.literal [c], 0, false⟩ :: items) nextIndex names) := by
      simp [step, push, level]
    rw [List.map_cons, List.foldlM_cons, hstep]
    refine Eq.trans ih ?_
    rw [List.map_cons, List.reverse_cons, List.append_assoc, List.singleton_append]

/-- A group around characters of a span is one item. -/
theorem foldlM_run {name : Option Text} (hname : ∀ n ∈ name, names.contains n = false) (span : Span) :
    (Part.run name span).tokens.foldlM step (level items nextIndex names) =
      .ok (level (⟨Part.runTree nextIndex name span, span.depth + 2, false⟩ :: items) (nextIndex + 1)
        ((Part.run name span).declare names)) := by
  have hopen : step (level items nextIndex names) (.openCapture name) =
      .ok ⟨[(.capture nextIndex name, ⟨[], items⟩)], ⟨[], []⟩, nextIndex + 1, (Part.run name span).declare names⟩ := by
    cases name with
    | none => rfl
    | some n =>
      rw [step, level, hname n rfl]
      rfl
  rw [Part.tokens, List.foldlM_cons, hopen]
  simp only [bind, Except.bind, List.foldlM_cons, List.foldlM_nil, pure, Except.pure, step, push, Span.ofSet_set,
    Bool.false_eq_true, if_false, Regex.repetition, Regex.isZeroWidth, Nesting.content, Item.sequence, Opener.wrap,
    level, Part.runTree, reduceCtorEq, and_false]

/-- A part adds its items. -/
theorem foldlM_part {p : Part} (hname : ∀ n ∈ p.name?, names.contains n = false) :
    p.tokens.foldlM step (level items nextIndex names) =
      .ok (level ((p.items nextIndex).reverse ++ items) (p.nextIndex nextIndex) (p.declare names)) := by
  cases p with
  | text t => exact foldlM_text t
  | run name span => exact foldlM_run hname span

/-- The names behind a part are its own and those before it. -/
theorem contains_declare {p : Part} {n : Text} (h : names.contains n = false) (hp : p.name? ≠ some n) :
    (p.declare names).contains n = false := by
  unfold Part.declare
  cases hn : p.name? with
  | none => exact h
  | some m =>
    rw [hn] at hp
    simp only [Std.TreeSet.contains_insert, h, Bool.or_false]
    rw [beq_eq_false_iff_ne, Ne, Std.LawfulEqCmp.compare_eq_iff_eq]
    intro hm
    exact hp (congrArg some hm)

/-- Parts whose names are new and apart add their items. -/
theorem foldlM_parts (ps : List Part) (items : List Item) (nextIndex : Nat) (names : Std.TreeSet Text)
    (hnodup : (ps.filterMap Part.name?).Nodup)
    (hnew : ∀ n ∈ ps.filterMap Part.name?, names.contains n = false) :
    ∃ nextIndex' names', (Part.tokensOf ps).foldlM step (level items nextIndex names) =
      .ok (level ((Part.itemsOf nextIndex ps).reverse ++ items) nextIndex' names') := by
  induction ps generalizing items nextIndex names with
  | nil => exact ⟨nextIndex, names, rfl⟩
  | cons p ps ih =>
    have hp : ∀ n ∈ p.name?, names.contains n = false := fun n hn =>
      hnew n (List.mem_filterMap.2 ⟨p, List.mem_cons_self .., hn⟩)
    have hps : ∀ n ∈ ps.filterMap Part.name?, (p.declare names).contains n = false := by
      intro n hn
      refine contains_declare (hnew n ?_) ?_
      · obtain ⟨q, hq, hqn⟩ := List.mem_filterMap.1 hn
        exact List.mem_filterMap.2 ⟨q, List.mem_cons_of_mem _ hq, hqn⟩
      · intro hpn
        rw [List.filterMap_cons, hpn, List.nodup_cons] at hnodup
        exact hnodup.1 hn
    have hnodup' : (ps.filterMap Part.name?).Nodup :=
      hnodup.sublist ((List.sublist_cons_self p ps).filterMap _)
    obtain ⟨index', names', hfold⟩ := ih ((p.items nextIndex).reverse ++ ⟨.literal ['/'], 0, false⟩ :: items)
      (p.nextIndex nextIndex) (p.declare names) hnodup' hps
    refine ⟨index', names', ?_⟩
    have hsep : step (level items nextIndex names) (.chars (.single '/') 0) =
        .ok (level (⟨.literal ['/'], 0, false⟩ :: items) nextIndex names) := by
      simp [step, push, level]
    rw [Part.tokensOf, List.foldlM_cons, hsep]
    change List.foldlM step (level (⟨.literal ['/'], 0, false⟩ :: items) nextIndex names) _ = _
    rw [List.foldlM_append, foldlM_part hp]
    refine Eq.trans hfold ?_
    rw [Part.itemsOf, List.reverse_cons, List.reverse_append]
    simp only [List.append_assoc, List.singleton_append]

end Assembly

/-- The trees of the expression for parts: the start of the text, the parts, and a separator or none before the end. -/
def Part.treesBetween (ps : List Part) : List Regex :=
  .look .textStart :: (treesOf 1 ps ++ [.repeated 0 (some 1) true (.literal ['/']), .look .textEnd])

/-- The depth of some items is at most that of the deepest. -/
theorem Item.maxDepth_le {items : List Item} {d : Nat} (h : ∀ item ∈ items, item.depth ≤ d) : maxDepth items ≤ d := by
  have hfold : ∀ (items : List Item) (n : Nat), n ≤ d → (∀ item ∈ items, item.depth ≤ d) →
      items.foldl (fun d item => max d item.depth) n ≤ d := by
    intro items
    induction items with
    | nil => exact fun n hn _ => hn
    | cons item items ih =>
      intro n hn h
      exact ih _ (Nat.max_le.2 ⟨hn, h item (List.mem_cons_self ..)⟩) (fun i hi => h i (List.mem_cons_of_mem _ hi))
  exact hfold items 0 (Nat.zero_le _) h

/-- The expression for some segments is read as the sequence of their trees. -/
theorem Segment.parse_expressionSource {segments : List Segment} (hne : segments ≠ [])
    (h : ∀ s ∈ segments, s.IsSound) :
    Regex.parse (expressionSource segments) = .ok (Regex.concat (Part.treesBetween (parts ∅ segments))) := by
  obtain ⟨index, names, hfold⟩ := Assembly.foldlM_parts (parts ∅ segments) [⟨.look .textStart, 0, false⟩] 1 ∅
    (nodup_names segments ∅) (fun n _ => by simp)
  have hend : ∀ items, [Token.chars (.single '/') 0, .repeated 0 (some 1) true, .look .textEnd].foldlM Assembly.step
      (Assembly.level items index names) = .ok (Assembly.level (⟨.look .textEnd, 0, false⟩ ::
        ⟨.repeated 0 (some 1) true (.literal ['/']), 1, false⟩ :: items) index names) := by
    intro items
    simp [Assembly.step, Assembly.level, Assembly.push, Regex.repetition, Regex.isZeroWidth, bind, Except.bind]
    rfl
  let items : List Item := ⟨.look .textEnd, 0, false⟩ :: ⟨.repeated 0 (some 1) true (.literal ['/']), 1, false⟩ ::
    ((Part.itemsOf 1 (parts ∅ segments)).reverse ++ [⟨.look .textStart, 0, false⟩])
  have htokens : (Token.look .textStart :: (Part.tokensOf (parts ∅ segments) ++
      [.chars (.single '/') 0, .repeated 0 (some 1) true, .look .textEnd])).foldlM Assembly.step Assembly.start =
      .ok (Assembly.level items index names) := by
    rw [List.foldlM_cons]
    change List.foldlM Assembly.step (Assembly.level [⟨.look .textStart, 0, false⟩] 1 ∅) _ = _
    rw [List.foldlM_append, hfold]
    exact hend _
  have hitems : ∀ item ∈ items, item.depth ≤ 3 ∧ item.isDirective = false := by
    intro item hi
    simp only [items, List.mem_cons, List.mem_append, List.mem_reverse, List.not_mem_nil, or_false] at hi
    rcases hi with rfl | rfl | hi | rfl
    · decide
    · decide
    · exact Part.mem_itemsOf hi
    · decide
  have hcontent : (⟨[], items⟩ : Nesting).content =
      ⟨.concat (Part.treesBetween (parts ∅ segments)), Item.maxDepth items + 1, false⟩ := by
    have hfilter : items.filter (fun item => !item.isDirective) = items := by
      rw [List.filter_eq_self]
      intro item hi
      rw [(hitems item hi).2]
      rfl
    have hseq : Item.sequence items = ⟨.concat ((items.filter (fun item => !item.isDirective)).reverse.map Item.tree),
        Item.maxDepth items + 1, false⟩ := rfl
    rw [Nesting.content, hseq, hfilter]
    have htrees : items.reverse.map Item.tree = Part.treesBetween (parts ∅ segments) := by
      simp [items, Part.treesBetween, Part.map_tree_itemsOf]
    rw [htrees]
  rw [Regex.parse, ofText_expressionSource hne h]
  change Regex.ofTokens _ = _
  rw [Regex.ofTokens, htokens]
  change Assembly.finish (Assembly.level items index names) = _
  rw [Assembly.finish, Assembly.level, hcontent]
  have hdepth : Item.maxDepth items ≤ 3 := Item.maxDepth_le (fun item hi => (hitems item hi).1)
  have hlimit : Item.maxDepth items + 1 ≤ depthLimit := by
    rw [depthLimit]
    omega
  exact if_pos hlimit

/-- The engine takes the expression for some segments unless its automaton is too large. -/
theorem Segment.ofSource_expressionSource {segments : List Segment} (hne : segments ≠ [])
    (h : ∀ s ∈ segments, s.IsSound) : Expression.ofSource (expressionSource segments) =
      if (Regex.concat (Part.treesBetween (parts ∅ segments))).fits then
        .ok (Expression.ofTree (expressionSource segments) (Regex.concat (Part.treesBetween (parts ∅ segments))))
      else .error .tooLarge := by
  rw [Expression.ofSource, parse_expressionSource hne h]
  rfl

end PathRouting
