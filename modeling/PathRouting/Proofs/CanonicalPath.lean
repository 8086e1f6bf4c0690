import PathRouting.Path
import PathRouting.Proofs.Pieces

/-!
# Canonical paths

A canonical path is a separator before its segments, joined by separators, each of them non-empty, and does not end in
white space. Statements about `normalize`: what it yields is canonical, and it changes nothing else; and it acts on what is
around a part of a path without touching the part.
-/

namespace PathRouting

namespace Path

open Text (splitAt joinWith trim trimEndBy)

/-! ## Separators side by side -/

/-- A piece without separators in front changes nothing. -/
theorem hasDoubleSeparator_append {p : Text} (h : separator ∉ p) (t : Text) :
    hasDoubleSeparator (p ++ t) = hasDoubleSeparator t := by
  induction p with
  | nil => rfl
  | cons c p ih =>
    have hc : c ≠ separator := fun e => h (by simp [e])
    have ih' := ih (fun hm => h (by simp [hm]))
    cases hpt : p ++ t with
    | nil =>
      rw [hpt] at ih'
      rw [List.cons_append, hpt, ← ih']
      rfl
    | cons d r =>
      rw [hpt] at ih'
      rw [List.cons_append, hpt, ← ih']
      simp [hasDoubleSeparator, hc]

/-- Separators before pieces that are not empty never stand side by side. -/
theorem hasDoubleSeparator_flatMap {ps : List Text} (h : ∀ p ∈ ps, p ≠ [] ∧ separator ∉ p) :
    hasDoubleSeparator (ps.flatMap (separator :: ·)) = false := by
  induction ps with
  | nil => rfl
  | cons p ps ih =>
    obtain ⟨hne, hsep⟩ := h p (by simp)
    have hrest := ih (fun q hq => h q (List.mem_cons_of_mem p hq))
    rw [← hasDoubleSeparator_append hsep] at hrest
    cases p with
    | nil => exact absurd rfl hne
    | cons c p =>
      have hc : c ≠ separator := fun e => hsep (by simp [e])
      simpa [hasDoubleSeparator, hc] using hrest

/-- A text that starts a text without separators side by side has none. -/
theorem hasDoubleSeparator_of_isPrefix {a b : Text} (h : a <+: b) (hb : hasDoubleSeparator b = false) :
    hasDoubleSeparator a = false := by
  obtain ⟨t, rfl⟩ := h
  induction a with
  | nil => rfl
  | cons c a ih =>
    cases a with
    | nil => rfl
    | cons d a =>
      simp only [List.cons_append, hasDoubleSeparator, Bool.or_eq_false_iff] at hb ⊢
      exact ⟨hb.1, ih hb.2⟩

/-- Where no separators stand side by side and none stands at the end, no piece but the first is empty: behind a separator the
next piece starts with the next character. -/
theorem ne_nil_of_mem_tail_splitAt {t : Text} (hd : hasDoubleSeparator t = false) (hl : t.getLast? ≠ some separator) :
    ∀ p ∈ (splitAt separator t).tail, p ≠ [] := by
  induction t with
  | nil => simp [Text.splitAt_nil]
  | cons c t ih =>
    have hd' : hasDoubleSeparator t = false := by
      cases t with
      | nil => rfl
      | cons d t =>
        simp only [hasDoubleSeparator, Bool.or_eq_false_iff] at hd
        exact hd.2
    have hl' : t.getLast? ≠ some separator := by
      cases t with
      | nil => simp
      | cons d t => simpa using hl
    by_cases hc : c = separator
    · subst hc
      rw [Text.splitAt_cons_self, List.tail_cons]
      cases t with
      | nil => simp at hl
      | cons d t =>
        have hne : d ≠ separator := by
          intro e
          simp [hasDoubleSeparator, e] at hd
        obtain ⟨p, ps, _, h2⟩ := Text.splitAt_cons_of_ne hne t
        intro q hq
        rw [h2, List.mem_cons] at hq
        rcases hq with rfl | hq
        · simp
        · exact ih hd' hl' q (by rw [h2]; exact hq)
    · obtain ⟨p, ps, h1, h2⟩ := Text.splitAt_cons_of_ne hc t
      rw [h2]
      rw [h1] at ih
      exact ih hd' hl'

/-! ## Segments -/

theorem mem_segments {path s : Text} (h : s ∈ segments path) : s ≠ [] ∧ separator ∉ s := by
  rw [segments, List.mem_filter] at h
  refine ⟨fun e => ?_, Text.not_mem_of_mem_splitAt h.1⟩
  rw [e] at h
  simp at h

/-- A path that starts with a separator, repeats none and ends in none unless it is the root is a separator before its
segments. -/
theorem eq_join_segments {t : Text} (hd : hasDoubleSeparator (separator :: t) = false)
    (hl : t.getLast? ≠ some separator) : separator :: t = separator :: joinWith separator (segments (separator :: t)) := by
  cases t with
  | nil => rfl
  | cons c t =>
    have htail := ne_nil_of_mem_tail_splitAt hd (by simpa using hl)
    rw [Text.splitAt_cons_self, List.tail_cons] at htail
    have hseg : segments (separator :: c :: t) = splitAt separator (c :: t) := by
      rw [segments, Text.splitAt_cons_self, List.filter_cons_of_neg (by simp), List.filter_eq_self]
      intro p hp
      simp [htail p hp]
    rw [hseg, Text.joinWith_splitAt]

/-! ## Canonical form -/

/-- White space at the end apart, a path that starts with a separator is trimmed. -/
theorem trim_cons_eq_self_iff {t : Text} :
    trim (separator :: t) = separator :: t ↔ ∀ c, t.getLast? = some c → isBlank c = false := by
  have hstart : Text.trimStartBy isBlank (separator :: t) = separator :: t := rfl
  rw [trim, hstart]
  constructor
  · intro htrim c hc
    have hlast : (separator :: t).getLast? = some c := by rw [List.getLast?_cons, hc, Option.getD_some]
    rw [← htrim] at hlast
    exact Text.getLast?_trimEndBy hlast
  · intro h
    refine Text.trimEndBy_eq_self (fun c hc => ?_)
    rw [List.getLast?_cons, Option.some.injEq] at hc
    cases ht : t.getLast? with
    | none =>
      rw [ht, Option.getD_none] at hc
      subst hc
      rfl
    | some d =>
      rw [ht, Option.getD_some] at hc
      exact h c (by rw [ht, hc])

/-- A path that starts with a separator is canonical if no separators stand side by side in it, and what follows ends in
neither a separator nor white space. -/
theorem isCanonical_cons_iff {t : Text} : isCanonical (separator :: t) = true ↔
    hasDoubleSeparator (separator :: t) = false ∧ ∀ c, t.getLast? = some c → c ≠ separator ∧ isBlank c = false := by
  have hlast : separator :: t = root ∨ (separator :: t).getLast? ≠ some separator ↔
      ∀ c, t.getLast? = some c → c ≠ separator := by
    rw [root, List.getLast?_cons]
    cases ht : t.getLast? with
    | none => simp [List.getLast?_eq_none_iff.1 ht]
    | some d =>
      have hne : t ≠ [] := by
        rintro rfl
        cases ht
      simp [hne]
  simp only [isCanonical, List.head?_cons, BEq.rfl, Bool.true_and, Bool.and_eq_true, Bool.or_eq_true, bne_iff_ne,
    beq_iff_eq, Bool.not_eq_true', trim_cons_eq_self_iff, hlast]
  constructor
  · rintro ⟨⟨hblank, hdouble⟩, hsep⟩
    exact ⟨hdouble, fun c hc => ⟨hsep c hc, hblank c hc⟩⟩
  · rintro ⟨hdouble, hend⟩
    exact ⟨⟨fun c hc => (hend c hc).2, hdouble⟩, fun c hc => (hend c hc).1⟩

theorem exists_cons_of_isCanonical {path : Text} (h : isCanonical path = true) : ∃ t, path = separator :: t := by
  simp only [isCanonical, Bool.and_eq_true, beq_iff_eq] at h
  exact List.head?_eq_some_iff.1 h.1.1.1

/-- A canonical path is a separator before its segments. -/
theorem eq_join_of_isCanonical {path : Text} (h : isCanonical path = true) :
    path = separator :: joinWith separator (segments path) := by
  obtain ⟨t, rfl⟩ := exists_cons_of_isCanonical h
  obtain ⟨hdouble, hend⟩ := isCanonical_cons_iff.1 h
  exact eq_join_segments hdouble (fun hlast => (hend _ hlast).1 rfl)

/-- Texts that may be segments, joined behind a separator, are a canonical path if they do not end in white space. -/
theorem isCanonical_joinWith {ps : List Text} (hne : ps ≠ []) (h : ∀ p ∈ ps, p ≠ [] ∧ separator ∉ p)
    (hend : ∀ p, ps.getLast? = some p → ∀ c, p.getLast? = some c → isBlank c = false) :
    isCanonical (separator :: joinWith separator ps) = true := by
  refine isCanonical_cons_iff.2 ⟨?_, fun c hc => ?_⟩
  · rw [Text.cons_joinWith hne]
    exact hasDoubleSeparator_flatMap h
  · rcases List.eq_nil_or_concat ps with rfl | ⟨start, last, rfl⟩
    · exact absurd rfl hne
    · rw [List.concat_eq_append] at h hend hc
      have hlast := h last (List.mem_append_right _ (List.mem_singleton_self last))
      rw [Text.getLast?_joinWith separator start hlast.1] at hc
      refine ⟨?_, hend last List.getLast?_concat c hc⟩
      rintro rfl
      exact hlast.2 (List.mem_of_getLast? hc)

/-- They are the segments of that path. -/
theorem segments_joinWith {ps : List Text} (h : ∀ p ∈ ps, p ≠ [] ∧ separator ∉ p) :
    segments (separator :: joinWith separator ps) = ps := by
  rw [segments, Text.splitAt_cons_self, List.filter_cons_of_neg (by simp)]
  by_cases hne : ps = []
  · rw [hne]
    rfl
  · rw [Text.splitAt_joinWith hne (fun p hp => (h p hp).2), List.filter_eq_self]
    intro p hp
    simp [(h p hp).1]

/-! ## Normalisation -/

/-- What is left of a path is a prefix of its segments joined. -/
theorem hasDoubleSeparator_stripped (path : Text) : hasDoubleSeparator (separator :: stripped path) = false := by
  have hsegs : ∀ s ∈ segments (trim path), s ≠ [] ∧ separator ∉ s := fun s hs => mem_segments hs
  have hpre : separator :: stripped path <+: separator :: joinWith separator (segments (trim path)) :=
    List.cons_prefix_cons.2 ⟨rfl, Text.trimEndBy_isPrefix _ _⟩
  apply hasDoubleSeparator_of_isPrefix hpre
  by_cases hne : segments (trim path) = []
  · rw [hne]
    rfl
  · rw [Text.cons_joinWith hne]
    exact hasDoubleSeparator_flatMap hsegs

theorem getLast?_stripped {path : Text} {c : Char} (h : (stripped path).getLast? = some c) :
    c ≠ separator ∧ isBlank c = false := by
  have hc := Text.getLast?_trimEndBy h
  simpa using hc

/-- What normalisation yields is canonical. -/
theorem isCanonical_normalize (path : Text) : isCanonical (normalize path) = true := by
  unfold normalize
  split
  · assumption
  · exact isCanonical_cons_iff.2 ⟨hasDoubleSeparator_stripped path, fun _ hc => getLast?_stripped hc⟩

/-- Normalisation changes a path exactly if it is not canonical. -/
theorem normalize_eq_self_iff {path : Text} : normalize path = path ↔ isCanonical path = true := by
  constructor
  · intro h
    rw [← h]
    exact isCanonical_normalize path
  · exact fun h => if_pos h

/-- A normalised path is a separator before its segments, joined by separators. -/
theorem normalize_eq_join_segments (path : Text) :
    normalize path = separator :: joinWith separator (segments (normalize path)) :=
  eq_join_of_isCanonical (isCanonical_normalize path)

/-- A normalised path does not end in white space. -/
theorem isBlank_getLast?_normalize {path : Text} {c : Char} (h : (normalize path).getLast? = some c) :
    isBlank c = false := by
  have hcanonical := isCanonical_normalize path
  obtain ⟨t, ht⟩ := exists_cons_of_isCanonical hcanonical
  rw [ht] at h hcanonical
  rw [List.getLast?_cons, Option.some.injEq] at h
  cases hlast : t.getLast? with
  | none =>
    rw [hlast, Option.getD_none] at h
    subst h
    rfl
  | some d =>
    rw [hlast, Option.getD_some] at h
    exact h ▸ ((isCanonical_cons_iff.1 hcanonical).2 d hlast).2

/-- A normalised path is a separator before what is left of the path. -/
theorem normalize_eq (path : Text) : normalize path = separator :: stripped path := by
  unfold normalize
  split
  · rename_i h
    obtain ⟨t, rfl⟩ := exists_cons_of_isCanonical h
    obtain ⟨hdouble, hend⟩ := isCanonical_cons_iff.1 h
    have htrim := trim_cons_eq_self_iff.2 (fun c hc => (hend c hc).2)
    have hjoin := (List.cons.inj (eq_join_segments hdouble (fun hlast => (hend _ hlast).1 rfl))).2
    rw [stripped, htrim, ← hjoin, Text.trimEndBy_eq_self]
    intro c hc
    simp [hend c hc]
  · rfl

/-- The pieces of a normalised path behind its first separator are its segments, unless it is the root. -/
theorem splitAt_normalize {path : Text} (h : segments (normalize path) ≠ []) :
    splitAt separator ((normalize path).drop 1) = segments (normalize path) := by
  have hjoin := congrArg (List.drop 1) (normalize_eq_join_segments path)
  rw [hjoin, List.drop_succ_cons, List.drop_zero, Text.splitAt_joinWith h (fun s hs => (mem_segments hs).2)]

/-- The last segment of a normalised path does not end in white space. -/
theorem isBlank_getLast?_segments {path s : Text} {c : Char} (hs : (segments (normalize path)).getLast? = some s)
    (hc : s.getLast? = some c) : isBlank c = false := by
  obtain ⟨start, hstart⟩ := List.getLast?_eq_some_iff.1 hs
  have hne : s ≠ [] := by
    rintro rfl
    cases hc
  have hjoined := Text.getLast?_joinWith separator start hne
  rw [← hstart, hc] at hjoined
  refine @isBlank_getLast?_normalize path c ?_
  rw [normalize_eq_join_segments, List.getLast?_cons, hjoined, Option.getD_some]

/-- What is in a segment of a normalised path is in the path. -/
theorem mem_of_mem_segments {path s : Text} {c : Char} (hs : s ∈ segments (normalize path)) (hc : c ∈ s) : c ∈ path := by
  have hsep : c ≠ separator := fun h => (mem_segments hs).2 (h ▸ hc)
  have hmem : c ∈ normalize path := Text.mem_of_mem_splitAt (List.mem_filter.1 hs).1 hc
  rw [normalize_eq, List.mem_cons] at hmem
  have hjoined := (Text.trimEndBy_isPrefix _ _).subset (hmem.resolve_left hsep)
  obtain ⟨q, hq, hcq⟩ := Text.mem_joinWith hjoined hsep
  exact Text.mem_of_mem_trim (Text.mem_of_mem_splitAt (List.mem_filter.1 hq).1 hcq)

/-! ## Around a part -/

variable {before after part : Text} {xs ys : List Text} {x y : Text}

/-- The segments around a part without separators. -/
theorem segments_around (hbefore : splitAt separator before = xs ++ [x]) (hafter : splitAt separator after = y :: ys)
    (hne : part ≠ []) (hsep : separator ∉ part) : segments (before ++ part ++ after) =
      xs.filter (fun piece => !piece.isEmpty) ++ (x ++ part ++ y) :: ys.filter (fun piece => !piece.isEmpty) := by
  rw [segments, Text.splitAt_around hbefore hafter hsep, List.filter_append, List.filter_cons_of_pos (by simp [hne])]

/-- Normalising acts around a part without separators and white space: the part stays in its piece, and neither the pieces
before and after it nor the white space beside it depend on what it is. -/
theorem exists_splitAt_normalize (hbefore : splitAt separator before = xs ++ [x]) (hx : ∀ c ∈ x, isBlank c = true)
    (hafter : splitAt separator after = y :: ys) (hy : ∀ c ∈ y, isBlank c = true) :
    ∃ xs' x' y' ys', (∀ c ∈ x', isBlank c = true) ∧ (∀ c ∈ y', isBlank c = true) ∧
      ∀ part : Text, part ≠ [] → (∀ c ∈ part, c ≠ separator ∧ isBlank c = false) →
        splitAt separator ((normalize (before ++ part ++ after)).drop 1) = xs' ++ (x' ++ part ++ y') :: ys' := by
  obtain ⟨xs₁, x₁, hbefore₁, hx₁⟩ := Text.isSuffix_of_splitAt (Text.trimStartBy_isSuffix isBlank before) hbefore
  obtain ⟨y₁, ys₁, hafter₁, hy₁⟩ := Text.isPrefix_of_splitAt (Text.trimEndBy_isPrefix isBlank after) hafter
  let xs₂ := xs₁.filter (fun piece => !piece.isEmpty)
  let ys₂ := ys₁.filter (fun piece => !piece.isEmpty)
  have hbefore₂ : splitAt separator (joinWith separator (xs₂ ++ [x₁])) = xs₂ ++ [x₁] := by
    refine Text.splitAt_joinWith (by simp) (fun p hp => ?_)
    have hp₁ : p ∈ xs₁ ++ [x₁] := (List.filter_sublist.append (List.Sublist.refl [x₁])).subset hp
    rw [← hbefore₁] at hp₁
    exact Text.not_mem_of_mem_splitAt hp₁
  have hafter₂ : splitAt separator (joinWith separator (y₁ :: ys₂)) = y₁ :: ys₂ := by
    refine Text.splitAt_joinWith (by simp) (fun p hp => ?_)
    have hp₁ : p ∈ y₁ :: ys₁ := (List.filter_sublist.cons_cons y₁).subset hp
    rw [← hafter₁] at hp₁
    exact Text.not_mem_of_mem_splitAt hp₁
  obtain ⟨y₃, ys₃, hafter₃, hy₃⟩ := Text.isPrefix_of_splitAt
    (Text.trimEndBy_isPrefix (fun c => c == separator || isBlank c) _) hafter₂
  refine ⟨xs₂, x₁, y₃, ys₃, fun c hc => hx c (hx₁.subset hc), fun c hc => hy c (hy₁.subset (hy₃.subset hc)), ?_⟩
  intro part hne hpart
  have hsep : separator ∉ part := fun h => (hpart _ h).1 rfl
  rw [normalize_eq, List.drop_succ_cons, List.drop_zero, stripped, Text.trim_append hne (fun c hc => (hpart c hc).2),
    segments_around hbefore₁ hafter₁ hne hsep, ← Text.joinWith_append_joinWith, ← Text.joinWith_append_joinWith,
    Text.joinWith_singleton, Text.trimEndBy_append hne (by simpa using hpart)]
  exact Text.splitAt_around hbefore₂ hafter₃ hsep

end Path

end PathRouting
