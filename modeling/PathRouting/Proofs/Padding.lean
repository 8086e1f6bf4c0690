import Mathlib.Data.List.Forall2
import PathRouting.Proofs.Acceptance
import PathRouting.Proofs.Normalisation

/-!
# White space around segments

A pattern is trimmed as a whole before it is split, and segment by segment afterwards; in between it is decided whether it
is the root or stands for all paths. Statements: every step on the way takes patterns whose pieces are alike but for white
space around them to such patterns again; so patterns that differ only by white space around segments are compiled alike,
where both or neither of them stand for all paths and the engine accepts their expression.
-/

namespace PathRouting

open List (Forall₂)
open PathRouting.Path (separator)
open Text (splitAt trim trimStartBy trimEndBy isAllBlank trimLast)
open Segment (ofPattern)

namespace Text

variable {sep : Char} {t p q core before after : Text} {ps qs : List Text}

/-! ## Trimming in parts -/

/-- White space in front goes. -/
theorem trimStartBy_append_of_blank (h : isAllBlank before = true) (t : Text) :
    trimStartBy isBlank (before ++ t) = trimStartBy isBlank t := by
  rw [isAllBlank, List.all_eq_true] at h
  exact List.dropWhile_append_of_pos h

/-- White space at the end goes. -/
theorem trimEndBy_append_of_blank (h : isAllBlank after = true) (t : Text) :
    trimEndBy isBlank (t ++ after) = trimEndBy isBlank t := by
  rw [trimEndBy_append_text, if_pos (trimEndBy_eq_nil_iff.2 h)]

/-- White space around a text changes nothing of what trimming leaves. -/
theorem trim_pad (hbefore : isAllBlank before = true) (hafter : isAllBlank after = true) (core : Text) :
    trim (before ++ core ++ after) = trim core := by
  rw [List.append_assoc, trim, trim, trimStartBy_append_of_blank hbefore, trimStartBy, List.dropWhile_append]
  split
  · rename_i hempty
    have hnil : trimStartBy isBlank core = [] := List.isEmpty_iff.1 hempty
    change trimEndBy isBlank (trimStartBy isBlank after) = trimEndBy isBlank (trimStartBy isBlank core)
    rw [hnil, trimStartBy_eq_nil_iff.2 hafter]
  · exact trimEndBy_append_of_blank hafter _

/-- Trimming the start makes no difference to what trimming leaves. -/
theorem trim_trimStartBy (t : Text) : trim (trimStartBy isBlank t) = trim t := by
  rw [trim, trim, trimStartBy_trimStartBy]

/-- What trimming the end takes away is white space. -/
theorem exists_eq_trimEndBy_append (t : Text) : ∃ after, isAllBlank after = true ∧ t = trimEndBy isBlank t ++ after := by
  refine ⟨t.rtakeWhile isBlank, ?_, List.rdropWhile_append_rtakeWhile.symm⟩
  rw [isAllBlank, List.all_eq_true]
  exact fun c hc => List.mem_rtakeWhile_imp hc

/-- Neither does trimming the end. -/
theorem trim_trimEndBy (t : Text) : trim (trimEndBy isBlank t) = trim t := by
  obtain ⟨after, hafter, ht⟩ := exists_eq_trimEndBy_append t
  have hpad : trim ([] ++ trimEndBy isBlank t ++ after) = trim (trimEndBy isBlank t) := trim_pad rfl hafter _
  rw [List.nil_append, ← ht] at hpad
  exact hpad.symm

/-! ## Pieces of a trimmed text -/

/-- The first piece is trimmed with the start of the text. -/
theorem splitAt_trimStartBy (hsep : isBlank sep = false) (t : Text) :
    splitAt sep (trimStartBy isBlank t) = (splitAt sep t).modifyHead (trimStartBy isBlank) := by
  induction t with
  | nil => rfl
  | cons c t ih =>
    by_cases hblank : isBlank c = true
    · have hc : c ≠ sep := fun h => by rw [h, hsep] at hblank; cases hblank
      obtain ⟨p, ps, hsplit, hcons⟩ := splitAt_cons_of_ne hc t
      rw [trimStartBy, List.dropWhile_cons_of_pos hblank, hcons, List.modifyHead_cons, trimStartBy,
        List.dropWhile_cons_of_pos hblank]
      rw [hsplit] at ih
      exact ih
    · rw [trimStartBy, List.dropWhile_cons_of_neg hblank]
      by_cases hc : c = sep
      · rw [hc, splitAt_cons_self]
        rfl
      · obtain ⟨p, ps, _, hcons⟩ := splitAt_cons_of_ne hc t
        rw [hcons, List.modifyHead_cons, trimStartBy, List.dropWhile_cons_of_neg hblank]

/-- The last piece is trimmed with the end of the text. -/
theorem splitAt_trimEndBy (hsep : isBlank sep = false) (t : Text) :
    splitAt sep (trimEndBy isBlank t) = (splitAt sep t).modifyLast (trimEndBy isBlank) := by
  obtain ⟨after, hafter, ht⟩ := exists_eq_trimEndBy_append t
  have hmem : sep ∉ after := by
    intro h
    rw [isAllBlank, List.all_eq_true] at hafter
    rw [hafter sep h] at hsep
    cases hsep
  obtain ⟨xs, x, hx⟩ := exists_splitAt_concat sep (trimEndBy isBlank t)
  have hself : trimEndBy isBlank x = x := by
    refine trimEndBy_eq_self (fun c hc => ?_)
    have hne : x ≠ [] := by
      rintro rfl
      cases hc
    have hjoin := getLast?_joinWith sep xs hne
    rw [← hx, joinWith_splitAt, hc] at hjoin
    exact getLast?_trimEndBy hjoin
  have hsplit : splitAt sep t = xs ++ [x ++ after] := by
    rw [ht]
    exact splitAt_append_text hx (splitAt_of_not_mem hmem)
  rw [hx, hsplit, List.modifyLast_concat, trimEndBy_append_of_blank hafter, hself]

/-! ## Texts that are alike but for white space around them -/

/-- Trimming leaves the same of both texts, and both or neither are empty. -/
def IsLike (p q : Text) : Prop := trim p = trim q ∧ (p = [] ↔ q = [])

theorem IsLike.isAllBlank_eq (h : IsLike p q) : isAllBlank p = isAllBlank q := by
  rw [Bool.eq_iff_iff, ← trim_eq_nil_iff, ← trim_eq_nil_iff, h.1]

theorem IsLike.isEmpty_eq (h : IsLike p q) : p.isEmpty = q.isEmpty := by
  rw [Bool.eq_iff_iff, List.isEmpty_iff, List.isEmpty_iff, h.2]

/-- They are so with their starts trimmed. -/
theorem IsLike.trimStartBy (h : IsLike p q) : IsLike (trimStartBy isBlank p) (trimStartBy isBlank q) := by
  refine ⟨?_, ?_⟩
  · rw [trim_trimStartBy, trim_trimStartBy, h.1]
  · rw [trimStartBy_eq_nil_iff, trimStartBy_eq_nil_iff, h.isAllBlank_eq]

/-- They are so with their ends trimmed. -/
theorem IsLike.trimEndBy (h : IsLike p q) : IsLike (trimEndBy isBlank p) (trimEndBy isBlank q) := by
  refine ⟨?_, ?_⟩
  · rw [trim_trimEndBy, trim_trimEndBy, h.1]
  · rw [trimEndBy_eq_nil_iff, trimEndBy_eq_nil_iff, h.isAllBlank_eq]

/-- The texts are one text that is not blank, each with white space of its own around it. -/
def ArePadded (p q : Text) : Prop :=
  ∃ core before after before' after', isAllBlank core = false ∧ isAllBlank before = true ∧ isAllBlank after = true ∧
    isAllBlank before' = true ∧ isAllBlank after' = true ∧ p = before ++ core ++ after ∧ q = before' ++ core ++ after'

theorem ArePadded.isLike (h : ArePadded p q) : IsLike p q := by
  obtain ⟨core, before, after, before', after', hcore, hb, ha, hb', ha', rfl, rfl⟩ := h
  have hne : core ≠ [] := by
    rintro rfl
    cases hcore
  refine ⟨?_, iff_of_false (by simp [hne]) (by simp [hne])⟩
  rw [trim_pad hb ha, trim_pad hb' ha']

end Text

section Steps

variable {α : Type} {R : α → α → Prop} {as bs : List α}

/-- Related lists stay related if their first elements are replaced by related ones. -/
theorem forall₂_modifyHead {f : α → α} (hf : ∀ a b, R a b → R (f a) (f b)) (h : Forall₂ R as bs) :
    Forall₂ R (as.modifyHead f) (bs.modifyHead f) := by
  cases h with
  | nil => exact .nil
  | cons hab h => exact .cons (hf _ _ hab) h

/-- So do they if their last elements are. -/
theorem forall₂_modifyLast {f : α → α} (hf : ∀ a b, R a b → R (f a) (f b)) (h : Forall₂ R as bs) :
    Forall₂ R (as.modifyLast f) (bs.modifyLast f) := by
  induction h with
  | nil => exact .nil
  | @cons a b as bs hab h ih =>
    cases h with
    | nil => exact .cons (hf a b hab) .nil
    | @cons a' b' as bs hab' h =>
      have happend : ∀ (c c' : α) (cs : List α), (c :: c' :: cs).modifyLast f = c :: (c' :: cs).modifyLast f :=
        fun c c' cs => List.modifyLast_append_of_right_ne_nil f [c] (c' :: cs) (List.cons_ne_nil c' cs)
      rw [happend, happend]
      exact .cons hab ih

/-- So do they without the elements in front of which one holds that holds of related ones alike. -/
theorem forall₂_dropWhile {p : α → Bool} (hp : ∀ a b, R a b → p a = p b) (h : Forall₂ R as bs) :
    Forall₂ R (as.dropWhile p) (bs.dropWhile p) := by
  induction h with
  | nil => exact .nil
  | @cons a b as bs hab h ih =>
    rw [List.dropWhile_cons, List.dropWhile_cons, ← hp a b hab]
    split
    · exact ih
    · exact .cons hab h

/-- So do they without such elements at the end. -/
theorem forall₂_rdropWhile {p : α → Bool} (hp : ∀ a b, R a b → p a = p b) (h : Forall₂ R as bs) :
    Forall₂ R (as.rdropWhile p) (bs.rdropWhile p) := by
  rw [List.rdropWhile, List.rdropWhile, List.forall₂_reverse_iff]
  exact forall₂_dropWhile hp (List.forall₂_reverse_iff.2 h)

end Steps

namespace Text

variable {sep : Char} {t u : Text} {ps qs : List Text}

/-- Texts with like pieces have like pieces when they are trimmed. -/
theorem forall₂_splitAt_trim (hsep : isBlank sep = false) (h : Forall₂ IsLike (splitAt sep t) (splitAt sep u)) :
    Forall₂ IsLike (splitAt sep (trim t)) (splitAt sep (trim u)) := by
  rw [trim, trim, splitAt_trimEndBy hsep, splitAt_trimEndBy hsep, splitAt_trimStartBy hsep, splitAt_trimStartBy hsep]
  exact forall₂_modifyLast (fun _ _ => IsLike.trimEndBy) (forall₂_modifyHead (fun _ _ => IsLike.trimStartBy) h)

/-- Like pieces are dropped and trimmed alike at the end. -/
theorem forall₂_trimLast (h : Forall₂ IsLike ps qs) : Forall₂ IsLike (trimLast ps) (trimLast qs) :=
  forall₂_modifyLast (fun _ _ => IsLike.trimEndBy) (forall₂_rdropWhile (fun _ _ => IsLike.isAllBlank_eq) h)

end Text

namespace Path

/-- Paths with like pieces have like segments when they are normalised. -/
theorem forall₂_segments_normalize {path path' : Text}
    (h : Forall₂ Text.IsLike (splitAt separator path) (splitAt separator path')) :
    Forall₂ Text.IsLike (segments (normalize path)) (segments (normalize path')) := by
  rw [segments_normalize, segments_normalize]
  refine Text.forall₂_trimLast (List.rel_filter (fun p q hpq => ?_) (Text.forall₂_splitAt_trim (by decide) h))
  simp only [hpq.isEmpty_eq]

end Path

namespace Pattern

variable {text text' : Text}

/-! ## Patterns -/

/-- The pattern of some segments, unless the engine refuses their expression. -/
def ofSegments? (segments : List Segment) : Option Pattern :=
  if segments.any Segment.isDynamic then
    (Expression.ofSource (Segment.expressionSource segments)).toOption.map .expression
  else some (.literal (Segment.literalPath segments))

/-- A pattern that is neither the root nor stands for all paths is that of its segments, if the engine accepts it. -/
theorem compileText_of_segments (hroot : Path.normalize text ≠ ['/']) (hall : ¬IsAll text) :
    (compileText text).pattern = (ofSegments? (ofPattern (Path.normalize text))).getD (.literal (Path.normalize text)) ∧
      (IsAccepted text ↔ (ofSegments? (ofPattern (Path.normalize text))).isSome = true) := by
  rw [IsAll] at hall
  rw [IsAccepted, compileText, ofSegments?]
  simp only [if_neg hroot, if_neg hall]
  split
  · cases Expression.ofSource (Segment.expressionSource (ofPattern (Path.normalize text))) with
    | ok e => simp [Except.toOption]
    | error e => simp [Except.toOption]
  · simp

/-- The pieces of the patterns are the same but for white space around those that have other characters too. -/
def IsPadded (text text' : Text) : Prop :=
  Forall₂ (fun p q => p = q ∨ Text.ArePadded p q) (splitAt separator text) (splitAt separator text')

/-- Such pieces are alike. -/
theorem IsPadded.forall₂_isLike (h : IsPadded text text') :
    Forall₂ Text.IsLike (splitAt separator text) (splitAt separator text') := by
  refine h.imp (fun p q hpq => ?_)
  rcases hpq with rfl | hpadded
  · exact ⟨rfl, Iff.rfl⟩
  · exact hpadded.isLike

/-- Both patterns or neither are the root. -/
theorem IsPadded.normalize_eq_root_iff (h : IsPadded text text') :
    Path.normalize text = ['/'] ↔ Path.normalize text' = ['/'] := by
  rw [Pattern.normalize_eq_root_iff, Pattern.normalize_eq_root_iff, ← List.length_eq_zero_iff, ← List.length_eq_zero_iff,
    (Path.forall₂_segments_normalize h.forall₂_isLike).length_eq]

/-- They have the same segments. -/
theorem IsPadded.ofPattern_eq (h : IsPadded text text') (hroot : Path.normalize text ≠ ['/']) :
    ofPattern (Path.normalize text) = ofPattern (Path.normalize text') := by
  rw [ofPattern_normalize hroot, ofPattern_normalize (fun h' => hroot (h.normalize_eq_root_iff.2 h'))]
  have hlike := Path.forall₂_segments_normalize h.forall₂_isLike
  rw [← List.forall₂_eq_eq_eq, List.forall₂_map_left_iff, List.forall₂_map_right_iff]
  exact hlike.imp (fun p q hpq => by rw [hpq.1])

/-- Patterns that differ only by white space around segments with other characters, and of which both or neither stand for
all paths, are compiled alike: the engine accepts both or neither, where it does they are the same pattern, and where it
does not each is taken as it is written. -/
theorem pattern_eq_of_isPadded (h : IsPadded text text') (hall : IsAll text ↔ IsAll text') :
    (IsAccepted text ↔ IsAccepted text') ∧
      (IsAccepted text → (compileText text).pattern = (compileText text').pattern) ∧
      (¬IsAccepted text → (compileText text).pattern = .literal (Path.normalize text) ∧
        (compileText text').pattern = .literal (Path.normalize text')) := by
  have hmain : (IsAccepted text ↔ IsAccepted text') ∧
      (IsAccepted text → (compileText text).pattern = (compileText text').pattern) := by
    by_cases hroot : Path.normalize text = ['/']
    · have hroot' := h.normalize_eq_root_iff.1 hroot
      simp [IsAccepted, compileText, hroot, hroot']
    · have hroot' : Path.normalize text' ≠ ['/'] := fun h' => hroot (h.normalize_eq_root_iff.2 h')
      by_cases htext : IsAll text
      · have htext' := hall.1 htext
        simp only [IsAll] at htext htext'
        simp [IsAccepted, compileText, if_neg hroot, if_neg hroot', if_pos htext, if_pos htext']
      · obtain ⟨hpattern, haccepted⟩ := compileText_of_segments hroot htext
        obtain ⟨hpattern', haccepted'⟩ := compileText_of_segments hroot' (fun h' => htext (hall.2 h'))
        rw [hpattern, hpattern', haccepted, haccepted', ← h.ofPattern_eq hroot]
        refine ⟨Iff.rfl, fun hsome => ?_⟩
        obtain ⟨p, hp⟩ := Option.isSome_iff_exists.1 hsome
        rw [hp, Option.getD_some, Option.getD_some]
  exact ⟨hmain.1, hmain.2, fun hnot => ⟨pattern_of_not_isAccepted hnot,
    pattern_of_not_isAccepted (fun h' => hnot (hmain.1.2 h'))⟩⟩

/-- White space around the first segment, before the last one and behind it changes nothing of a pattern. -/
theorem pattern_eq_padded_params :
    (compileText (Text.ofString "a /:id/*")).pattern = (compileText (Text.ofString "\n\ta/:id/ *\t\n")).pattern := by
  have hpadded : IsPadded (Text.ofString "a /:id/*") (Text.ofString "\n\ta/:id/ *\t\n") :=
    .cons (.inr ⟨['a'], [], [' '], ['\n', '\t'], [], rfl, rfl, rfl, rfl, rfl, rfl, rfl⟩)
      (.cons (.inl rfl) (.cons (.inr ⟨['*'], [], [], [' '], ['\t', '\n'], rfl, rfl, rfl, rfl, rfl, rfl, rfl⟩) .nil))
  have hnot : ¬IsAll (Text.ofString "a /:id/*") := by unfold IsAll; decide +kernel
  have hnot' : ¬IsAll (Text.ofString "\n\ta/:id/ *\t\n") := by unfold IsAll; decide +kernel
  exact (pattern_eq_of_isPadded hpadded (iff_of_false hnot hnot')).2.1 (by decide +kernel)

/-- Whether a pattern stands for all paths is decided before its segments are trimmed. -/
theorem pattern_ne_padded_wildcard : IsPadded (Text.ofString "/*") (Text.ofString "/ *") ∧
    IsAccepted (Text.ofString "/*") ∧ IsAccepted (Text.ofString "/ *") ∧
      (compileText (Text.ofString "/*")).pattern ≠ (compileText (Text.ofString "/ *")).pattern := by
  refine ⟨.cons (.inl rfl) (.cons (.inr ⟨['*'], [], [], [' '], [], rfl, rfl, rfl, rfl, rfl, rfl, rfl⟩) .nil),
    by decide +kernel, by decide +kernel, fun h => ?_⟩
  have hdynamic := congrArg isDynamic h
  exact absurd hdynamic (by decide +kernel)

end Pattern

end PathRouting
