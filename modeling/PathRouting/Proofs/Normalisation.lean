import Mathlib.Data.List.DropRight
import Mathlib.Data.List.ModifyLast
import PathRouting.Proofs.CanonicalPath

/-!
# What normalisation leaves

Trimming white space can expose a separator, and dropping a separator can expose white space, in any alternation.
Normalisation takes both from the end of the joined segments at once. Statements: this is as good as dropping blank
segments from the end and trimming the end of the last one that is left, so that the segments of a normalised path are
found segment by segment; and the short way for canonical paths agrees with the long one.
-/

namespace PathRouting

open Text (splitAt joinWith trim trimStartBy trimEndBy)

namespace Text

/-! ## Ends of what is put together -/

/-- Trimming the end of two texts goes on with the first one where nothing is left of the second. -/
theorem trimEndBy_append_text (p : Char → Bool) (a b : Text) :
    trimEndBy p (a ++ b) = if trimEndBy p b = [] then trimEndBy p a else a ++ trimEndBy p b := by
  simp only [trimEndBy, List.reverse_append, List.dropWhile_append, List.isEmpty_iff, List.reverse_eq_nil_iff]
  split
  · rfl
  · rw [List.reverse_append, List.reverse_reverse]

/-- What is trimmed depends on the characters of the text only. -/
theorem trimEndBy_congr {p q : Char → Bool} {t : Text} (h : ∀ c ∈ t, p c = q c) : trimEndBy p t = trimEndBy q t := by
  induction t using List.reverseRecOn with
  | nil => rfl
  | append_singleton t c ih =>
    have hc : p c = q c := h c (List.mem_append_right t (List.mem_singleton_self c))
    have hconcat : ∀ r : Char → Bool, trimEndBy r (t ++ [c]) = if r c = true then trimEndBy r t else t ++ [c] :=
      fun r => List.rdropWhile_concat r t c
    rw [hconcat, hconcat, hc, ih (fun d hd => h d (List.mem_append_left _ hd))]

/-- A joined text ends in its last piece. -/
theorem joinWith_concat (sep : Char) (ps : List Text) (p : Text) :
    joinWith sep (ps ++ [p]) = joinWith sep (ps ++ [[]]) ++ p := by
  have h := joinWith_append_joinWith sep ps [] p []
  rw [joinWith_singleton, List.nil_append] at h
  exact h.symm

/-- A separator at the end is trimmed like a blank. -/
theorem trimEndBy_joinWith_nil {sep : Char} {p : Char → Bool} (hsep : p sep = true) (ps : List Text) :
    trimEndBy p (joinWith sep (ps ++ [[]])) = trimEndBy p (joinWith sep ps) := by
  cases ps with
  | nil => rfl
  | cons q ps =>
    have hjoin : joinWith sep (q :: ps ++ [[]]) = joinWith sep (q :: ps) ++ [sep] := by simp [joinWith]
    rw [hjoin, trimEndBy_append_text, if_pos (trimEndBy_eq_nil (by simpa using hsep))]

/-! ## Blank pieces at the end -/

/-- The text has no other characters than white space. -/
def isAllBlank (t : Text) : Bool := t.all isBlank

/-- The texts without the blank ones at the end, and without the white space at the end of the last one of the others. -/
def trimLast (ps : List Text) : List Text := (ps.rdropWhile isAllBlank).modifyLast (trimEndBy isBlank)

/-- A blank last piece is left out. -/
theorem trimLast_concat_of_blank {p : Text} (h : isAllBlank p = true) (ps : List Text) :
    trimLast (ps ++ [p]) = trimLast ps := by
  rw [trimLast, List.rdropWhile_concat_pos _ _ _ h]
  rfl

/-- A last piece that is not blank is trimmed at the end. -/
theorem trimLast_concat {p : Text} (h : ¬isAllBlank p = true) (ps : List Text) :
    trimLast (ps ++ [p]) = ps ++ [trimEndBy isBlank p] := by
  rw [trimLast, List.rdropWhile_concat_neg _ _ _ h, List.modifyLast_concat]

/-- Nothing is left of a text exactly if it is blank. -/
theorem trimEndBy_eq_nil_iff {t : Text} : trimEndBy isBlank t = [] ↔ isAllBlank t = true := by
  rw [trimEndBy, List.reverse_eq_nil_iff, List.dropWhile_eq_nil_iff, isAllBlank, List.all_eq_true]
  simp only [List.mem_reverse]

/-- A text is trimmed away from the start if it is all blank. -/
theorem trimStartBy_eq_nil_iff : trimStartBy isBlank t = [] ↔ isAllBlank t = true := by
  rw [trimStartBy, List.dropWhile_eq_nil_iff, isAllBlank, List.all_eq_true]

/-- Trimming the start twice trims no more than once. -/
theorem trimStartBy_trimStartBy (t : Text) : trimStartBy isBlank (trimStartBy isBlank t) = trimStartBy isBlank t :=
  List.dropWhile_idempotent isBlank t

/-- Trimming leaves nothing of a text exactly if it is blank. -/
theorem trim_eq_nil_iff : trim t = [] ↔ isAllBlank t = true := by
  rw [trim, trimEndBy_eq_nil_iff, ← trimStartBy_eq_nil_iff, trimStartBy_trimStartBy, trimStartBy_eq_nil_iff]

/-- Trimming separators and white space from the end of joined texts drops the blank ones there and trims the last one of
the others: a piece has no separator, so that white space is all that can be trimmed from it. -/
theorem trimEndBy_joinWith {sep : Char} {ps : List Text} (h : ∀ p ∈ ps, sep ∉ p) :
    trimEndBy (fun c => c == sep || isBlank c) (joinWith sep ps) = joinWith sep (trimLast ps) := by
  induction ps using List.reverseRecOn with
  | nil => rfl
  | append_singleton ps p ih =>
    have hps : ∀ q ∈ ps, sep ∉ q := fun q hq => h q (List.mem_append_left _ hq)
    have hp : sep ∉ p := h p (List.mem_append_right _ (List.mem_singleton_self p))
    have hsame : trimEndBy (fun c => c == sep || isBlank c) p = trimEndBy isBlank p := by
      refine trimEndBy_congr (fun c hc => ?_)
      have hne : c ≠ sep := fun e => hp (e ▸ hc)
      simp [hne]
    rw [joinWith_concat, trimEndBy_append_text, hsame]
    by_cases hblank : isAllBlank p = true
    · rw [if_pos (trimEndBy_eq_nil_iff.2 hblank), trimEndBy_joinWith_nil (by simp), ih hps,
        trimLast_concat_of_blank hblank]
    · rw [if_neg (fun hnil => hblank (trimEndBy_eq_nil_iff.1 hnil)), trimLast_concat hblank, ← joinWith_concat]

/-- Texts that may be segments of a path may still be so after that. -/
theorem mem_trimLast {sep : Char} {ps : List Text} (h : ∀ p ∈ ps, p ≠ [] ∧ sep ∉ p) :
    ∀ p ∈ trimLast ps, p ≠ [] ∧ sep ∉ p := by
  induction ps using List.reverseRecOn with
  | nil => exact fun _ hp => absurd hp List.not_mem_nil
  | append_singleton ps p ih =>
    have hps : ∀ q ∈ ps, q ≠ [] ∧ sep ∉ q := fun q hq => h q (List.mem_append_left _ hq)
    by_cases hblank : isAllBlank p = true
    · rw [trimLast_concat_of_blank hblank]
      exact ih hps
    · have hp : sep ∉ p := (h p (List.mem_append_right _ (List.mem_singleton_self p))).2
      rw [trimLast_concat hblank, List.forall_mem_append, List.forall_mem_singleton]
      exact ⟨hps, fun hnil => hblank (trimEndBy_eq_nil_iff.1 hnil), fun hm => hp ((trimEndBy_isPrefix _ p).subset hm)⟩

end Text

namespace Path

/-- The segments of a normalised path are the segments of the trimmed path, without blank ones at the end and without white
space at the end of the last one that is left. -/
theorem segments_normalize (path : Text) : segments (normalize path) = Text.trimLast (segments (trim path)) := by
  rw [normalize_eq, stripped, Text.trimEndBy_joinWith (fun s hs => (mem_segments hs).2)]
  exact segments_joinWith (Text.mem_trimLast (fun s hs => mem_segments hs))

/-- Normalisation yields a separator before the segments of the trimmed path, joined by separators, without blank ones at
the end and without white space at the end of the last one that is left. This is a canonical path, and the path itself
exactly if it is canonical; so the short way for canonical paths leads to what is left of them, and a second normalisation
changes nothing. -/
theorem normalize_eq_join_trimLast (path : Text) :
    normalize path = separator :: joinWith separator (Text.trimLast ((splitAt separator (trim path)).filter (· ≠ []))) ∧
      isCanonical (normalize path) = true ∧
      (normalize path = path ↔ isCanonical path = true) ∧
      normalize path = separator :: stripped path ∧
      normalize (normalize path) = normalize path := by
  have hpieces : (splitAt separator (trim path)).filter (· ≠ []) = segments (trim path) := by
    rw [segments]
    congr 1
    funext piece
    cases piece <;> rfl
  refine ⟨?_, isCanonical_normalize path, normalize_eq_self_iff, normalize_eq path,
    normalize_eq_self_iff.2 (isCanonical_normalize path)⟩
  rw [hpieces, ← segments_normalize]
  exact normalize_eq_join_segments path

/-- A separator that goes exposes white space, and the white space that goes exposes a separator. -/
example : normalize (Text.ofString " //a /b c \t/ /\n") = Text.ofString "/a /b c" := by decide +kernel

end Path

end PathRouting
