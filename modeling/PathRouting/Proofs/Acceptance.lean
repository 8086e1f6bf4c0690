import PathRouting.Proofs.Resolution

/-!
# What a declared pattern accepts

A pattern that is declared alone accepts the paths that it resolves. Statements: it does so where its segments share out
those of the path, unless it stands for all paths; and a literal accepts the paths whose canonical form it is.
-/

namespace PathRouting

open Segment (IsSplit IsGreedySplit splits ofPattern)

namespace Segment

/-! ## Sharing out -/

/-- The segments of a path can be shared out among those of a pattern. -/
def Shares (pattern : List Segment) (path : List Text) : Prop := ∃ blocks, IsSplit pattern path blocks

/-- A greedy split is the first of all splits, so there is one if there is any. -/
theorem exists_isGreedySplit_iff {pattern : List Segment} {path : List Text} :
    (∃ blocks, IsGreedySplit pattern path blocks) ↔ Shares pattern path := by
  refine ⟨fun ⟨blocks, h⟩ => ⟨blocks, h.1⟩, fun ⟨blocks, h⟩ => ?_⟩
  have hne : splits pattern path ≠ [] := List.ne_nil_of_mem (mem_splits.2 h)
  exact ⟨_, head?_splits.1 (List.head?_eq_some_head hne)⟩

/-- A path is shared out around a segment of the pattern. -/
theorem shares_append_cons_iff {pre post : List Segment} {k : Segment} {path : List Text} :
    Shares (pre ++ k :: post) path ↔ ∃ before block after, path = before ++ block ++ after ∧ Shares pre before ∧
      k.Takes block ∧ Shares post after := by
  constructor
  · rintro ⟨blocks, hall, rfl⟩
    have hleft := List.forall₂_take pre.length hall
    have hright := List.forall₂_drop pre.length hall
    rw [List.take_left] at hleft
    rw [List.drop_left] at hright
    rw [← List.take_append_drop pre.length blocks]
    cases hdrop : blocks.drop pre.length with
    | nil =>
      rw [hdrop] at hright
      cases hright
    | cons block rest =>
      rw [hdrop] at hright
      cases hright with
      | cons htakes hright =>
        refine ⟨_, block, _, ?_, ⟨_, hleft, rfl⟩, htakes, ⟨rest, hright, rfl⟩⟩
        rw [List.flatten_append, List.flatten_cons, List.append_assoc]
  · rintro ⟨before, block, after, rfl, ⟨left, hleft, rfl⟩, htakes, ⟨right, hright, rfl⟩⟩
    refine ⟨left ++ block :: right, List.rel_append hleft (List.Forall₂.cons htakes hright), ?_⟩
    rw [List.flatten_append, List.flatten_cons, List.append_assoc]

end Segment

namespace Pattern

/-! ## What a pattern accepts -/

/-- The pattern, declared as the only one, resolves the path. -/
def Accepts (text path : Text) : Prop := (Route.resolve [Route.ofPattern (text, none)] path).isSome = true

/-- The pattern is compiled to an expression, if it needs one. -/
def IsAccepted (text : Text) : Prop := .patternRejected text ∉ (compileText text).events

instance (text path : Text) : Decidable (Accepts text path) := inferInstanceAs (Decidable (_ = true))

instance (text : Text) : Decidable (IsAccepted text) := inferInstanceAs (Decidable (¬_))

/-- The pattern stands for all paths. -/
def IsAll (text : Text) : Prop := Path.normalize text = ['/', '*'] ∨ Path.normalize text = ['/', '*', '*']

variable {text path : Text}

theorem accepts_iff_matches : Accepts text path ↔ ((compileText text).pattern.matches? (Path.normalize path)).isSome := by
  have hpattern : (Route.ofPattern (text, none)).pattern = (compileText text).pattern := rfl
  unfold Accepts Route.resolve
  cases hmatch : (compileText text).pattern.matches? (Path.normalize path) <;> simp [Route.firstMatch, hpattern, hmatch]

/-- A pattern accepts the paths that can be shared out among its segments, unless it stands for all paths. The root has no
segments. -/
theorem accepts_iff_shares_of_ne_root (haccepted : IsAccepted text) (hroot : Path.normalize text ≠ ['/']) (path : Text) :
    Accepts text path ↔
      IsAll text ∨ Segment.Shares (ofPattern (Path.normalize text)) (Path.segments (Path.normalize path)) := by
  rw [accepts_iff_matches, Option.isSome_iff_exists]
  have hadmits := fun params => matches?_compileText haccepted path params
  simp only [hadmits, Admits, if_neg hroot, IsAll]
  split
  · rename_i hall
    exact iff_of_true ⟨[], rfl⟩ (Or.inl hall)
  · rename_i hall
    rw [or_iff_right hall, ← Segment.exists_isGreedySplit_iff]
    exact ⟨fun ⟨_, blocks, h, _⟩ => ⟨blocks, h⟩, fun ⟨blocks, h⟩ => ⟨_, blocks, h, rfl⟩⟩

/-- So does a pattern with dynamic segments. -/
theorem accepts_iff_shares (haccepted : IsAccepted text) (hdynamic : (ofPattern (Path.normalize text)).any Segment.isDynamic)
    (path : Text) : Accepts text path ↔
      IsAll text ∨ Segment.Shares (ofPattern (Path.normalize text)) (Path.segments (Path.normalize path)) :=
  accepts_iff_shares_of_ne_root haccepted (ne_root_of_isDynamic hdynamic) path

/-- A literal accepts the paths whose canonical form it is. -/
theorem accepts_iff_of_literal {l : Text} (h : (compileText text).pattern = .literal l) (path : Text) :
    Accepts text path ↔ l = Path.normalize path := by
  rw [accepts_iff_matches, h, matches?, Option.isSome_ite]

/-- A pattern that the engine refuses is taken as it is written. -/
theorem pattern_of_not_isAccepted (h : ¬IsAccepted text) :
    (compileText text).pattern = .literal (Path.normalize text) := by
  unfold IsAccepted compileText at h
  unfold compileText
  by_cases hroot : Path.normalize text = ['/']
  · rw [if_pos hroot, hroot]
  · by_cases hall : Path.normalize text = ['/', '*'] ∨ Path.normalize text = ['/', '*', '*']
    · simp [if_neg hroot, if_pos hall] at h
    · simp only [if_neg hroot, if_neg hall] at h ⊢
      split at h
      · rename_i hdynamic
        simp only [if_pos hdynamic]
        split at h
        · simp at h
        · rfl
      · simp at h

end Pattern

end PathRouting
