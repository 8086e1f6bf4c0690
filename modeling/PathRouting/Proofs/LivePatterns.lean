import PathRouting.Proofs.Acceptance

/-!
# Live patterns

A declared pattern is live if it accepts some path. A segment of white space alone is kept where empty segments are
dropped, and then trimmed to nothing, so that the pattern stands for two separators side by side: no normalised path has
them. The main statement is that this is the only way for a pattern to be dead.
-/

namespace PathRouting

open PathRouting.Path (separator)
open Segment (ofPattern)

namespace Segment

/-- A text that a segment takes. -/
def sample (k : Segment) : Text := if k.isDynamic then ['a'] else k.carried

theorem takes_sample (k : Segment) : k.Takes [k.sample] := by
  cases k with
  | param name => exact ⟨_, rfl⟩
  | wildcard => exact ⟨_, rfl⟩
  | glob => exact ⟨List.cons_ne_nil _ _, List.forall_mem_singleton.2 (by simp [sample, isDynamic])⟩
  | literal t => rfl
  | unrecognised t => rfl

/-- The samples of some segments can be shared out among them. -/
theorem shares_samples (pattern : List Segment) : Shares pattern (pattern.map sample) := by
  refine ⟨pattern.map (fun k => [k.sample]), ?_, ?_⟩
  · rw [List.forall₂_map_right_iff, List.forall₂_same]
    exact fun k _ => takes_sample k
  · rw [← List.flatMap_def, ← List.map_eq_flatMap]

/-- The sample of a trimmed piece may be a segment of a path, and the last one too, if trimming leaves something. -/
theorem sample_classify_trim {s : Text} (hsep : separator ∉ s) (h : Text.trim s ≠ []) :
    ((classify (Text.trim s)).sample ≠ [] ∧ separator ∉ (classify (Text.trim s)).sample) ∧
      ∀ c, (classify (Text.trim s)).sample.getLast? = some c → isBlank c = false := by
  unfold sample
  split
  · refine ⟨by decide, fun c hc => ?_⟩
    obtain rfl := Option.some.inj hc
    decide
  · rename_i hstatic
    rw [carried_classify (Bool.eq_false_iff.2 hstatic)]
    exact ⟨⟨h, fun hmem => hsep (Text.mem_of_mem_trim hmem)⟩, fun c hc => Text.getLast?_trimEndBy hc⟩

/-- An empty text is no segment of a path, so it takes nothing of one. -/
theorem not_mem_of_shares {pattern : List Segment} {path : Text} (h : Shares pattern (Path.segments path)) :
    .unrecognised [] ∉ pattern := by
  intro hmem
  obtain ⟨pre, post, rfl⟩ := List.append_of_mem hmem
  obtain ⟨before, block, after, hpath, -, rfl, -⟩ := shares_append_cons_iff.1 h
  have hempty : [] ∈ Path.segments path := by
    rw [hpath]
    exact List.mem_append_left _ (List.mem_append_right _ (List.mem_singleton_self _))
  exact (Path.mem_segments hempty).1 rfl

end Segment

namespace Pattern

/-- The pattern accepts some path. -/
def IsLive (text : Text) : Prop := ∃ path, Accepts text path

/-- Trimming leaves something of every segment of the pattern. -/
def KeepsSegments (text : Text) : Prop := ∀ s ∈ Path.segments (Path.normalize text), Text.trim s ≠ []

instance (text : Text) : Decidable (KeepsSegments text) := inferInstanceAs (Decidable (∀ _ ∈ _, _))

variable {text : Text}

/-- A literal is live if it is canonical. -/
theorem isLive_iff_isCanonical {l : Text} (h : (compileText text).pattern = .literal l) :
    IsLive text ↔ Path.isCanonical l = true := by
  constructor
  · rintro ⟨path, haccepts⟩
    rw [(accepts_iff_of_literal h path).1 haccepts]
    exact Path.isCanonical_normalize path
  · exact fun hl => ⟨l, (accepts_iff_of_literal h l).2 (Path.normalize_eq_self_iff.2 hl).symm⟩

/-- Trimming leaves the segment of a pattern that stands for all paths as it is. -/
theorem IsAll.keepsSegments (h : IsAll text) : KeepsSegments text := by
  rcases h with h | h
  · rw [KeepsSegments, h]
    decide
  · rw [KeepsSegments, h]
    decide

/-- A pattern that accepts a path has no segment that is trimmed to nothing. -/
theorem keepsSegments_of_accepts {path : Text} (haccepted : IsAccepted text) (h : Accepts text path) :
    KeepsSegments text := by
  intro s hs hblank
  have hroot : Path.normalize text ≠ ['/'] := by
    intro hroot
    rw [(normalize_eq_root_iff text).1 hroot] at hs
    cases hs
  rcases (accepts_iff_shares_of_ne_root haccepted hroot path).1 h with hall | hshares
  · exact hall.keepsSegments s hs hblank
  · refine Segment.not_mem_of_shares hshares ?_
    rw [ofPattern_normalize hroot]
    exact List.mem_map.2 ⟨s, hs, by rw [hblank]; rfl⟩

/-- The samples of a pattern's segments are the segments of a path, if trimming leaves something of each. -/
theorem exists_path_of_keepsSegments (hroot : Path.normalize text ≠ ['/']) (h : KeepsSegments text) :
    ∃ path, Path.segments (Path.normalize path) = (ofPattern (Path.normalize text)).map Segment.sample := by
  have hsample : ∀ t ∈ (ofPattern (Path.normalize text)).map Segment.sample,
      (t ≠ [] ∧ separator ∉ t) ∧ ∀ c, t.getLast? = some c → isBlank c = false := by
    rw [ofPattern_normalize hroot, List.map_map, List.forall_mem_map]
    exact fun s hs => Segment.sample_classify_trim (Path.mem_segments hs).2 (h s hs)
  have hne : (ofPattern (Path.normalize text)).map Segment.sample ≠ [] := by
    rw [Ne, List.map_eq_nil_iff]
    exact Segment.ofPattern_ne_nil _
  have hcanonical := Path.isCanonical_joinWith hne (fun t ht => (hsample t ht).1)
    (fun t ht => (hsample t (List.mem_of_getLast? ht)).2)
  refine ⟨separator :: Text.joinWith separator ((ofPattern (Path.normalize text)).map Segment.sample), ?_⟩
  rw [Path.normalize_eq_self_iff.2 hcanonical, Path.segments_joinWith (fun t ht => (hsample t ht).1)]

theorem isLive_of_keepsSegments (haccepted : IsAccepted text) (h : KeepsSegments text) : IsLive text := by
  by_cases hroot : Path.normalize text = ['/']
  · have hliteral : (compileText text).pattern = .literal ['/'] := by
      simp only [compileText, if_pos hroot]
    exact ⟨['/'], (accepts_iff_of_literal hliteral _).2 rfl⟩
  · obtain ⟨path, hpath⟩ := exists_path_of_keepsSegments hroot h
    refine ⟨path, (accepts_iff_shares_of_ne_root haccepted hroot path).2 (Or.inr ?_)⟩
    rw [hpath]
    exact Segment.shares_samples _

/-- A pattern that the engine refuses is live: it accepts itself. -/
theorem isLive_of_not_isAccepted (h : ¬IsAccepted text) : IsLive text :=
  (isLive_iff_isCanonical (pattern_of_not_isAccepted h)).2 (Path.isCanonical_normalize text)

/-- A pattern is live exactly if trimming leaves something of each of its segments, or the engine refuses it. A pattern
that becomes a literal is live exactly if the literal is canonical, and exactly if it accepts the literal. -/
theorem isLive_iff_keepsSegments (text : Text) :
    (IsLive text ↔ ¬IsAccepted text ∨ KeepsSegments text) ∧
      ∀ l, (compileText text).pattern = .literal l →
        (Path.isCanonical l = true ↔ IsLive text) ∧ (Accepts text l ↔ IsLive text) := by
  refine ⟨⟨?_, ?_⟩, fun l hl => ⟨(isLive_iff_isCanonical hl).symm, ?_⟩⟩
  · rintro ⟨path, h⟩
    by_cases haccepted : IsAccepted text
    · exact Or.inr (keepsSegments_of_accepts haccepted h)
    · exact Or.inl haccepted
  · intro h
    by_cases haccepted : IsAccepted text
    · exact isLive_of_keepsSegments haccepted (h.resolve_left (not_not_intro haccepted))
    · exact isLive_of_not_isAccepted haccepted
  · rw [isLive_iff_isCanonical hl, accepts_iff_of_literal hl, eq_comm, Path.normalize_eq_self_iff]

/-- White space before a segment does no harm. -/
theorem isLive_spaceBefore : IsLive (Text.ofString "/foo/ bar") ∧ Path.isCanonical (Text.ofString "/foo/bar") = true ∧
    Accepts (Text.ofString "/foo/ bar") (Text.ofString "/foo/bar") := by
  obtain ⟨hlive, hliteral⟩ := isLive_iff_keepsSegments (Text.ofString "/foo/ bar")
  have hkept : IsLive (Text.ofString "/foo/ bar") := hlive.2 (Or.inr (by decide +kernel))
  have hbar := hliteral (Text.ofString "/foo/bar") rfl
  exact ⟨hkept, hbar.1.2 hkept, hbar.2.2 hkept⟩

/-- A segment of white space alone leaves two separators side by side, and the pattern accepts no path. -/
theorem not_isLive_blankSegment : IsAccepted (Text.ofString "/foo/ /bar") ∧
    (compileText (Text.ofString "/foo/ /bar")).pattern = .literal (Text.ofString "/foo//bar") ∧
    ¬IsLive (Text.ofString "/foo/ /bar") ∧ Path.isCanonical (Text.ofString "/foo//bar") = false ∧
    ¬Accepts (Text.ofString "/foo/ /bar") (Text.ofString "/foo//bar") := by
  have haccepted : IsAccepted (Text.ofString "/foo/ /bar") := by decide +kernel
  have hdead : ¬IsLive (Text.ofString "/foo/ /bar") := by
    rintro ⟨path, h⟩
    exact absurd (keepsSegments_of_accepts haccepted h) (by decide +kernel)
  exact ⟨haccepted, rfl, hdead, by decide +kernel, fun h => hdead ⟨_, h⟩⟩

end Pattern

end PathRouting
