import PathRouting.Proofs.Acceptance

/-!
# From one segment to a run

A pattern with `*` for one segment is widened when that becomes `**`, for a run of segments. Statements: the widened
pattern has the same segments but for this one; on a path that the first pattern accepts the widened one fails only where
the run would have to take a line feed, which is no character of a run; so it does not accept all that the first one
accepts.
-/

namespace PathRouting

open PathRouting.Path (separator)
open Segment (ofPattern)

namespace Pattern

/-! ## Standing for all paths -/

variable {text : Text}

/-- What stands for all paths is one piece, with no white space around it. -/
theorem IsAll.exists_piece (h : IsAll text) : ∃ whole, Text.splitAt separator ((Path.normalize text).drop 1) = [whole] ∧
    Text.trim whole = whole := by
  rcases h with h | h
  · exact ⟨['*'], by rw [h]; rfl, rfl⟩
  · exact ⟨['*', '*'], by rw [h]; rfl, rfl⟩

theorem isAll_of_piece (h : Text.splitAt separator ((Path.normalize text).drop 1) = [['*', '*']]) : IsAll text := by
  have hjoin := Text.joinWith_splitAt separator ((Path.normalize text).drop 1)
  rw [h, Path.normalize_eq, List.drop_succ_cons, List.drop_zero] at hjoin
  rw [IsAll, Path.normalize_eq, ← hjoin]
  exact Or.inr rfl

/-! ## Widening -/

/-- The second pattern is the first one with `**` in place of a segment `*`, which may have white space around it. -/
def Widens (narrow wide : Text) : Prop :=
  ∃ before left right after, (∀ c ∈ left, isBlank c = true) ∧ (∀ c ∈ right, isBlank c = true) ∧
    Text.splitAt separator narrow = before ++ (left ++ ['*'] ++ right) :: after ∧
    Text.splitAt separator wide = before ++ (left ++ ['*', '*'] ++ right) :: after

/-- A text with a part in one of its pieces is the part with what is around it. -/
theorem eq_around {text part left right : Text} {before after : List Text}
    (hpieces : Text.splitAt separator text = before ++ (left ++ part ++ right) :: after) :
    text = Text.joinWith separator (before ++ [left]) ++ part ++ Text.joinWith separator (right :: after) ∧
      Text.splitAt separator (Text.joinWith separator (before ++ [left])) = before ++ [left] ∧
      Text.splitAt separator (Text.joinWith separator (right :: after)) = right :: after := by
  have hsep : ∀ p ∈ before ++ (left ++ part ++ right) :: after, separator ∉ p :=
    fun p hp => Text.not_mem_of_mem_splitAt (hpieces ▸ hp)
  rw [List.forall_mem_append, List.forall_mem_cons, List.mem_append, List.mem_append] at hsep
  obtain ⟨hbefore, hmiddle, hafter⟩ := hsep
  refine ⟨?_, Text.splitAt_joinWith (by simp) ?_, Text.splitAt_joinWith (by simp) ?_⟩
  · have hjoin := Text.joinWith_splitAt separator text
    rw [hpieces, ← Text.joinWith_append_joinWith, ← Text.joinWith_append_joinWith, Text.joinWith_singleton] at hjoin
    exact hjoin.symm
  · rw [List.forall_mem_append, List.forall_mem_singleton]
    exact ⟨hbefore, fun h => hmiddle (Or.inl (Or.inl h))⟩
  · rw [List.forall_mem_cons]
    exact ⟨fun h => hmiddle (Or.inr h), hafter⟩

theorem star_isPlain : '*' ≠ separator ∧ isBlank '*' = false := by decide

/-- The segments of a widened pattern are those of the first one but for the widened one, and what stands for all paths
still does. A pattern that is one piece, and `*` once this is trimmed, has nothing around the `*`. -/
theorem Widens.exists_segments {narrow wide : Text} (h : Widens narrow wide) :
    ∃ pre post, ofPattern (Path.normalize narrow) = pre ++ .wildcard :: post ∧
      ofPattern (Path.normalize wide) = pre ++ .glob :: post ∧ (IsAll narrow → IsAll wide) := by
  obtain ⟨before, left, right, after, hleft, hright, hnarrow, hwide⟩ := h
  obtain ⟨hnarrow, hbefore, hafter⟩ := eq_around hnarrow
  obtain ⟨hwide, -, -⟩ := eq_around hwide
  obtain ⟨xs, x, y, ys, hx, hy, hpieces⟩ := Path.exists_splitAt_normalize hbefore hleft hafter hright
  have hstar : ∀ c ∈ ['*'], c ≠ separator ∧ isBlank c = false := List.forall_mem_singleton.2 star_isPlain
  have hstars : ∀ c ∈ ['*', '*'], c ≠ separator ∧ isBlank c = false := List.forall_mem_cons.2 ⟨star_isPlain, hstar⟩
  have hone := hpieces ['*'] (List.cons_ne_nil _ _) hstar
  have hrun := hpieces ['*', '*'] (List.cons_ne_nil _ _) hstars
  rw [← hnarrow] at hone
  rw [← hwide] at hrun
  have htrim : Text.trim (x ++ ['*'] ++ y) = ['*'] :=
    Text.trim_append_of_blank (List.cons_ne_nil _ _) (fun c hc => (hstar c hc).2) hx hy
  have htrim' : Text.trim (x ++ ['*', '*'] ++ y) = ['*', '*'] :=
    Text.trim_append_of_blank (List.cons_ne_nil _ _) (fun c hc => (hstars c hc).2) hx hy
  refine ⟨xs.map (fun piece => Segment.classify (Text.trim piece)),
    ys.map (fun piece => Segment.classify (Text.trim piece)), ?_, ?_, ?_⟩
  · rw [ofPattern, hone, List.map_append, List.map_cons, htrim]
    rfl
  · rw [ofPattern, hrun, List.map_append, List.map_cons, htrim']
    rfl
  · intro hall
    obtain ⟨whole, hwhole, htrimmed⟩ := hall.exists_piece
    rw [hwhole] at hone
    obtain ⟨rfl, hrest⟩ | ⟨-, hrest⟩ := List.append_eq_singleton_iff.1 hone.symm
    · obtain ⟨hmiddle, rfl⟩ := List.cons.inj hrest
      rw [← hmiddle, htrim] at htrimmed
      have hlength := congrArg List.length htrimmed
      simp only [List.length_append, List.length_singleton] at hlength
      obtain rfl : x = [] := List.length_eq_zero_iff.1 (by omega)
      obtain rfl : y = [] := List.length_eq_zero_iff.1 (by omega)
      exact isAll_of_piece hrun
    · exact absurd hrest (List.cons_ne_nil _ _)

variable {narrow wide : Text}

/-- On a path that a pattern accepts, the widened pattern accepts it too exactly if, between what the segments before and
after take, there is a run without line feeds; as there always is where the path has no line feed. -/
theorem accepts_iff_of_widens (h : Widens narrow wide) (hnarrow : IsAccepted narrow) (hwide : IsAccepted wide) :
    ∃ pre post, ofPattern (Path.normalize narrow) = pre ++ .wildcard :: post ∧
      ofPattern (Path.normalize wide) = pre ++ .glob :: post ∧ ∀ path, Accepts narrow path →
        (Accepts wide path ↔ IsAll wide ∨ ∃ before block after,
          Path.segments (Path.normalize path) = before ++ block ++ after ∧ Segment.Shares pre before ∧
            (block ≠ [] ∧ ∀ s ∈ block, '\n' ∉ s) ∧ Segment.Shares post after) ∧
        ('\n' ∉ path → Accepts wide path) := by
  obtain ⟨pre, post, hone, hrun, hall⟩ := h.exists_segments
  refine ⟨pre, post, hone, hrun, fun path haccepts => ?_⟩
  have hwidened := accepts_iff_shares hwide (by rw [hrun]; simp [Segment.isDynamic]) path
  rw [hrun, Segment.shares_append_cons_iff] at hwidened
  refine ⟨hwidened, fun hline => hwidened.2 ?_⟩
  rw [accepts_iff_shares hnarrow (by rw [hone]; simp [Segment.isDynamic]), hone, Segment.shares_append_cons_iff] at haccepts
  refine haccepts.imp hall ?_
  rintro ⟨before, block, after, hpath, hbefore, ⟨s, rfl⟩, hafter⟩
  refine ⟨before, [s], after, hpath, hbefore, ⟨List.cons_ne_nil s [], fun t ht hbreak => hline ?_⟩, hafter⟩
  refine Path.mem_of_mem_segments (s := t) ?_ hbreak
  rw [hpath]
  exact List.mem_append_left _ (List.mem_append_right _ ht)

theorem widens_below : Widens (Text.ofString "/x/*") (Text.ofString "/x/**") :=
  ⟨[[], ['x']], [], [], [], fun _ h => absurd h List.not_mem_nil, fun _ h => absurd h List.not_mem_nil, rfl, rfl⟩

/-- A path without line feeds below `/x`. -/
theorem accepts_below : Accepts (Text.ofString "/x/*") (Text.ofString "/x/a") ∧
    Accepts (Text.ofString "/x/**") (Text.ofString "/x/a") := by
  obtain ⟨_, _, _, _, hpaths⟩ := accepts_iff_of_widens widens_below (by decide +kernel) (by decide +kernel)
  have haccepts : Accepts (Text.ofString "/x/*") (Text.ofString "/x/a") := by decide +kernel
  exact ⟨haccepts, (hpaths _ haccepts).2 (by decide)⟩

/-- A widened pattern does not accept all that the pattern accepts: a run takes no line feed, and one segment may. -/
theorem not_accepts_of_widens : ¬∀ narrow wide path : Text, Widens narrow wide → IsAccepted narrow → IsAccepted wide →
    Accepts narrow path → Accepts wide path := by
  intro hall
  have hwide := hall _ _ (Text.ofString "/x/a\nb") widens_below (by decide +kernel) (by decide +kernel) (by decide +kernel)
  exact absurd hwide (by decide +kernel)

end Pattern

end PathRouting
