import PathRouting.Proofs.Meanings

/-!
# Trailing separators

The expression of a pattern allows for one separator at the end. Statements, on texts of any kind: a separator that is put
behind a text which does not end in one changes nothing about the outcome of a match, although a run of characters may
take it; and an outcome has the declared parameters, each with characters of one segment.
-/

namespace PathRouting

open PathRouting.Path (separator)
open Segment (ofPattern)

/-! ## Stretches -/

/-- Behind a text with one more character at its end, every stretch leaves that character, but for the one that takes the
whole text. -/
theorem stretches_concat (x c : Char) (t : Text) : stretches x (t ++ [c]) =
    (if x ∈ t ++ [c] then [] else [(t ++ [c], [])]) ++ (stretches x t).map (fun q => (q.1, q.2 ++ [c])) := by
  induction t with
  | nil =>
    by_cases hc : c = x
    · simp [stretches, hc]
    · simp [stretches, hc, Ne.symm hc]
  | cons d t ih =>
    rw [List.cons_append, stretches, stretches, ih]
    by_cases hd : d = x
    · simp [hd]
    · by_cases hx : x ∈ t ++ [c]
      · simp [hd, hx]
      · simp [hd, hx, Ne.symm hd]

/-- The longest stretch of a text without the character is the text. -/
theorem exists_stretches_eq_cons {x : Char} {t : Text} (hne : t ≠ []) (hx : x ∉ t) :
    ∃ rest, stretches x t = (t, []) :: rest := by
  induction t with
  | nil => exact absurd rfl hne
  | cons c t ih =>
    have hc : c ≠ x := fun h => hx (h ▸ List.mem_cons_self ..)
    rw [stretches, if_neg hc]
    cases t with
    | nil => exact ⟨[], rfl⟩
    | cons d t =>
      obtain ⟨rest, hrest⟩ := ih (List.cons_ne_nil d t) (fun h => hx (List.mem_cons_of_mem c h))
      exact ⟨_, by rw [hrest, List.map_cons, List.cons_append]⟩

namespace Part

/-! ## Outcomes -/

/-- Only groups of one segment's characters have names. -/
def NamesSegments : Part → Prop
  | .run (some _) .line => False
  | _ => True

/-- The named pieces of the first reading. -/
def outcome (ps : List Part) (t : Text) : Option Params := (readings ps t).head?.map (named ps)

/-- The outcome behind a piece that a part takes, with the piece if the part has a name. -/
def outcomeBehind (p : Part) (ps : List Part) (q : Text × Text) : Option Params :=
  (outcome ps q.2).map ((p.name?.map (·, q.1)).toList ++ ·)

/-- The outcome of parts is that behind the first piece of the first part behind which there is one. -/
theorem outcome_cons (p : Part) (ps : List Part) (rest : Text) :
    outcome (p :: ps) (separator :: rest) = (p.pieces rest).findSome? (outcomeBehind p ps) := by
  rw [outcome, readings, if_pos rfl, List.head?_flatMap, List.map_findSome?]
  refine congrArg (List.findSome? · _) (funext fun q => ?_)
  rw [Function.comp_apply, List.head?_map, Option.map_map, outcomeBehind, outcome, Option.map_map]
  rfl

/-! ## A separator more -/

/-- A text leaves a separator at the end. -/
theorem pieces_text_concat {u : Text} (hu : separator ∉ u) (rest : Text) :
    (text u).pieces (rest ++ [separator]) = ((text u).pieces rest).map (fun q => (q.1, q.2 ++ [separator])) := by
  have hstarts : u <+: rest ++ [separator] ↔ u <+: rest := by
    rw [List.prefix_concat_iff, or_iff_right]
    rintro rfl
    exact hu (List.mem_append_right _ (List.mem_singleton_self _))
  rw [pieces, pieces]
  by_cases h : u <+: rest
  · rw [if_pos (hstarts.2 h), if_pos h, List.drop_append_of_le_length h.length_le]
    rfl
  · rw [if_neg (fun h' => h (hstarts.1 h')), if_neg h]
    rfl

/-- A run of one segment's characters leaves a separator at the end. -/
theorem pieces_segment_concat (name : Option Text) (rest : Text) : (run name .segment).pieces (rest ++ [separator]) =
    ((run name .segment).pieces rest).map (fun q => (q.1, q.2 ++ [separator])) := by
  have hmem : Span.segment.excluded ∈ rest ++ [separator] := List.mem_append_right _ (List.mem_singleton_self _)
  rw [pieces, pieces, stretches_concat, if_pos hmem, List.nil_append]

/-- What a piece leaves ends as the text does. -/
theorem getLast?_of_mem_pieces {p : Part} {rest : Text} {q : Text × Text} (hq : q ∈ p.pieces rest)
    (h : rest.getLast? ≠ some separator) : q.2.getLast? ≠ some separator := by
  intro hlast
  rw [← append_of_mem_pieces hq, List.getLast?_append, hlast] at h
  exact h rfl

variable {p : Part} {ps : List Part} {rest : Text}

/-- If a separator more changes nothing behind the pieces, it changes nothing before them. A run of a line's characters
may take it, but then it can take the text without it, and no name is given to either. -/
theorem findSome?_pieces_concat (hsound : p.IsSound) (hnames : p.NamesSegments) (hrest : rest ≠ [])
    (h : ∀ q ∈ p.pieces rest, outcome ps (q.2 ++ [separator]) = outcome ps q.2) :
    (p.pieces (rest ++ [separator])).findSome? (outcomeBehind p ps) =
      (p.pieces rest).findSome? (outcomeBehind p ps) := by
  have hleft : ((p.pieces rest).map (fun q => (q.1, q.2 ++ [separator]))).findSome? (outcomeBehind p ps) =
      (p.pieces rest).findSome? (outcomeBehind p ps) := by
    rw [List.findSome?_map, ← List.head?_filterMap, ← List.head?_filterMap]
    refine congrArg List.head? (List.filterMap_congr (fun q hq => ?_))
    rw [Function.comp_apply, outcomeBehind, outcomeBehind, h q hq]
  cases p with
  | text u => rw [pieces_text_concat hsound, hleft]
  | run name span =>
    cases span with
    | segment => rw [pieces_segment_concat, hleft]
    | line =>
      obtain rfl : name = none := by
        cases name with
        | none => rfl
        | some name => exact absurd hnames id
      rw [pieces] at hleft ⊢
      rw [pieces, stretches_concat]
      by_cases hline : Span.line.excluded ∈ rest ++ [separator]
      · rw [if_pos hline, List.nil_append, hleft]
      · rw [if_neg hline, List.singleton_append, List.findSome?_cons, hleft]
        cases ps with
        | cons p' ps => rfl
        | nil =>
          have hline' : Span.line.excluded ∉ rest := fun hmem => hline (List.mem_append_left _ hmem)
          obtain ⟨others, hothers⟩ := exists_stretches_eq_cons hrest hline'
          rw [hothers, List.findSome?_cons]
          rfl

/-- A separator behind a text that does not end in one changes nothing about the outcome. -/
theorem outcome_concat (hsound : ∀ p ∈ ps, p.IsSound) (hnames : ∀ p ∈ ps, p.NamesSegments)
    (htext : ps.getLast? ≠ some (.text [])) {t : Text} (ht : t.getLast? ≠ some separator) :
    outcome ps (t ++ [separator]) = outcome ps t := by
  induction ps generalizing t with
  | nil =>
    have hone : t ≠ [separator] := by
      rintro rfl
      exact ht rfl
    simp [outcome, readings, hone]
  | cons p ps ih =>
    cases t with
    | nil =>
      have hne : p :: ps ≠ [.text []] := by
        intro h
        rw [h] at htext
        exact htext rfl
      rw [List.nil_append, outcome, readings_separator (List.cons_ne_nil p ps) hne]
      rfl
    | cons c rest =>
      by_cases hc : c = separator
      · subst hc
        have hrest : rest ≠ [] := by
          rintro rfl
          exact ht rfl
        have hlast : rest.getLast? ≠ some separator := by
          rwa [List.getLast?_cons_of_ne_nil hrest] at ht
        have htail : ps.getLast? ≠ some (.text []) := by
          intro h
          rw [List.getLast?_cons, h] at htext
          exact htext rfl
        rw [List.cons_append, outcome_cons, outcome_cons]
        refine findSome?_pieces_concat (hsound p (List.mem_cons_self ..)) (hnames p (List.mem_cons_self ..)) hrest ?_
        exact fun q hq => ih (fun r hr => hsound r (List.mem_cons_of_mem _ hr))
          (fun r hr => hnames r (List.mem_cons_of_mem _ hr)) htail (getLast?_of_mem_pieces hq hlast)
      · simp [outcome, readings, hc]

/-! ## Names and pieces -/

/-- A reading names what has a name, each with characters of one segment. -/
theorem of_mem_readings (hnames : ∀ p ∈ ps, p.NamesSegments) {t : Text} {bs : List Text} (h : bs ∈ readings ps t) :
    (named ps bs).map (·.1) = ps.filterMap name? ∧ ∀ b ∈ named ps bs, b.2 ≠ [] ∧ separator ∉ b.2 := by
  induction ps generalizing t bs with
  | nil => exact ⟨rfl, fun b hb => absurd hb List.not_mem_nil⟩
  | cons p ps ih =>
    obtain ⟨rest, q, bs', -, hq, hbs', rfl⟩ := exists_of_mem_readings_cons h
    obtain ⟨hfst, hpieces⟩ := ih (fun r hr => hnames r (List.mem_cons_of_mem _ hr)) hbs'
    rw [named, List.map_append, hfst]
    cases p with
    | text u => exact ⟨rfl, hpieces⟩
    | run name span =>
      cases name with
      | none => exact ⟨rfl, hpieces⟩
      | some name =>
        cases span with
        | segment => exact ⟨rfl, List.forall_mem_cons.2 ⟨(of_mem_stretches hq).1, hpieces⟩⟩
        | line => exact absurd (hnames _ (List.mem_cons_self ..)) id

end Part

/-- The groups of a pattern's parameters are around one segment's characters. -/
theorem Segment.namesSegments_parts (pattern : List Segment) (seen : Std.TreeSet Text) :
    ∀ p ∈ parts seen pattern, p.NamesSegments := by
  induction pattern generalizing seen with
  | nil => exact fun p hp => absurd hp List.not_mem_nil
  | cons k rest ih =>
    refine List.forall_mem_cons.2 ⟨?_, ih _⟩
    cases k with
    | param name =>
      rw [Segment.part]
      split
      · trivial
      · trivial
    | _ => trivial

namespace Pattern

/-- What a compiled expression yields is the outcome of the pattern's parts. -/
theorem matches?_eq_outcome {text : Text} {e : Expression} (h : (compileText text).pattern = .expression e) (t : Text) :
    (expression e).matches? t = Part.outcome (Segment.parts ∅ (ofPattern (Path.normalize text))) t := by
  rw [eq_ofTree_of_ofSource (ofSource_of_expression h).2]
  exact Part.params?_treesBetween _ _ t

/-- A separator behind a text that does not end in one changes nothing about what a compiled expression yields. Whatever
the text is, the params are the declared ones, in the order of their first occurrences, each with a text that is not empty
and holds no separator. -/
theorem matches?_append_separator {text : Text} (h : (compileText text).pattern.isDynamic = true) (t : Text) :
    (t.getLast? ≠ some separator →
      (compileText text).pattern.matches? (t ++ [separator]) = (compileText text).pattern.matches? t) ∧
    ∀ params, (compileText text).pattern.matches? t = some params →
      params.map (·.1) = Segment.declaredParams (ofPattern (Path.normalize text)) ∧
        ∀ b ∈ params, b.2 ≠ [] ∧ separator ∉ b.2 := by
  cases hpattern : (compileText text).pattern with
  | literal l => rw [hpattern] at h; cases h
  | all => rw [hpattern] at h; cases h
  | expression e =>
    have hroot := ne_root_of_isDynamic (ofSource_of_expression hpattern).1
    have hnames := Segment.namesSegments_parts (ofPattern (Path.normalize text)) ∅
    have hsound := Segment.IsSound.parts (Segment.ofPattern_isSound (Path.normalize text)) ∅
    rw [matches?_eq_outcome hpattern, matches?_eq_outcome hpattern]
    refine ⟨Part.outcome_concat hsound hnames (getLast?_parts_ofPattern hroot ∅), fun params hparams => ?_⟩
    obtain ⟨bs, hbs, rfl⟩ := Option.map_eq_some_iff.1 hparams
    rw [← Segment.filterMap_name?_eq_declaredParams]
    exact Part.of_mem_readings hnames (List.mem_of_head? hbs)

/-- A run and a parameter on a text with separators side by side. -/
theorem matches?_runThenParam : (compileText (Text.ofString "/docs/**/:name")).pattern.matches?
      (Text.ofString "/docs//a/b\nc" ++ [separator]) = some [(Text.ofString "name", Text.ofString "b\nc")] := by
  obtain ⟨hsame, -⟩ := @matches?_append_separator (Text.ofString "/docs/**/:name") (by decide +kernel)
    (Text.ofString "/docs//a/b\nc")
  rw [hsame (by decide +kernel)]
  decide +kernel

end Pattern

end PathRouting
