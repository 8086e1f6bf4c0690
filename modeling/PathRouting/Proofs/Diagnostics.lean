import PathRouting.Proofs.Acceptance
import PathRouting.Proofs.Meanings

/-!
# What compilation reports

The reports of a compilation, said on the texts of a pattern's segments and apart from the passes that make them. Statements:
compiling a pattern reports the segments that are outside the grammar, then the parameters that have occurred to their left,
if the pattern has a dynamic segment at all, and then that the engine refuses its expression, if it does; a list of route
paths reports what its members do, one after another.
-/

namespace PathRouting

open Segment (AreSeen ofPattern)

/-- An event as it is reported: how much it matters, what it says, and the values that it names. -/
def LogEvent.report (e : LogEvent) : Level × String × List (String × FieldValue) := (e.level, e.message, e.fields)

namespace Segment

/-! ## Repetitions -/

/-- The names that stand further left in a list too, once for each occurrence that has one to its left, in order. -/
def repetitions (names : List Text) : List Text :=
  (names.zipIdx.filter (fun occurrence => occurrence.1 ∈ names.take occurrence.2)).map Prod.fst

/-- A name at the end of a list is a repetition if the list has it already, and makes none of the others one. -/
theorem repetitions_concat (names : List Text) (name : Text) :
    repetitions (names ++ [name]) = repetitions names ++ if name ∈ names then [name] else [] := by
  have hleft : names.zipIdx.filter (fun occurrence => occurrence.1 ∈ (names ++ [name]).take occurrence.2) =
      names.zipIdx.filter (fun occurrence => occurrence.1 ∈ names.take occurrence.2) := by
    refine List.filter_congr (fun occurrence hoccurrence => ?_)
    have hlt : occurrence.2 < names.length := (List.mem_zipIdx' hoccurrence).1
    rw [List.take_append_of_le_length (Nat.le_of_lt hlt)]
  rw [repetitions, List.zipIdx_append, List.filter_append, List.map_append, hleft]
  congr 1
  rw [Nat.zero_add, List.zipIdx_singleton, List.filter_singleton, List.take_left]
  by_cases hname : name ∈ names
  · simp [hname]
  · simp [hname]

theorem mem_filterMap_param?_iff {segments : List Segment} {name : Text} :
    name ∈ segments.filterMap param? ↔ .param name ∈ segments := by
  rw [List.mem_filterMap]
  constructor
  · rintro ⟨k, hk, hname⟩
    cases k with
    | param other => rwa [← Option.some.inj hname]
    | _ => cases hname
  · exact fun h => ⟨_, h, rfl⟩

/-- The parameters that were seen before are the repetitions among some segments, behind those among the segments to their
left. -/
theorem repetitions_append_repeatedParams {seen : Std.TreeSet Text} {left : List Segment} (h : AreSeen seen left)
    (segments : List Segment) : repetitions (left.filterMap param?) ++ repeatedParams seen segments =
      repetitions ((left ++ segments).filterMap param?) := by
  induction segments generalizing seen left with
  | nil => rw [repeatedParams, List.append_nil, List.append_nil]
  | cons k rest ih =>
    rw [List.append_cons]
    cases k with
    | param name =>
      have hleft : (left ++ [Segment.param name]).filterMap param? = left.filterMap param? ++ [name] :=
        List.filterMap_append
      have hmem : seen.contains name = true ↔ name ∈ left.filterMap param? :=
        (h name).trans mem_filterMap_param?_iff.symm
      rw [repeatedParams]
      split
      · rename_i hseen
        have hstays : AreSeen seen (left ++ [.param name]) := fun other => by
          rw [h other, List.mem_append, List.mem_singleton, Segment.param.injEq]
          exact ⟨Or.inl, fun hother => hother.elim id (fun heq => heq ▸ (h name).1 hseen)⟩
        rw [← ih hstays, hleft, repetitions_concat, if_pos (hmem.1 hseen), List.append_assoc]
        rfl
      · rename_i hseen
        rw [← ih (h.declare (.param name)), hleft, repetitions_concat, if_neg (fun hname => hseen (hmem.2 hname)),
          List.append_nil]
        rfl
    | _ =>
      rw [← ih (h.declare _), List.filterMap_append]
      exact congrArg (fun names => repetitions names ++ repeatedParams seen rest) (List.append_nil _).symm

end Segment

namespace Pattern

/-! ## Reports -/

/-- The texts of a pattern's segments, without the white space around them. -/
def segmentTexts (text : Text) : List Text := (Path.segments (Path.normalize text)).map Text.trim

/-- The texts of segments that are outside the grammar, in order. -/
def unrecognisedTexts (text : Text) : List Text :=
  (segmentTexts text).filter (fun t => Segment.classify t = .unrecognised t)

/-- The names of the parameters of a pattern, in order. -/
def paramNames (text : Text) : List Text := (segmentTexts text).filterMap (fun t => (Segment.classify t).param?)

/-- A pattern with a segment that matches more than one text needs an expression. -/
def NeedsExpression (text : Text) : Prop := ∃ t ∈ segmentTexts text, (Segment.classify t).isDynamic = true

/-- The engine refuses the expression that is written for the segments of a pattern. -/
def IsRefused (text : Text) : Prop :=
  (Expression.ofSource (Segment.expressionSource ((segmentTexts text).map Segment.classify))).isOk = false

instance (text : Text) : Decidable (NeedsExpression text) := inferInstanceAs (Decidable (∃ t ∈ _, _ = true))

instance (text : Text) : Decidable (IsRefused text) := inferInstanceAs (Decidable (_ = false))

/-- What compiling a pattern has to report. -/
def diagnostics (text : Text) : List (Level × String × List (String × FieldValue)) :=
  (unrecognisedTexts text).map (fun t => (.warn, "unrecognised route path segment, matching it literally",
      [("segment", .text t), ("pattern", .text text)])) ++
    if NeedsExpression text then
      (Segment.repetitions (paramNames text)).map (fun name =>
          (.warn, "duplicate route parameter, later occurrence is not captured by name",
            [("param", .text name), ("pattern", .text text)])) ++
        if IsRefused text then
          [(.error, "route pattern rejected by the regex engine, falling back to a literal match",
            [("pattern", .text text)])]
        else []
    else []

/-- What compiling a declared route path has to report: nothing where it is an expression already. -/
def diagnosticsOf : RoutePath → List (Level × String × List (String × FieldValue))
  | .pattern text => diagnostics text
  | .expression _ => []

variable {text : Text}

theorem ofPattern_eq_map_segmentTexts (hroot : Path.normalize text ≠ ['/']) :
    ofPattern (Path.normalize text) = (segmentTexts text).map Segment.classify := by
  rw [ofPattern_normalize hroot, segmentTexts, List.map_map]
  rfl

/-- A text that is classified as one outside the grammar is carried as it is. -/
theorem filterMap_unrecognised? (texts : List Text) : (texts.map Segment.classify).filterMap Segment.unrecognised? =
    texts.filter (fun t => Segment.classify t = .unrecognised t) := by
  induction texts with
  | nil => rfl
  | cons t rest ih =>
    rw [List.map_cons, List.filterMap_cons, List.filter_cons, ih]
    cases hclass : Segment.classify t with
    | unrecognised carried =>
      obtain rfl : carried = t := by
        have hcarried := @Segment.carried_classify t (by rw [hclass]; rfl)
        rwa [hclass] at hcarried
      simp [Segment.unrecognised?]
    | _ => simp [Segment.unrecognised?]

theorem any_isDynamic_iff : ((segmentTexts text).map Segment.classify).any Segment.isDynamic ↔ NeedsExpression text := by
  rw [List.any_map, List.any_eq_true]
  rfl

/-- Nothing is reported for the root and for what stands for all paths. -/
theorem events_of_normalize (h : Path.normalize text ∈ [['/'], ['/', '*'], ['/', '*', '*']]) :
    (compileText text).events = [] := by
  rw [compileText]
  rcases List.mem_cons.1 h with hroot | h
  · rw [if_pos hroot]
  · have hall : Path.normalize text = ['/', '*'] ∨ Path.normalize text = ['/', '*', '*'] := by simpa using h
    simp only [if_pos hall]
    split <;> rfl

/-- What is reported for a pattern of some segments. -/
theorem events_of_segments (hroot : Path.normalize text ≠ ['/']) (hall : ¬IsAll text) :
    (compileText text).events = (unrecognisedTexts text).map (fun t => .unrecognisedSegment t text) ++
      if NeedsExpression text then
        (Segment.repetitions (paramNames text)).map (fun name => .duplicateParam name text) ++
          if IsRefused text then [.patternRejected text] else []
      else [] := by
  have hparams : (segmentTexts text).filterMap (fun t => (Segment.classify t).param?) =
      ((segmentTexts text).map Segment.classify).filterMap Segment.param? := by
    rw [List.filterMap_map]
    rfl
  have hrepeated : Segment.repeatedParams ∅ ((segmentTexts text).map Segment.classify) =
      Segment.repetitions (paramNames text) := by
    rw [paramNames, hparams]
    exact Segment.repetitions_append_repeatedParams Segment.areSeen_empty _
  rw [IsAll] at hall
  rw [compileText, unrecognisedTexts]
  simp only [if_neg hroot, if_neg hall, ofPattern_eq_map_segmentTexts hroot, filterMap_unrecognised?, hrepeated,
    any_isDynamic_iff]
  split
  · cases hsource : Expression.ofSource (Segment.expressionSource ((segmentTexts text).map Segment.classify)) with
    | ok e => simp [IsRefused, hsource, Except.isOk, Except.toBool]
    | error e => simp [IsRefused, hsource, Except.isOk, Except.toBool]
  · simp

/-- The segments of the root and of what stands for all paths are in the grammar and repeat no parameter, and the engine
accepts the expressions that would be written for them. -/
theorem quiet_of_normalize (h : Path.normalize text ∈ [['/'], ['/', '*'], ['/', '*', '*']]) :
    unrecognisedTexts text = [] ∧ paramNames text = [] ∧ ¬IsRefused text := by
  have htexts : segmentTexts text ∈ [[], [['*']], [['*', '*']]] := by
    rw [segmentTexts]
    simp only [List.mem_cons, List.not_mem_nil, or_false] at h
    rcases h with hroot | hall | hall
    · rw [hroot]
      decide +kernel
    · rw [hall]
      decide +kernel
    · rw [hall]
      decide +kernel
  have hquiet : ∀ texts ∈ [[], [['*']], [['*', '*']]],
      texts.filter (fun t => Segment.classify t = .unrecognised t) = [] ∧
        texts.filterMap (fun t => (Segment.classify t).param?) = [] ∧
        ¬(Expression.ofSource (Segment.expressionSource (texts.map Segment.classify))).isOk = false := by
    decide +kernel
  exact hquiet _ htexts

/-- So there is nothing to report for them. -/
theorem diagnostics_of_normalize (h : Path.normalize text ∈ [['/'], ['/', '*'], ['/', '*', '*']]) :
    diagnostics text = [] := by
  obtain ⟨hunrecognised, hparams, haccepted⟩ := quiet_of_normalize h
  rw [diagnostics, hunrecognised, hparams, if_neg haccepted]
  simp [Segment.repetitions]

/-- Compiling a pattern reports what it has to. -/
theorem map_report_events (text : Text) : (compileText text).events.map LogEvent.report = diagnostics text := by
  by_cases hspecial : Path.normalize text ∈ [['/'], ['/', '*'], ['/', '*', '*']]
  · rw [diagnostics_of_normalize hspecial, events_of_normalize hspecial]
    rfl
  · simp only [List.mem_cons, List.not_mem_nil, or_false, not_or] at hspecial
    rw [events_of_segments hspecial.1 (fun hall => hall.elim hspecial.2.1 hspecial.2.2), diagnostics, List.map_append,
      List.map_map]
    congr 1
    split
    · rw [List.map_append, List.map_map]
      congr 1
      split
      · rfl
      · rfl
    · rfl

/-- A pattern that needs an expression which the engine refuses is taken as it is written. -/
theorem pattern_of_isRefused (hneeds : NeedsExpression text) (hrefused : IsRefused text) :
    (compileText text).pattern = .literal (Path.normalize text) := by
  by_cases hspecial : Path.normalize text ∈ [['/'], ['/', '*'], ['/', '*', '*']]
  · exact absurd hrefused (quiet_of_normalize hspecial).2.2
  · simp only [List.mem_cons, List.not_mem_nil, or_false, not_or] at hspecial
    refine pattern_of_not_isAccepted (fun haccepted => haccepted ?_)
    rw [events_of_segments hspecial.1 (fun hall => hall.elim hspecial.2.1 hspecial.2.2), if_pos hneeds, if_pos hrefused]
    simp

/-- Compiling a pattern reports what it has to, in order and nothing else: each text of a segment that is outside the
grammar; then, if a segment is dynamic, each occurrence of a parameter that has occurred to its left; and then that the
engine refuses the expression, in which case the pattern is taken as it is written. Nothing is reported for the root and for
what stands for all paths. A list of route paths reports what its members do, one after another. -/
theorem reports_compile :
    (∀ text, (compile (.pattern text)).events.map LogEvent.report = diagnostics text ∧
      (NeedsExpression text → IsRefused text → (compile (.pattern text)).pattern = .literal (Path.normalize text)) ∧
      (Path.normalize text ∈ [['/'], ['/', '*'], ['/', '*', '*']] → (compile (.pattern text)).events = [])) ∧
      ∀ paths, (compileAll paths).2.map LogEvent.report = paths.flatMap diagnosticsOf := by
  refine ⟨fun text => ⟨map_report_events text, pattern_of_isRefused, events_of_normalize⟩, fun paths => ?_⟩
  rw [compileAll, List.flatMap_map, List.map_flatMap]
  refine List.flatMap_congr (fun path _ => ?_)
  cases path with
  | pattern text => exact map_report_events text
  | expression e => rfl

/-- A pattern with a segment outside the grammar on either side of a parameter that occurs twice, and one that stands for
all paths. -/
theorem reports_compile_repeated :
    (compileAll [.pattern (Text.ofString "/:id/a.b/ :id/%/:id"), .pattern (Text.ofString "**")]).2.map LogEvent.report =
      [(.warn, "unrecognised route path segment, matching it literally",
          [("segment", .text (Text.ofString "a.b")), ("pattern", .text (Text.ofString "/:id/a.b/ :id/%/:id"))]),
        (.warn, "unrecognised route path segment, matching it literally",
          [("segment", .text (Text.ofString "%")), ("pattern", .text (Text.ofString "/:id/a.b/ :id/%/:id"))]),
        (.warn, "duplicate route parameter, later occurrence is not captured by name",
          [("param", .text (Text.ofString "id")), ("pattern", .text (Text.ofString "/:id/a.b/ :id/%/:id"))]),
        (.warn, "duplicate route parameter, later occurrence is not captured by name",
          [("param", .text (Text.ofString "id")), ("pattern", .text (Text.ofString "/:id/a.b/ :id/%/:id"))])] ∧
      (compile (.pattern (Text.ofString "**"))).events = [] := by
  refine ⟨?_, (reports_compile.1 (Text.ofString "**")).2.2 (by decide +kernel)⟩
  rw [reports_compile.2]
  decide +kernel

end Pattern

end PathRouting
