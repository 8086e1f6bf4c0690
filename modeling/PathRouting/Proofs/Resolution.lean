import PathRouting.Proofs.Splits
import PathRouting.Route

/-!
# Resolution by segments

What a path resolves to, said on its segments: the first declared pattern that admits them, with the parameters of the
greedy split. The main statement is that resolution does exactly this for the patterns whose expressions are accepted.
-/

namespace PathRouting

open PathRouting.Path (separator)
open Segment (IsSplit IsGreedySplit bindings splits ofPattern)

/-- A declared pattern admits a path of some segments with some params. The pattern of the root admits the path without
segments, the patterns `*` and `**` alone admit every path, and any other shares out the segments among its own. -/
def Pattern.Admits (text : Text) (path : List Text) (params : Params) : Prop :=
  let normalized := Path.normalize text
  if normalized = ['/'] then path = [] ∧ params = []
  else if normalized = ['/', '*'] ∨ normalized = ['/', '*', '*'] then params = []
  else ∃ blocks, IsGreedySplit (ofPattern normalized) path blocks ∧ params = bindings (ofPattern normalized) blocks

/-- The outcome of resolving a path of some segments: the first of the declared patterns that admits it, or nothing where
none does. -/
def Pattern.ResolvesTo (declared : List Text) (path : List Text) : Option Match → Prop
  | some m =>
    (∃ text, declared[m.route]? = some text ∧ Admits text path m.params) ∧
      ∀ (i : Nat) (text : Text), i < m.route → declared[i]? = some text → ∀ params, ¬Admits text path params
  | none => ∀ text ∈ declared, ∀ params, ¬Admits text path params

/-- The route of a declared pattern, with its loader if it has one. -/
def Route.ofPattern (d : Text × Option Loader) : Route := ⟨(Pattern.compile (.pattern d.1)).pattern, d.2⟩

namespace Segment

/-- A segment that is not dynamic carries its text. -/
theorem carried_classify {t : Text} (h : (classify t).isDynamic = false) : (classify t).carried = t := by
  unfold classify at h ⊢
  split at h
  · simp [isDynamic] at h
  · simp [isDynamic] at h
  · split at h
    · simp [isDynamic] at h
    · rename_i hname
      rw [if_neg hname]
      rfl
  · split
    · rfl
    · rfl

/-- A segment that is not dynamic takes its text alone. -/
theorem takes_iff_of_not_isDynamic {k : Segment} (h : k.isDynamic = false) (block : List Text) :
    k.Takes block ↔ block = [k.carried] := by
  cases k with
  | literal t => exact Iff.rfl
  | unrecognised t => exact Iff.rfl
  | _ => simp [isDynamic] at h

variable {pattern : List Segment}

/-- Without dynamic segments there is one split at most, each text for itself. -/
theorem isSplit_iff_of_not_isDynamic (h : pattern.any isDynamic = false) (path : List Text)
    (blocks : List (List Text)) :
    IsSplit pattern path blocks ↔ pattern.map carried = path ∧ blocks = pattern.map (fun k => [k.carried]) := by
  induction pattern generalizing path blocks with
  | nil =>
    rw [IsSplit, List.forall₂_nil_left_iff]
    constructor
    · rintro ⟨rfl, rfl⟩
      exact ⟨rfl, rfl⟩
    · rintro ⟨rfl, rfl⟩
      exact ⟨rfl, rfl⟩
  | cons k pattern ih =>
    rw [List.any_cons, Bool.or_eq_false_iff] at h
    rw [IsSplit, List.map_cons, List.map_cons]
    constructor
    · rintro ⟨hall, rfl⟩
      cases hall with
      | cons htakes hall =>
        obtain rfl := (takes_iff_of_not_isDynamic h.1 _).1 htakes
        obtain ⟨hpath, hblocks⟩ := (ih h.2 _ _).1 ⟨hall, rfl⟩
        rw [List.flatten_cons, hpath, ← hblocks]
        exact ⟨rfl, rfl⟩
    · rintro ⟨rfl, rfl⟩
      obtain ⟨hall, hflat⟩ := (ih h.2 (pattern.map carried) _).2 ⟨rfl, rfl⟩
      refine ⟨List.Forall₂.cons ((takes_iff_of_not_isDynamic h.1 _).2 rfl) hall, ?_⟩
      rw [List.flatten_cons, hflat]
      rfl

/-- Without dynamic segments no parameter is bound. -/
theorem bindings_of_not_isDynamic (h : pattern.any isDynamic = false) (blocks : List (List Text)) :
    bindings pattern blocks = [] := by
  induction pattern generalizing blocks with
  | nil => rfl
  | cons k pattern ih =>
    rw [List.any_cons, Bool.or_eq_false_iff] at h
    cases blocks with
    | nil => cases k <;> rfl
    | cons block blocks =>
      cases k with
      | literal t => exact ih h.2 blocks
      | unrecognised t => exact ih h.2 blocks
      | _ => exact absurd h.1 (by simp [isDynamic])

theorem splits_nil_of_ne_nil (h : pattern ≠ []) : splits pattern [] = [] := by
  rw [List.eq_nil_iff_forall_not_mem]
  intro bs hbs
  obtain ⟨hall, hflat⟩ := mem_splits.1 hbs
  cases hall with
  | nil => exact h rfl
  | @cons k block _ _ htakes _ =>
    rw [List.flatten_cons, List.append_eq_nil_iff] at hflat
    rw [hflat.1] at htakes
    cases k <;> simp [Takes] at htakes

end Segment

namespace Pattern

/-- The segments of a normalised path. -/
theorem areSegments_normalize (path : Text) : Segment.AreSegments (Path.segments (Path.normalize path)) :=
  fun _ hs => Path.mem_segments hs

/-- A normalised path is the root, or its segments each behind a separator. -/
theorem normalize_eq_pathOf {path : Text} (h : Path.segments (Path.normalize path) ≠ []) :
    Path.normalize path = Segment.pathOf (Path.segments (Path.normalize path)) := by
  rw [Segment.pathOf, ← Text.cons_joinWith h]
  exact Path.normalize_eq_join_segments path

theorem normalize_eq_root_iff (path : Text) :
    Path.normalize path = ['/'] ↔ Path.segments (Path.normalize path) = [] := by
  constructor
  · intro h
    rw [h]
    decide
  · intro h
    rw [Path.normalize_eq_join_segments, h]
    rfl

theorem ne_root_of_isDynamic {text : Text} (h : (ofPattern (Path.normalize text)).any Segment.isDynamic) :
    Path.normalize text ≠ ['/'] := by
  intro hroot
  rw [hroot] at h
  exact absurd h (by decide)

/-- The segments of a pattern are its trimmed pieces, classified. -/
theorem ofPattern_normalize {text : Text} (hroot : Path.normalize text ≠ ['/']) :
    ofPattern (Path.normalize text) =
      (Path.segments (Path.normalize text)).map (fun piece => Segment.classify (Text.trim piece)) := by
  rw [ofPattern, Path.splitAt_normalize (fun h => hroot ((normalize_eq_root_iff text).2 h))]

/-- Trimming leaves something of the last segment of a normalised path. -/
theorem trim_getLast?_segments {path s : Text} (h : (Path.segments (Path.normalize path)).getLast? = some s) :
    Text.trim s ≠ [] := by
  have hne : s ≠ [] := (areSegments_normalize path s (List.mem_of_getLast? h)).1
  obtain ⟨c, hc⟩ := Option.isSome_iff_exists.1 (List.getLast?_isSome.2 hne)
  exact Text.trim_ne_nil hc (Path.isBlank_getLast?_segments h hc)

/-- The expression of a pattern does not end in an empty text. -/
theorem getLast?_parts_ofPattern {text : Text} (hroot : Path.normalize text ≠ ['/']) (seen : Std.TreeSet Text) :
    (Segment.parts seen (ofPattern (Path.normalize text))).getLast? ≠ some (.text []) := by
  intro h
  obtain ⟨k, seen', hk, hpart⟩ := Segment.exists_getLast?_of_parts h
  rw [ofPattern_normalize hroot, List.getLast?_map, Option.map_eq_some_iff] at hk
  obtain ⟨piece, hpiece, rfl⟩ := hk
  have hcarried : ∀ k : Segment, k.part seen' = .text [] → k.isDynamic = false ∧ k.carried = [] := by
    intro k hk
    cases k with
    | literal t => exact ⟨rfl, Part.text.inj hk⟩
    | unrecognised t => exact ⟨rfl, Part.text.inj hk⟩
    | _ => cases hk
  obtain ⟨hstatic, hempty⟩ := hcarried _ hpart.symm
  rw [Segment.carried_classify hstatic] at hempty
  exact trim_getLast?_segments hpiece hempty

/-- The readings of a normalised path are the joined blocks of its splits. -/
theorem readings_normalize {pattern : List Segment} (hne : pattern ≠ [])
    (htext : Segment.parts ∅ pattern ≠ [.text []]) (hsound : ∀ k ∈ pattern, k.IsSound) (path : Text) :
    Part.readings (Segment.parts ∅ pattern) (Path.normalize path) =
      (splits pattern (Path.segments (Path.normalize path))).map (fun bs => bs.map (Text.joinWith separator)) := by
  by_cases hroot : Path.segments (Path.normalize path) = []
  · have hparts : Segment.parts ∅ pattern ≠ [] := by
      obtain ⟨k, rest, rfl⟩ := List.exists_cons_of_ne_nil hne
      exact List.cons_ne_nil _ _
    rw [hroot, Segment.splits_nil_of_ne_nil hne, (normalize_eq_root_iff path).2 hroot]
    exact Part.readings_separator hparts htext
  · have hread := Segment.readings_pathOf hsound ∅ (areSegments_normalize path)
    rw [← normalize_eq_pathOf hroot] at hread
    exact hread

/-- The expression of segments matches a normalised path where they share out the path's segments, and yields the bindings
of the greedy split. -/
theorem params?_treesBetween_normalize {pattern : List Segment} (hne : pattern ≠ [])
    (htext : Segment.parts ∅ pattern ≠ [.text []]) (hsound : ∀ k ∈ pattern, k.IsSound) (source path : Text)
    (params : Params) :
    (Expression.ofTree source (Regex.concat (Part.treesBetween (Segment.parts ∅ pattern)))).params?
        (Path.normalize path) = some params ↔
      ∃ blocks, IsGreedySplit pattern (Path.segments (Path.normalize path)) blocks ∧ params = bindings pattern blocks := by
  have hnamed : ∀ blocks, IsSplit pattern (Path.segments (Path.normalize path)) blocks →
      Part.named (Segment.parts ∅ pattern) (blocks.map (Text.joinWith separator)) = bindings pattern blocks := by
    intro blocks hsplit
    rw [Segment.named_parts hsplit.1, List.filter_eq_self]
    intro e _
    simp
  rw [Part.params?_treesBetween, readings_normalize hne htext hsound, List.head?_map, Option.map_map,
    Option.map_eq_some_iff]
  constructor
  · rintro ⟨blocks, hhead, rfl⟩
    have hgreedy := Segment.head?_splits.1 hhead
    exact ⟨blocks, hgreedy, hnamed blocks hgreedy.1⟩
  · rintro ⟨blocks, hgreedy, rfl⟩
    exact ⟨blocks, Segment.head?_splits.2 hgreedy, hnamed blocks hgreedy.1⟩

/-- The same of the expression of a pattern. -/
theorem params?_ofPattern {text : Text} (hroot : Path.normalize text ≠ ['/']) (source path : Text) (params : Params) :
    (Expression.ofTree source (Regex.concat (Part.treesBetween
        (Segment.parts ∅ (ofPattern (Path.normalize text)))))).params? (Path.normalize path) = some params ↔
      ∃ blocks, IsGreedySplit (ofPattern (Path.normalize text)) (Path.segments (Path.normalize path)) blocks ∧
        params = bindings (ofPattern (Path.normalize text)) blocks := by
  refine params?_treesBetween_normalize (Segment.ofPattern_ne_nil _) (fun htext => ?_) (Segment.ofPattern_isSound _)
    source path params
  have hlast := getLast?_parts_ofPattern hroot ∅
  rw [htext] at hlast
  exact hlast rfl

/-- The texts of a pattern without dynamic segments are its trimmed pieces. -/
theorem map_carried_ofPattern {text : Text} (hroot : Path.normalize text ≠ ['/'])
    (hstatic : (ofPattern (Path.normalize text)).any Segment.isDynamic = false) :
    (ofPattern (Path.normalize text)).map Segment.carried = (Path.segments (Path.normalize text)).map Text.trim := by
  rw [ofPattern_normalize hroot] at hstatic ⊢
  rw [List.any_map, List.any_eq_false] at hstatic
  rw [List.map_map]
  exact List.map_congr_left (fun piece hpiece => Segment.carried_classify (Bool.eq_false_iff.2 (hstatic piece hpiece)))

/-- The text that a segment without dynamic part carries holds no separator. -/
theorem separator_not_mem_carried {k : Segment} (hsound : k.IsSound) (hstatic : k.isDynamic = false) :
    separator ∉ k.carried := by
  cases k with
  | literal t => exact Segment.separator_not_mem hsound
  | unrecognised t => exact hsound
  | _ => simp [Segment.isDynamic] at hstatic

/-- The literal path of a pattern is a normalised path if the pattern's texts are its segments. -/
theorem literalPath_eq_normalize_iff {text : Text} (hroot : Path.normalize text ≠ ['/'])
    (hstatic : (ofPattern (Path.normalize text)).any Segment.isDynamic = false) (path : Text) :
    Segment.literalPath (ofPattern (Path.normalize text)) = Path.normalize path ↔
      (ofPattern (Path.normalize text)).map Segment.carried = Path.segments (Path.normalize path) := by
  have hsep : ∀ t ∈ (ofPattern (Path.normalize text)).map Segment.carried, separator ∉ t := by
    intro t ht
    obtain ⟨k, hk, rfl⟩ := List.mem_map.1 ht
    rw [List.any_eq_false] at hstatic
    exact separator_not_mem_carried (Segment.ofPattern_isSound _ k hk) (Bool.eq_false_iff.2 (hstatic k hk))
  have hne : (ofPattern (Path.normalize text)).map Segment.carried ≠ [] := by
    rw [Ne, List.map_eq_nil_iff]
    exact Segment.ofPattern_ne_nil _
  constructor
  · intro h
    rw [Segment.literalPath, Path.normalize_eq_join_segments path] at h
    have hjoin := (List.cons.inj h).2
    by_cases hnil : Path.segments (Path.normalize path) = []
    · have hsplit := Text.splitAt_joinWith hne hsep
      rw [hjoin, hnil, map_carried_ofPattern hroot hstatic] at hsplit
      obtain ⟨piece, hpiece, htrim⟩ := List.map_eq_singleton_iff.1 hsplit.symm
      exact absurd htrim (@trim_getLast?_segments text piece (by rw [hpiece]; rfl))
    · exact Text.joinWith_inj hne hnil hsep (fun s hs => (Path.mem_segments hs).2) hjoin
  · intro h
    rw [Segment.literalPath, h, ← Path.normalize_eq_join_segments]

/-- The literal path of a pattern without dynamic segments matches the normalised paths that they share out, and binds
nothing. -/
theorem matches?_literalPath {text : Text} (hroot : Path.normalize text ≠ ['/'])
    (hstatic : (ofPattern (Path.normalize text)).any Segment.isDynamic = false) (path : Text) (params : Params) :
    (literal (Segment.literalPath (ofPattern (Path.normalize text)))).matches? (Path.normalize path) = some params ↔
      ∃ blocks, IsGreedySplit (ofPattern (Path.normalize text)) (Path.segments (Path.normalize path)) blocks ∧
        params = bindings (ofPattern (Path.normalize text)) blocks := by
  have hsplit := Segment.isSplit_iff_of_not_isDynamic hstatic (Path.segments (Path.normalize path))
  have hbindings := Segment.bindings_of_not_isDynamic hstatic
  rw [matches?, Option.ite_none_right_eq_some, literalPath_eq_normalize_iff hroot hstatic, Option.some_inj]
  constructor
  · rintro ⟨hpath, rfl⟩
    refine ⟨_, ⟨(hsplit _).2 ⟨hpath, rfl⟩, fun others hothers => ?_⟩, (hbindings _).symm⟩
    rw [((hsplit others).1 hothers).2]
    exact List.lt_irrefl _
  · rintro ⟨blocks, hgreedy, rfl⟩
    exact ⟨((hsplit blocks).1 hgreedy.1).1, (hbindings blocks).symm⟩

/-- The expression of a compiled pattern is the tree of its segments. -/
theorem eq_ofTree_of_ofSource {text : Text} {e : Expression}
    (h : Expression.ofSource (Segment.expressionSource (ofPattern (Path.normalize text))) = .ok e) :
    e = Expression.ofTree (Segment.expressionSource (ofPattern (Path.normalize text)))
      (Regex.concat (Part.treesBetween (Segment.parts ∅ (ofPattern (Path.normalize text))))) := by
  rw [Segment.ofSource_expressionSource (Segment.ofPattern_ne_nil _) (Segment.ofPattern_isSound _)] at h
  split at h
  · exact (Except.ok.inj h).symm
  · cases h

/-- A compiled pattern matches a normalised path with some params where the pattern admits its segments with them. -/
theorem matches?_compileText {text : Text} (haccepted : .patternRejected text ∉ (compileText text).events) (path : Text)
    (params : Params) : (compileText text).pattern.matches? (Path.normalize path) = some params ↔
      Admits text (Path.segments (Path.normalize path)) params := by
  unfold Admits
  unfold compileText at haccepted ⊢
  by_cases hroot : Path.normalize text = ['/']
  · simp only [if_pos hroot, matches?]
    rw [Option.ite_none_right_eq_some, eq_comm, normalize_eq_root_iff, Option.some_inj, eq_comm (a := [])]
  · by_cases hall : Path.normalize text = ['/', '*'] ∨ Path.normalize text = ['/', '*', '*']
    · simp only [if_neg hroot, if_pos hall, matches?]
      rw [Option.some_inj, eq_comm]
    · simp only [if_neg hroot, if_neg hall] at haccepted ⊢
      cases hdynamic : (ofPattern (Path.normalize text)).any Segment.isDynamic with
      | true =>
        rw [hdynamic] at haccepted
        cases he : Expression.ofSource (Segment.expressionSource (ofPattern (Path.normalize text))) with
        | ok e =>
          rw [eq_ofTree_of_ofSource he]
          exact params?_ofPattern hroot _ path params
        | error err =>
          rw [he] at haccepted
          exact absurd (by simp) haccepted
      | false => exact matches?_literalPath hroot hdynamic path params

end Pattern

namespace Route

/-- The first match is the first route that matches. -/
theorem firstMatch_eq_some_iff (path : Text) (routes : List Route) (index : Nat) (m : Match) :
    firstMatch path index routes = some m ↔ ∃ i, m.route = index + i ∧
      (∃ route, routes[i]? = some route ∧ route.pattern.matches? path = some m.params) ∧
      ∀ (j : Nat) (route : Route), j < i → routes[j]? = some route → route.pattern.matches? path = none := by
  induction routes generalizing index with
  | nil => simp [firstMatch]
  | cons route rest ih =>
    rw [firstMatch]
    cases hmatch : route.pattern.matches? path with
    | some params =>
      constructor
      · intro h
        obtain rfl := Option.some.inj h
        exact ⟨0, rfl, ⟨route, rfl, hmatch⟩, fun j _ hj => absurd hj (Nat.not_lt_zero j)⟩
      · rintro ⟨i, hroute, ⟨r, hr, hparams⟩, hbefore⟩
        cases i with
        | zero =>
          obtain rfl := Option.some.inj hr
          rw [hmatch] at hparams
          obtain ⟨mroute, mparams⟩ := m
          obtain rfl := Option.some.inj hparams
          exact congrArg some (congrArg (Match.mk · params) hroute.symm)
        | succ i =>
          have := hbefore 0 route (Nat.succ_pos i) rfl
          rw [hmatch] at this
          cases this
    | none =>
      simp only [ih]
      constructor
      · rintro ⟨i, hroute, hr, hbefore⟩
        refine ⟨i + 1, by omega, hr, ?_⟩
        intro j r hj hjr
        cases j with
        | zero =>
          obtain rfl := Option.some.inj hjr
          exact hmatch
        | succ j => exact hbefore j r (Nat.lt_of_succ_lt_succ hj) hjr
      · rintro ⟨i, hroute, ⟨r, hr, hparams⟩, hbefore⟩
        cases i with
        | zero =>
          obtain rfl := Option.some.inj hr
          rw [hmatch] at hparams
          cases hparams
        | succ i =>
          refine ⟨i, by omega, ⟨r, hr, hparams⟩, ?_⟩
          exact fun j r' hj hjr => hbefore (j + 1) r' (Nat.succ_lt_succ hj) hjr

/-- Without a match no route matches. -/
theorem firstMatch_eq_none_iff (path : Text) (routes : List Route) (index : Nat) :
    firstMatch path index routes = none ↔ ∀ route ∈ routes, route.pattern.matches? path = none := by
  induction routes generalizing index with
  | nil => simp [firstMatch]
  | cons route rest ih =>
    rw [firstMatch, List.forall_mem_cons]
    cases hmatch : route.pattern.matches? path with
    | some params => simp
    | none => simp only [ih, true_and]

/-- For patterns whose expressions are accepted, a path resolves to the first pattern that admits the segments of its
canonical form, with the params of the greedy split, and to nothing where none admits them. -/
theorem resolve_ofPattern_iff (declared : List (Text × Option Loader))
    (haccepted : ∀ d ∈ declared, .patternRejected d.1 ∉ (Pattern.compileText d.1).events) (path : Text)
    (outcome : Option Match) : resolve (declared.map ofPattern) path = outcome ↔
      Pattern.ResolvesTo (declared.map (·.1)) (Path.segments (Path.normalize path)) outcome := by
  have hmatch : ∀ d ∈ declared, ∀ params,
      (ofPattern d).pattern.matches? (Path.normalize path) = some params ↔
        Pattern.Admits d.1 (Path.segments (Path.normalize path)) params :=
    fun d hd params => Pattern.matches?_compileText (haccepted d hd) path params
  have hmiss : ∀ d ∈ declared, (ofPattern d).pattern.matches? (Path.normalize path) = none ↔
      ∀ params, ¬Pattern.Admits d.1 (Path.segments (Path.normalize path)) params := by
    intro d hd
    rw [Option.eq_none_iff_forall_ne_some]
    exact forall_congr' (fun params => not_congr (hmatch d hd params))
  cases outcome with
  | none =>
    rw [resolve, firstMatch_eq_none_iff]
    simp only [Pattern.ResolvesTo, List.forall_mem_map]
    exact forall_congr' (fun d => forall_congr' (fun hd => hmiss d hd))
  | some m =>
    have hget : ∀ i : Nat, (declared.map ofPattern)[i]? = declared[i]?.map ofPattern := fun _ => List.getElem?_map
    rw [resolve, firstMatch_eq_some_iff]
    simp only [hget, Pattern.ResolvesTo, List.getElem?_map, Option.map_eq_some_iff, Nat.zero_add]
    constructor
    · rintro ⟨i, rfl, ⟨route, ⟨d, hd, rfl⟩, hparams⟩, hbefore⟩
      refine ⟨⟨d.1, ⟨d, hd, rfl⟩, (hmatch d (List.mem_of_getElem? hd) _).1 hparams⟩, ?_⟩
      rintro j text hj ⟨d', hd', rfl⟩
      exact (hmiss d' (List.mem_of_getElem? hd')).1 (hbefore j _ hj ⟨d', hd', rfl⟩)
    · rintro ⟨⟨text, ⟨d, hd, rfl⟩, hadmits⟩, hbefore⟩
      refine ⟨m.route, rfl, ⟨_, ⟨d, hd, rfl⟩, (hmatch d (List.mem_of_getElem? hd) _).2 hadmits⟩, ?_⟩
      rintro j route hj ⟨d', hd', rfl⟩
      exact (hmiss d' (List.mem_of_getElem? hd')).2 (hbefore j d'.1 hj ⟨d', hd', rfl⟩)

/-- A run of segments and a parameter behind it: the run takes all but the last segment. -/
theorem resolvesTo_behind_run : Pattern.ResolvesTo [Text.ofString "/", Text.ofString "/files/**/:name"]
    (Path.segments (Path.normalize (Text.ofString "//files/a/b/c/ ")))
    (some ⟨1, [(Text.ofString "name", Text.ofString "c")]⟩) :=
  (resolve_ofPattern_iff [(Text.ofString "/", none), (Text.ofString "/files/**/:name", none)] (by decide +kernel) _ _).1
    (by decide +kernel)

end Route

end PathRouting
