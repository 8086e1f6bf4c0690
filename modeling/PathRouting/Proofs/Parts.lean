import Mathlib.Data.List.Nodup
import PathRouting.Pattern
import PathRouting.Proofs.Pieces

/-!
# Parts of a pattern's expression

What the segments of a pattern become when their expression is written: texts, and groups around a run of characters. A
parameter's group has its name the first time only. Statements: the segments of a pattern are sound, so that their texts
hold no separator and their names may name a group; and the groups have the names of the declared parameters, each once.
-/

namespace PathRouting

/-- The characters that a group repeats: those of one segment, or those of one line. -/
inductive Span where
  | segment
  | line
  deriving DecidableEq, Repr

namespace Span

/-- The one character that a span leaves out. -/
def excluded : Span → Char
  | .segment => Path.separator
  | .line => '\n'

/-- The characters of a span. -/
def set (r : Span) : CharSet := (CharSet.single r.excluded).complement

/-- The depth of a span as it is written: one segment's characters stand in brackets. -/
def depth : Span → Nat
  | .segment => 1
  | .line => 0

/-- A span holds every character but one. -/
theorem contains_set (r : Span) (c : Char) : r.set.contains c = (c != r.excluded) := by
  have hc : c.toNat ≤ 0x10FFFF := by
    have := c.valid
    simp only [UInt32.isValidChar, Nat.isValidChar] at this
    have hv : c.toNat = c.val.toNat := rfl
    omega
  have hne : (c != r.excluded) = (c.toNat != r.excluded.toNat) := by
    rw [Bool.eq_iff_iff, bne_iff_ne, bne_iff_ne, Ne, Ne, Char.toNat_inj]
  rw [hne]
  cases r with
  | segment =>
    have hs : Span.segment.set = ⟨[(0, 46), (48, 0x10FFFF)]⟩ := by decide
    rw [hs, Bool.eq_iff_iff]
    simp only [CharSet.contains, CharSet.hasCode, List.any_cons, List.any_nil, Bool.or_false, Bool.or_eq_true,
      Bool.and_eq_true, decide_eq_true_eq, bne_iff_ne, excluded, Path.separator]
    have : '/'.toNat = 47 := rfl
    omega
  | line =>
    have hs : Span.line.set = ⟨[(0, 9), (11, 0x10FFFF)]⟩ := by decide
    rw [hs, Bool.eq_iff_iff]
    simp only [CharSet.contains, CharSet.hasCode, List.any_cons, List.any_nil, Bool.or_false, Bool.or_eq_true,
      Bool.and_eq_true, decide_eq_true_eq, bne_iff_ne, excluded]
    have : '\n'.toNat = 10 := rfl
    omega

end Span

/-- What a segment is in an expression: a text, or a group around one or more characters of a span. -/
inductive Part where
  | text (t : Text)
  | run (name : Option Text) (span : Span)
  deriving DecidableEq, Repr

namespace Part

/-- The name of a part's group. -/
def name? : Part → Option Text
  | .text _ => none
  | .run name _ => name

/-- The texts of a part hold no separator, and its name may name a group. -/
def IsSound : Part → Prop
  | .text t => Path.separator ∉ t
  | .run name _ => ∀ n ∈ name, Segment.isParamName n = true

end Part

namespace Segment

/-- The segment's text holds no separator and, for a literal, no character outside its alphabet; a parameter's name is
one. -/
def IsSound : Segment → Prop
  | .param name => isParamName name = true
  | .literal t => t.all isLiteralChar = true
  | .unrecognised t => Path.separator ∉ t
  | _ => True

/-- What a segment is in an expression, where some parameters were seen to its left. -/
def part (seen : Std.TreeSet Text) : Segment → Part
  | .param name => .run (if seen.contains name then none else some name) .segment
  | .wildcard => .run none .segment
  | .glob => .run none .line
  | .literal t => .text t
  | .unrecognised t => .text t

/-- What some segments are in an expression. -/
def parts (seen : Std.TreeSet Text) : List Segment → List Part
  | [] => []
  | s :: rest => s.part seen :: parts (s.declare seen) rest

/-- No literal holds a separator. -/
theorem separator_not_mem {t : Text} (h : t.all isLiteralChar = true) : Path.separator ∉ t := by
  intro hm
  have := List.all_eq_true.1 h _ hm
  exact absurd this (by decide)

/-- A piece without separators is classified as a sound segment. -/
theorem classify_isSound {t : Text} (h : Path.separator ∉ t) : (classify t).IsSound := by
  unfold classify
  split
  · trivial
  · trivial
  · split
    · assumption
    · exact h
  · split
    · rename_i hl
      rw [Bool.and_eq_true] at hl
      exact hl.2
    · exact h

/-- The segments of a pattern are sound. -/
theorem ofPattern_isSound (normalized : Text) : ∀ s ∈ ofPattern normalized, s.IsSound := by
  intro s hs
  obtain ⟨piece, hp, rfl⟩ := List.mem_map.1 hs
  apply classify_isSound
  intro hm
  exact Text.not_mem_of_mem_splitAt hp (Text.mem_of_mem_trim hm)

/-- A pattern has a segment at least. -/
theorem ofPattern_ne_nil (normalized : Text) : ofPattern normalized ≠ [] := by
  rw [ofPattern, Ne, List.map_eq_nil_iff]
  exact Text.splitAt_ne_nil _ _

/-- Sound segments are sound parts. -/
theorem IsSound.part {s : Segment} (h : s.IsSound) (seen : Std.TreeSet Text) : (s.part seen).IsSound := by
  cases s with
  | param name =>
    intro n hn
    rw [Option.mem_def, Option.ite_none_left_eq_some, Option.some.injEq] at hn
    rw [← hn.2]
    exact h
  | literal t => exact separator_not_mem h
  | unrecognised t => exact h
  | wildcard => simp [Segment.part, Part.IsSound]
  | glob => simp [Segment.part, Part.IsSound]

theorem IsSound.parts {segments : List Segment} (h : ∀ s ∈ segments, s.IsSound) (seen : Std.TreeSet Text) :
    ∀ p ∈ parts seen segments, p.IsSound := by
  induction segments generalizing seen with
  | nil => intro p hp; simp [Segment.parts] at hp
  | cons s rest ih =>
    intro p hp
    rcases List.mem_cons.1 hp with rfl | hp
    · exact IsSound.part (h s (List.mem_cons_self ..)) seen
    · exact ih (fun s hs => h s (List.mem_cons_of_mem _ hs)) _ p hp

/-- The last part is that of the last segment. -/
theorem exists_getLast?_of_parts {segments : List Segment} {seen : Std.TreeSet Text} {p : Part}
    (h : (parts seen segments).getLast? = some p) : ∃ k seen', segments.getLast? = some k ∧ p = k.part seen' := by
  induction segments generalizing seen with
  | nil => cases h
  | cons k rest ih =>
    cases rest with
    | nil => exact ⟨k, seen, rfl, (Option.some.inj h).symm⟩
    | cons k' rest => exact ih h

/-! ## Names -/

/-- The parameter that a segment declares. -/
def param? : Segment → Option Text
  | .param name => some name
  | _ => none

/-- The declared parameters without repetitions, in the order of their first occurrences. -/
def declaredParams (pattern : List Segment) : List Text := (pattern.filterMap param?).eraseDups

theorem nodup_eraseDups (names : List Text) : names.eraseDups.Nodup := by
  cases names with
  | nil => exact List.nodup_nil
  | cons name rest =>
    rw [List.eraseDups_cons, List.nodup_cons, List.mem_eraseDups]
    exact ⟨by simp, nodup_eraseDups _⟩
termination_by names.length
decreasing_by exact Nat.lt_succ_of_le (List.length_filter_le _ rest)

/-- The names of some segments' groups are the parameters that they declare, but for those seen before. -/
theorem filterMap_name?_parts (seen : Std.TreeSet Text) (pattern : List Segment) :
    (parts seen pattern).filterMap Part.name? =
      ((pattern.filterMap param?).filter (fun name => !seen.contains name)).eraseDups := by
  induction pattern generalizing seen with
  | nil => rfl
  | cons k rest ih =>
    rw [parts, List.filterMap_cons, List.filterMap_cons, ih]
    cases k with
    | param name =>
      have hinsert : ∀ other, (seen.insert name).contains other = (other == name || seen.contains other) := by
        intro other
        rw [Std.TreeSet.contains_insert, Bool.eq_iff_iff, Bool.or_eq_true, Bool.or_eq_true, beq_iff_eq, beq_iff_eq,
          Std.LawfulEqCmp.compare_eq_iff_eq, eq_comm]
      simp only [Segment.part, Part.name?, param?, Segment.declare, hinsert]
      cases hseen : seen.contains name with
      | true =>
        rw [if_pos rfl, List.filter_cons_of_neg (by simp [hseen])]
        refine congrArg List.eraseDups (List.filter_congr (fun other _ => ?_))
        by_cases hother : other = name
        · rw [hother, hseen, Bool.or_true]
        · rw [beq_eq_false_iff_ne.2 hother, Bool.false_or]
      | false =>
        rw [if_neg Bool.false_ne_true, List.filter_cons_of_pos (by simp [hseen]), List.eraseDups_cons, List.filter_filter]
        simp only [Bool.not_or]
    | _ => rfl

/-- No two parts have the same name. -/
theorem nodup_names (segments : List Segment) (seen : Std.TreeSet Text) :
    ((parts seen segments).filterMap Part.name?).Nodup := by
  rw [filterMap_name?_parts]
  exact nodup_eraseDups _

/-- The names of a pattern's groups are its declared parameters. -/
theorem filterMap_name?_eq_declaredParams (pattern : List Segment) :
    (parts ∅ pattern).filterMap Part.name? = declaredParams pattern := by
  rw [filterMap_name?_parts, List.filter_eq_self.2 (by simp)]
  rfl

end Segment

end PathRouting
