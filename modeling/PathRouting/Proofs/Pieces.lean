import Mathlib.Data.List.TakeWhile
import PathRouting.Text.Blank

/-!
# Pieces of a text

Statements about `splitAt`, `joinWith` and the trimming functions: splitting and joining undo each other on pieces without
the separator, trimming the end leaves a prefix whose last character stays, and both act on what is around a part of a
text without touching the part.
-/

namespace PathRouting

namespace Text

/-! ## Splitting and joining -/

/-- The empty text is one empty piece. -/
theorem splitAt_nil (sep : Char) : splitAt sep [] = [[]] := rfl

/-- A separator ends an empty piece. -/
theorem splitAt_cons_self (sep : Char) (t : Text) : splitAt sep (sep :: t) = [] :: splitAt sep t := by
  simp [splitAt]

/-- A text has at least one piece. -/
theorem splitAt_ne_nil (sep : Char) (t : Text) : splitAt sep t ≠ [] := by
  cases t with
  | nil => simp [splitAt]
  | cons c t =>
    simp only [splitAt, List.foldr_cons]
    split
    · simp
    · split <;> simp

/-- Any other character joins the first piece. -/
theorem splitAt_cons_of_ne {sep c : Char} (h : c ≠ sep) (t : Text) :
    ∃ p ps, splitAt sep t = p :: ps ∧ splitAt sep (c :: t) = (c :: p) :: ps := by
  cases hs : splitAt sep t with
  | nil => exact absurd hs (splitAt_ne_nil sep t)
  | cons p ps =>
    refine ⟨p, ps, rfl, ?_⟩
    unfold splitAt at hs ⊢
    rw [List.foldr_cons, hs, if_neg h]

/-- A text without the separator is one piece. -/
theorem splitAt_of_not_mem {sep : Char} {p : Text} (h : sep ∉ p) : splitAt sep p = [p] := by
  induction p with
  | nil => rfl
  | cons c p ih =>
    have hc : c ≠ sep := fun e => h (by simp [e])
    obtain ⟨q, qs, h1, h2⟩ := splitAt_cons_of_ne hc p
    rw [ih (fun hm => h (by simp [hm]))] at h1
    obtain ⟨rfl, rfl⟩ := List.cons.inj h1
    exact h2

/-- The first separator ends the first piece. -/
theorem splitAt_append {sep : Char} {p : Text} (h : sep ∉ p) (t : Text) :
    splitAt sep (p ++ sep :: t) = p :: splitAt sep t := by
  induction p with
  | nil => exact splitAt_cons_self sep t
  | cons c p ih =>
    have hc : c ≠ sep := fun e => h (by simp [e])
    obtain ⟨q, qs, h1, h2⟩ := splitAt_cons_of_ne hc (p ++ sep :: t)
    rw [ih (fun hm => h (by simp [hm]))] at h1
    obtain ⟨rfl, rfl⟩ := List.cons.inj h1
    exact h2

/-- No piece holds the separator. -/
theorem not_mem_of_mem_splitAt {sep : Char} {t p : Text} (h : p ∈ splitAt sep t) : sep ∉ p := by
  induction t generalizing p with
  | nil => simp_all [splitAt_nil]
  | cons c t ih =>
    by_cases hc : c = sep
    · subst hc
      rw [splitAt_cons_self, List.mem_cons] at h
      rcases h with rfl | h
      · simp
      · exact ih h
    · obtain ⟨q, qs, h1, h2⟩ := splitAt_cons_of_ne hc t
      rw [h2, List.mem_cons] at h
      rcases h with rfl | h
      · have hq := ih (p := q) (by rw [h1]; simp)
        simp [Ne.symm hc, hq]
      · exact ih (by rw [h1]; simp [h])

/-- One piece is joined to itself. -/
theorem joinWith_singleton (sep : Char) (p : Text) : joinWith sep [p] = p := by simp [joinWith]

/-- A separator stands between two pieces. -/
theorem joinWith_cons_cons (sep : Char) (p q : Text) (ps : List Text) :
    joinWith sep (p :: q :: ps) = p ++ sep :: joinWith sep (q :: ps) := by
  simp [joinWith]

/-- With a separator in front, joining puts one before each piece. -/
theorem cons_joinWith {sep : Char} {ps : List Text} (h : ps ≠ []) :
    sep :: joinWith sep ps = ps.flatMap (sep :: ·) := by
  cases ps with
  | nil => exact absurd rfl h
  | cons p ps => simp [joinWith]

/-- Splitting undoes joining. -/
theorem splitAt_joinWith {sep : Char} {ps : List Text} (hne : ps ≠ []) (h : ∀ p ∈ ps, sep ∉ p) :
    splitAt sep (joinWith sep ps) = ps := by
  induction ps with
  | nil => exact absurd rfl hne
  | cons p ps ih =>
    cases ps with
    | nil => rw [joinWith_singleton, splitAt_of_not_mem (h p (by simp))]
    | cons q ps =>
      rw [joinWith_cons_cons, splitAt_append (h p (by simp)), ih (by simp) (fun x hx => h x (List.mem_cons_of_mem p hx))]

/-- Joining undoes splitting. -/
theorem joinWith_splitAt (sep : Char) (t : Text) : joinWith sep (splitAt sep t) = t := by
  induction t with
  | nil => rfl
  | cons c t ih =>
    by_cases hc : c = sep
    · subst hc
      rw [splitAt_cons_self]
      cases hs : splitAt c t with
      | nil => exact absurd hs (splitAt_ne_nil c t)
      | cons p ps => rw [joinWith_cons_cons, ← hs, ih, List.nil_append]
    · obtain ⟨p, ps, h1, h2⟩ := splitAt_cons_of_ne hc t
      rw [h2]
      rw [h1] at ih
      simpa [joinWith] using ih

/-- Texts that are joined alike are alike, where no piece holds the separator. -/
theorem joinWith_inj {sep : Char} {ps qs : List Text} (hp : ps ≠ []) (hq : qs ≠ []) (hps : ∀ p ∈ ps, sep ∉ p)
    (hqs : ∀ q ∈ qs, sep ∉ q) (h : joinWith sep ps = joinWith sep qs) : ps = qs := by
  rw [← splitAt_joinWith hp hps, h, splitAt_joinWith hq hqs]

/-! ## Trimming -/

/-- Trimming the end leaves a prefix. -/
theorem trimEndBy_isPrefix (p : Char → Bool) (t : Text) : trimEndBy p t <+: t := by
  have h : List.dropWhile p t.reverse <:+ t.reverse := List.dropWhile_suffix p
  have h' := List.reverse_prefix.2 h
  rwa [List.reverse_reverse] at h'

/-- Trimming the start leaves the end of the text. -/
theorem trimStartBy_isSuffix (p : Char → Bool) (t : Text) : trimStartBy p t <:+ t := List.dropWhile_suffix p

/-- The last character that trimming the end leaves is not one to be trimmed. -/
theorem getLast?_trimEndBy {p : Char → Bool} {t : Text} {c : Char} (h : (trimEndBy p t).getLast? = some c) :
    p c = false := by
  rw [trimEndBy, List.getLast?_reverse] at h
  have hd := List.head?_dropWhile_not p t.reverse
  rw [h] at hd
  simpa using hd

/-- Trimming keeps only characters of the text. -/
theorem mem_of_mem_trim {t : Text} {c : Char} (h : c ∈ trim t) : c ∈ t := by
  have h1 : c ∈ trimStartBy isBlank t := (trimEndBy_isPrefix isBlank _).subset h
  exact (List.dropWhile_suffix isBlank).subset h1

/-- What is left of a text that does not end in white space is not empty. -/
theorem trim_ne_nil {t : Text} {c : Char} (h : t.getLast? = some c) (hc : isBlank c = false) : trim t ≠ [] := by
  have hmem : c ∈ trimStartBy isBlank t := by
    obtain ⟨init, rfl⟩ := List.getLast?_eq_some_iff.1 h
    rw [trimStartBy, List.dropWhile_append]
    split
    · simp [List.dropWhile, hc]
    · simp
  intro he
  rw [trim, trimEndBy, List.reverse_eq_nil_iff] at he
  have hall := List.dropWhile_eq_nil_iff.1 he c (List.mem_reverse.2 hmem)
  rw [hc] at hall
  exact absurd hall (by simp)

/-! ## A part that stays -/

section

variable {sep : Char} {p : Char → Bool} {before part after : Text}

/-- Trimming the start stops at a part without blanks. -/
theorem trimStartBy_append (hne : part ≠ []) (hpart : ∀ c ∈ part, p c = false) :
    trimStartBy p (before ++ part ++ after) = trimStartBy p before ++ part ++ after := by
  obtain ⟨c, rest, rfl⟩ := List.exists_cons_of_ne_nil hne
  have hc : p c = false := hpart c (List.mem_cons_self ..)
  rw [trimStartBy, trimStartBy, List.append_assoc, List.dropWhile_append]
  split
  · rename_i hempty
    rw [List.isEmpty_iff.1 hempty, List.cons_append, List.dropWhile_cons_of_neg (by simp [hc])]
    rfl
  · rw [List.append_assoc]

/-- Trimming the end stops at a part without blanks. -/
theorem trimEndBy_append (hne : part ≠ []) (hpart : ∀ c ∈ part, p c = false) :
    trimEndBy p (before ++ part ++ after) = before ++ part ++ trimEndBy p after := by
  have hstart : trimStartBy p (after.reverse ++ part.reverse ++ before.reverse) = _ :=
    trimStartBy_append (by simpa using hne) (fun c hc => hpart c (List.mem_reverse.1 hc))
  have hreverse : (before ++ part ++ after).reverse = after.reverse ++ part.reverse ++ before.reverse := by simp
  rw [trimEndBy, trimEndBy, hreverse]
  refine (congrArg List.reverse hstart).trans ?_
  simp [trimStartBy]

/-- A text that ends in a character that stays is not trimmed at its end. -/
theorem trimEndBy_eq_self {t : Text} (h : ∀ c, t.getLast? = some c → p c = false) : trimEndBy p t = t := by
  rcases List.eq_nil_or_concat t with rfl | ⟨start, c, rfl⟩
  · rfl
  · rw [List.concat_eq_append] at h ⊢
    have hc : p c = false := h c (List.getLast?_concat)
    have hkeeps : trimEndBy p (start ++ [c] ++ []) = _ := trimEndBy_append (List.cons_ne_nil c [])
      (fun d hd => List.mem_singleton.1 hd ▸ hc)
    rw [List.append_nil] at hkeeps
    exact hkeeps.trans (List.append_nil _)

/-- A text of blanks is trimmed away from the start. -/
theorem trimStartBy_eq_nil (h : ∀ c ∈ before, p c = true) : trimStartBy p before = [] := List.dropWhile_eq_nil_iff.2 h

/-- A text of blanks is trimmed away from the end. -/
theorem trimEndBy_eq_nil (h : ∀ c ∈ before, p c = true) : trimEndBy p before = [] := by
  rw [trimEndBy, List.reverse_eq_nil_iff]
  exact trimStartBy_eq_nil (fun c hc => h c (List.mem_reverse.1 hc))

/-- Trimming acts around a part without white space. -/
theorem trim_append (hne : part ≠ []) (hpart : ∀ c ∈ part, isBlank c = false) :
    trim (before ++ part ++ after) = trimStartBy isBlank before ++ part ++ trimEndBy isBlank after := by
  rw [trim, trimStartBy_append hne hpart, trimEndBy_append hne hpart]

/-- Trimming leaves a part without white space of what has only white space around it. -/
theorem trim_append_of_blank (hne : part ≠ []) (hpart : ∀ c ∈ part, isBlank c = false)
    (hbefore : ∀ c ∈ before, isBlank c = true) (hafter : ∀ c ∈ after, isBlank c = true) :
    trim (before ++ part ++ after) = part := by
  rw [trim_append hne hpart, trimStartBy_eq_nil hbefore, trimEndBy_eq_nil hafter, List.nil_append, List.append_nil]

end

/-! ## Pieces of what is put together -/

section

variable {sep c : Char} {xs ys : List Text} {x y a b : Text}

/-- Where two joined texts meet, the last piece and the first become one. -/
theorem joinWith_append_joinWith (sep : Char) (xs : List Text) (x y : Text) (ys : List Text) :
    joinWith sep (xs ++ [x]) ++ joinWith sep (y :: ys) = joinWith sep (xs ++ (x ++ y) :: ys) := by
  cases xs with
  | nil => simp [joinWith]
  | cons z zs => simp [joinWith]

/-- A joined text ends as its last piece does. -/
theorem getLast?_joinWith (sep : Char) (xs : List Text) {x : Text} (hx : x ≠ []) :
    (joinWith sep (xs ++ [x])).getLast? = x.getLast? := by
  have hjoined : joinWith sep (xs ++ [[]]) ++ x = joinWith sep (xs ++ [x]) := by
    have h := joinWith_append_joinWith sep xs [] x []
    rwa [joinWith_singleton] at h
  rw [← hjoined, List.getLast?_append, List.getLast?_eq_some_getLast hx, Option.some_or]

/-- Where two texts meet, their pieces become one. -/
theorem splitAt_append_text (ha : splitAt sep a = xs ++ [x]) (hb : splitAt sep b = y :: ys) :
    splitAt sep (a ++ b) = xs ++ (x ++ y) :: ys := by
  have hpieces : ∀ p ∈ xs ++ (x ++ y) :: ys, sep ∉ p := by
    have hx : ∀ p ∈ xs ++ [x], sep ∉ p := fun p hp => not_mem_of_mem_splitAt (ha ▸ hp)
    have hy : ∀ p ∈ y :: ys, sep ∉ p := fun p hp => not_mem_of_mem_splitAt (hb ▸ hp)
    rw [List.forall_mem_append, List.forall_mem_singleton] at hx
    rw [List.forall_mem_cons] at hy
    rw [List.forall_mem_append, List.forall_mem_cons, List.mem_append]
    exact ⟨hx.1, fun h => h.elim hx.2 hy.1, hy.2⟩
  have hjoined : a ++ b = joinWith sep (xs ++ (x ++ y) :: ys) := by
    rw [← joinWith_append_joinWith, ← ha, ← hb, joinWith_splitAt, joinWith_splitAt]
  rw [hjoined, splitAt_joinWith (List.append_ne_nil_of_right_ne_nil _ (List.cons_ne_nil _ _)) hpieces]

/-- A text has a last piece. -/
theorem exists_splitAt_concat (sep : Char) (t : Text) : ∃ xs x, splitAt sep t = xs ++ [x] :=
  ⟨_, _, (List.dropLast_concat_getLast (splitAt_ne_nil sep t)).symm⟩

/-- A text has a first piece. -/
theorem exists_splitAt_cons (sep : Char) (t : Text) : ∃ y ys, splitAt sep t = y :: ys :=
  List.exists_cons_of_ne_nil (splitAt_ne_nil sep t)

/-- The pieces around a part without separators. -/
theorem splitAt_around {part : Text} (ha : splitAt sep a = xs ++ [x]) (hb : splitAt sep b = y :: ys) (hpart : sep ∉ part) :
    splitAt sep (a ++ part ++ b) = xs ++ (x ++ part ++ y) :: ys :=
  splitAt_append_text (splitAt_append_text ha (splitAt_of_not_mem hpart)) hb

/-- The last piece of a text ends with the last piece of each of its ends. -/
theorem isSuffix_of_splitAt {a' : Text} (h : a' <:+ a) (ha : splitAt sep a = xs ++ [x]) :
    ∃ xs' x', splitAt sep a' = xs' ++ [x'] ∧ x' <:+ x := by
  obtain ⟨start, rfl⟩ := h
  obtain ⟨zs, z, hz⟩ := exists_splitAt_concat sep start
  obtain ⟨y, ys, hy⟩ := exists_splitAt_cons sep a'
  have hall := splitAt_append_text hz hy
  rw [ha] at hall
  rcases List.eq_nil_or_concat ys with rfl | ⟨ys', x', rfl⟩
  · obtain ⟨-, hx⟩ := List.append_inj' hall rfl
    exact ⟨[], y, hy, ⟨z, (List.cons.inj hx).1.symm⟩⟩
  · have hlast : xs ++ [x] = (zs ++ (z ++ y) :: ys') ++ [x'] := by
      rw [hall, List.concat_eq_append, List.append_assoc, List.cons_append]
    obtain ⟨-, hx⟩ := List.append_inj' hlast rfl
    obtain rfl := (List.cons.inj hx).1
    rw [List.concat_eq_append] at hy
    exact ⟨y :: ys', x, hy, List.suffix_rfl⟩

/-- The first piece of a text starts with the first piece of each of its starts. -/
theorem isPrefix_of_splitAt {b' : Text} (h : b' <+: b) (hb : splitAt sep b = y :: ys) :
    ∃ y' ys', splitAt sep b' = y' :: ys' ∧ y' <+: y := by
  obtain ⟨rest, rfl⟩ := h
  obtain ⟨zs, z, hz⟩ := exists_splitAt_concat sep b'
  obtain ⟨w, ws, hw⟩ := exists_splitAt_cons sep rest
  have hall := splitAt_append_text hz hw
  rw [hb] at hall
  cases zs with
  | nil => exact ⟨z, [], hz, ⟨w, (List.cons.inj hall).1.symm⟩⟩
  | cons y' zs =>
    obtain rfl := (List.cons.inj hall).1
    exact ⟨y, zs ++ [z], hz, List.prefix_rfl⟩

/-- A character of joined pieces that is no separator is in one of them. -/
theorem mem_joinWith {ps : List Text} (h : c ∈ joinWith sep ps) (hc : c ≠ sep) : ∃ p ∈ ps, c ∈ p := by
  cases ps with
  | nil => cases h
  | cons p ps =>
    rcases List.mem_append.1 h with h | h
    · exact ⟨p, List.mem_cons_self .., h⟩
    · obtain ⟨q, hq, hcq⟩ := List.mem_flatMap.1 h
      exact ⟨q, List.mem_cons_of_mem p hq, (List.mem_cons.1 hcq).resolve_left hc⟩

/-- A character of a piece is one of the text. -/
theorem mem_of_mem_splitAt {t q : Text} (hq : q ∈ splitAt sep t) (hc : c ∈ q) : c ∈ t := by
  obtain ⟨before, after, hsplit⟩ := List.append_of_mem hq
  have hjoin := joinWith_splitAt sep t
  rw [hsplit] at hjoin
  rw [← hjoin]
  cases before with
  | nil => exact List.mem_append_left _ hc
  | cons z zs =>
    simp only [joinWith, List.cons_append, List.flatMap_append, List.flatMap_cons, List.mem_append, List.mem_cons]
    exact Or.inr (Or.inr (Or.inr (Or.inl hc)))

end

end Text

end PathRouting
