import Mathlib.Data.List.Basic
import PathRouting.Regex.Search

/-!
# Ways through an expression

What a goal can read, said without threads: from a place of a text, the ways on in the order in which they are preferred,
each with the place it comes to and the marks it makes. Statements: which ways there are does not depend on the marks made
before, and a thread that is split goes on in exactly the ways it had.
-/

namespace PathRouting

/-- A place in a text: the character before it, its number, and the text after it. -/
structure Spot where
  prev : Option Char
  place : Nat
  rest : Text

/-- The place after one more character. -/
def Spot.after (s : Spot) (c : Char) (rest : Text) : Spot := ⟨some c, s.place + 1, rest⟩

/-- A place that was come to, with the marks made until there. -/
abbrev Way : Type := Spot × Marks

/-- The place after a text, where the text comes next. -/
def Spot.readText? : Text → Spot → Option Spot
  | [], s => some s
  | c :: t, s =>
    match s.rest with
    | [] => none
    | d :: rest => if d = c then Spot.readText? t (s.after d rest) else none

/-- The place after one character of a set. -/
def Spot.readChar? (set : CharSet) (s : Spot) : Option Spot :=
  match s.rest with
  | [] => none
  | c :: rest => if set.contains c then some (s.after c rest) else none

namespace Way

/-- The ways that begin with a body and the one that leaves it out, the preferred first. -/
def fork (greedy : Bool) (enter : List Way) (leave : Way) : List Way :=
  if greedy then enter ++ [leave] else leave :: enter

/-- The ways of a body so many times. -/
def times (body : Way → List Way) : Nat → Way → List Way
  | 0, w => [w]
  | n + 1, w => (body w).flatMap (times body n)

/-- The ways of a body at most so many times. -/
def upTo (greedy : Bool) (body : Way → List Way) : Nat → Way → List Way
  | 0, w => [w]
  | n + 1, w => fork greedy ((body w).flatMap (upTo greedy body n)) w

end Way

/-- The ways through a goal, most preferred first. A body that is repeated takes a character at least, so it is never
repeated more often than there are characters. -/
def Goal.ways : Goal → Way → List Way
  | .skip, w => [w]
  | .text _ t, w => (w.1.readText? t).toList.map (·, w.2)
  | .chars _ set, w => (w.1.readChar? set).toList.map (·, w.2)
  | .look a, w => if a.holds w.1.prev w.1.rest.head? then [w] else []
  | .group i body, w =>
    (body.ways (w.1, (2 * i, w.1.place) :: w.2)).map (fun v => (v.1, (2 * i + 1, v.1.place) :: v.2))
  | .close i, w => [(w.1, (2 * i + 1, w.1.place) :: w.2)]
  | .cat a b, w => (a.ways w).flatMap b.ways
  | .alt _ a b, w => a.ways w ++ b.ways w
  | .times count body, w => Way.times body.ways count w
  | .upTo _ count greedy body, w => Way.upTo greedy body.ways count w
  | .many _ greedy body, w => Way.upTo greedy body.ways w.1.rest.length w

/-- The ways through goals one after the other. -/
def Goal.waysOf : List Goal → Way → List Way
  | [], w => [w]
  | g :: k, w => (g.ways w).flatMap (waysOf k)

/-- The marks of the preferred way of a thread from a place on, if it has one. -/
def Thread.best (s : Spot) (t : Thread) : Option Marks := (Goal.waysOf t.stack (s, t.marks)).head?.map (·.2)

/-! ## Marks -/

/-- The places that some ways come to. -/
abbrev spots (ws : List Way) : List Spot := ws.map Prod.fst

/-- Readers that come to the same places whatever the marks do so one after the other. -/
theorem spots_flatMap {f : Way → List Way} (hf : ∀ s m m', spots (f (s, m)) = spots (f (s, m'))) :
    ∀ {ws vs : List Way}, spots ws = spots vs → spots (ws.flatMap f) = spots (vs.flatMap f) := by
  intro ws
  induction ws with
  | nil =>
    intro vs h
    rw [spots, List.map_nil] at h
    rw [List.map_eq_nil_iff.1 h.symm]
  | cons w ws ih =>
    intro vs h
    cases vs with
    | nil => simp [spots] at h
    | cons v vs =>
      obtain ⟨h1, h2⟩ := List.cons.inj h
      obtain ⟨s, m⟩ := w
      obtain ⟨s', m'⟩ := v
      simp only at h1
      subst h1
      simp only [List.flatMap_cons, spots, List.map_append] at ih ⊢
      rw [ih h2]
      congr 1
      exact hf s m m'

theorem spots_times {body : Way → List Way} (hb : ∀ s m m', spots (body (s, m)) = spots (body (s, m'))) (n : Nat) :
    ∀ s m m', spots (Way.times body n (s, m)) = spots (Way.times body n (s, m')) := by
  induction n with
  | zero => intro s m m'; rfl
  | succ n ih => intro s m m'; exact spots_flatMap ih (hb s m m')

theorem spots_upTo {greedy : Bool} {body : Way → List Way} (hb : ∀ s m m', spots (body (s, m)) = spots (body (s, m')))
    (n : Nat) : ∀ s m m', spots (Way.upTo greedy body n (s, m)) = spots (Way.upTo greedy body n (s, m')) := by
  induction n with
  | zero => intro s m m'; rfl
  | succ n ih =>
    intro s m m'
    have h := spots_flatMap ih (hb s m m')
    cases greedy
    · simpa [Way.upTo, Way.fork, spots] using h
    · simpa [Way.upTo, Way.fork, spots] using h

/-- Where a goal comes to does not depend on the marks made before. -/
theorem Goal.spots_ways (g : Goal) : ∀ s m m', spots (g.ways (s, m)) = spots (g.ways (s, m')) := by
  induction g with
  | skip => intro s m m'; rfl
  | text l t => intro s m m'; simp [Goal.ways, spots]
  | chars l set => intro s m m'; simp [Goal.ways, spots]
  | look a => intro s m m'; simp only [Goal.ways]; split <;> rfl
  | group i body ih =>
    intro s m m'
    have h := ih s ((2 * i, s.place) :: m) ((2 * i, s.place) :: m')
    simpa [Goal.ways, spots, Function.comp_def] using h
  | close i => intro s m m'; rfl
  | cat a b iha ihb => intro s m m'; exact spots_flatMap ihb (iha s m m')
  | alt l a b iha ihb =>
    intro s m m'
    simp only [Goal.ways, spots, List.map_append] at iha ihb ⊢
    rw [iha s m m', ihb s m m']
  | times n body ih => exact spots_times ih n
  | upTo l n greedy body ih => exact spots_upTo ih n
  | many l greedy body ih => intro s m m'; exact spots_upTo ih s.rest.length s m m'

/-- Where some goals come to does not depend on the marks made before. -/
theorem Goal.spots_waysOf (k : List Goal) : ∀ s m m', spots (waysOf k (s, m)) = spots (waysOf k (s, m')) := by
  induction k with
  | nil => intro s m m'; rfl
  | cons g k ih => intro s m m'; exact spots_flatMap ih (g.spots_ways s m m')

/-- Of two threads with the same rest both have a way or none has. -/
theorem Thread.isSome_best_of_stack_eq {t u : Thread} (h : t.stack = u.stack) (s : Spot) :
    (t.best s).isSome = (u.best s).isSome := by
  have hs := congrArg List.length (Goal.spots_waysOf t.stack s t.marks u.marks)
  rw [List.length_map, List.length_map] at hs
  rw [Thread.best, Thread.best, ← h]
  cases h1 : Goal.waysOf t.stack (s, t.marks) with
  | nil =>
    rw [h1] at hs
    rw [List.length_eq_zero_iff.1 hs.symm]
  | cons a as =>
    cases h2 : Goal.waysOf t.stack (s, u.marks) with
    | nil => rw [h1, h2] at hs; simp at hs
    | cons b bs => rfl

/-! ## Plain goals -/

/-- The goal reads exactly one character. -/
def Goal.IsSingle : Goal → Prop
  | .text _ [_] => True
  | .chars _ _ => True
  | _ => False

/-- The goal reads a character at least. -/
def Goal.isNeverEmpty : Goal → Bool
  | .text _ t => !t.isEmpty
  | .chars _ _ => true
  | .group _ body => body.isNeverEmpty
  | .cat a b => a.isNeverEmpty || b.isNeverEmpty
  | .alt _ a b => a.isNeverEmpty && b.isNeverEmpty
  | .times count body => count != 0 && body.isNeverEmpty
  | _ => false

/-- The goal's alternatives read a character at least, and what it repeats are single characters. Two threads of such a
goal can only come to the same rest after they have read the same characters. -/
def Goal.IsPlain : Goal → Prop
  | .group _ body => body.IsPlain
  | .cat a b => a.IsPlain ∧ b.IsPlain
  | .alt _ a b => (a.IsPlain ∧ b.IsPlain) ∧ a.isNeverEmpty = true ∧ b.isNeverEmpty = true
  | .times _ body => body.IsSingle
  | .upTo _ _ _ body => body.IsSingle
  | .many _ _ body => body.IsSingle
  | _ => True

theorem Goal.IsSingle.isPlain {g : Goal} (h : g.IsSingle) : g.IsPlain := by
  cases g <;> simp_all [IsSingle, IsPlain]

theorem Goal.IsSingle.isNeverEmpty {g : Goal} (h : g.IsSingle) : g.isNeverEmpty = true := by
  match g, h with
  | .text _ [_], _ => rfl
  | .chars _ _, _ => rfl

/-- A single character leaves one character less. -/
theorem Goal.IsSingle.length_rest {g : Goal} (h : g.IsSingle) {w v : Way} (hv : v ∈ g.ways w) :
    v.1.rest.length + 1 = w.1.rest.length := by
  cases g with
  | chars l set =>
    simp only [ways, Spot.readChar?] at hv
    cases hr : w.1.rest with
    | nil => simp [hr] at hv
    | cons c rest =>
      by_cases hc : set.contains c
      · simp [hr, hc, Spot.after] at hv
        simp [hv]
      · simp [hr, hc] at hv
  | text l t =>
    match t, h with
    | [c], _ =>
      simp only [ways, Spot.readText?] at hv
      cases hr : w.1.rest with
      | nil => simp [hr] at hv
      | cons d rest =>
        by_cases hd : d = c
        · simp [hr, hd, Spot.after] at hv
          simp [hv]
        · simp [hr, hd] at hv
  | _ => simp [IsSingle] at h

/-- At the end of the text a single character has no way. -/
theorem Goal.IsSingle.ways_of_rest_nil {g : Goal} (h : g.IsSingle) {w : Way} (hw : w.1.rest = []) : g.ways w = [] := by
  cases hv : g.ways w with
  | nil => rfl
  | cons v vs =>
    have := h.length_rest (w := w) (v := v) (by rw [hv]; simp)
    rw [hw] at this
    simp at this

/-- A repetition without an upper bound goes round once more or ends. -/
theorem Goal.IsSingle.ways_many {body : Goal} (h : body.IsSingle) (label : Nat) (greedy : Bool) (w : Way) :
    (Goal.many label greedy body).ways w =
      Way.fork greedy ((body.ways w).flatMap (Goal.many label greedy body).ways) w := by
  rw [ways]
  cases hr : w.1.rest with
  | nil =>
    rw [h.ways_of_rest_nil hr]
    cases greedy <;> rfl
  | cons c rest =>
    rw [List.length_cons, Way.upTo]
    congr 1
    apply List.flatMap_congr
    intro v hv
    have hlen := h.length_rest hv
    rw [hr, List.length_cons, Nat.add_right_cancel_iff] at hlen
    rw [ways, hlen]

/-! ## Splitting and reading -/

/-- The ways of a decision are those of its two threads. -/
theorem Goal.waysOf_fork (greedy : Bool) (s : Spot) (enter leave : List Goal) (m : Marks) :
    (Thread.fork greedy ⟨enter, m⟩ ⟨leave, m⟩).flatMap (fun u => waysOf u.stack (s, u.marks)) =
      if greedy then waysOf enter (s, m) ++ waysOf leave (s, m) else waysOf leave (s, m) ++ waysOf enter (s, m) := by
  cases greedy <;> simp [Thread.fork]

/-- The ways that go on after a decision. -/
theorem Way.flatMap_fork (greedy : Bool) (enter : List Way) (leave : Way) (f : Way → List Way) :
    (fork greedy enter leave).flatMap f = if greedy then enter.flatMap f ++ f leave else f leave ++ enter.flatMap f := by
  cases greedy <;> simp [fork]

/-- A thread of plain goals that does not wait for a character has the ways of the threads it is split into. -/
theorem Thread.waysOf_split {t : Thread} (hp : ∀ g ∈ t.stack, g.IsPlain) (hw : t.isWaiting = false)
    (s : Spot) : Goal.waysOf t.stack (s, t.marks) =
      (t.split s.prev s.rest.head? s.place).flatMap (fun u => Goal.waysOf u.stack (s, u.marks)) := by
  obtain ⟨stack, m⟩ := t
  cases stack with
  | nil => simp [split]
  | cons g k =>
    have hg : g.IsPlain := hp g (by simp)
    cases g with
    | skip => simp [split, Goal.waysOf, Goal.ways]
    | text l t =>
      cases t with
      | nil => simp [split, Goal.waysOf, Goal.ways, Spot.readText?]
      | cons c t => simp [isWaiting] at hw
    | chars l set => simp [isWaiting] at hw
    | look a => simp only [split, Goal.waysOf, Goal.ways]; split <;> simp
    | group i body =>
      simp only [split, Goal.waysOf, Goal.ways, List.flatMap_map, List.flatMap_cons, List.flatMap_nil,
        List.append_nil]
    | close i => simp [split, Goal.waysOf, Goal.ways]
    | cat a b => simp [split, Goal.waysOf, Goal.ways, List.flatMap_assoc]
    | alt l a b => simp [split, Goal.waysOf, Goal.ways]
    | times n body =>
      cases n with
      | zero => simp [split, Goal.waysOf, Goal.ways, Way.times]
      | succ n => simp [split, Goal.waysOf, Goal.ways, Way.times, List.flatMap_assoc]
    | upTo l n greedy body =>
      cases n with
      | zero => simp [split, Goal.waysOf, Goal.ways, Way.upTo]
      | succ n =>
        simp only [split, Goal.waysOf_fork]
        simp only [Goal.waysOf, Goal.ways, Way.upTo, Way.flatMap_fork, List.flatMap_assoc]
    | many l greedy body =>
      rw [Goal.waysOf, Goal.IsSingle.ways_many hg, Way.flatMap_fork]
      simp only [split, Goal.waysOf_fork, Goal.waysOf, List.flatMap_assoc]

/-- A thread that waits for a character has the ways that it has after it has read the character. -/
theorem Thread.waysOf_read {t : Thread} (hw : t.isWaiting = true) (s : Spot) (c : Char) (rest : Text)
    (hs : s.rest = c :: rest) : Goal.waysOf t.stack (s, t.marks) =
      (t.read? c).toList.flatMap (fun u => Goal.waysOf u.stack (s.after c rest, u.marks)) := by
  obtain ⟨stack, m⟩ := t
  match stack with
  | [] => simp [isWaiting] at hw
  | .text l (d :: t) :: k =>
    by_cases hc : c = d
    · simp [read?, Goal.waysOf, Goal.ways, Spot.readText?, hs, hc]
    · simp [read?, Goal.waysOf, Goal.ways, Spot.readText?, hs, hc]
  | .chars l set :: k =>
    by_cases hc : set.contains c
    · simp [read?, Goal.waysOf, Goal.ways, Spot.readChar?, hs, hc]
    · simp [read?, Goal.waysOf, Goal.ways, Spot.readChar?, hs, hc]
  | .text _ [] :: _ | .skip :: _ | .look _ :: _ | .group _ _ :: _ | .close _ :: _ | .cat _ _ :: _ | .alt _ _ _ :: _
  | .times _ _ :: _ | .upTo _ _ _ _ :: _ | .many _ _ _ :: _ => simp [isWaiting] at hw

/-- A thread that waits for a character has no way at the end of the text. -/
theorem Thread.waysOf_end {t : Thread} (hw : t.isWaiting = true) (s : Spot) (hs : s.rest = []) :
    Goal.waysOf t.stack (s, t.marks) = [] := by
  obtain ⟨stack, m⟩ := t
  match stack with
  | [] => simp [isWaiting] at hw
  | .text l (d :: t) :: k => simp [Goal.waysOf, Goal.ways, Spot.readText?, hs]
  | .chars l set :: k => simp [Goal.waysOf, Goal.ways, Spot.readChar?, hs]
  | .text _ [] :: _ | .skip :: _ | .look _ :: _ | .group _ _ :: _ | .close _ :: _ | .cat _ _ :: _ | .alt _ _ _ :: _
  | .times _ _ :: _ | .upTo _ _ _ _ :: _ | .many _ _ _ :: _ => simp [isWaiting] at hw

end PathRouting
