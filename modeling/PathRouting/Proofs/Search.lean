import Mathlib.Algebra.Order.BigOperators.Group.List
import Mathlib.Algebra.Order.Ring.Nat
import PathRouting.Proofs.Ways

/-!
# The search finds the preferred way

Statements about `follow` and `searchFrom` for plain goals: the rounds suffice, a thread whose rest was met before is
dropped without loss, and the marks found are those of the preferred way from the first place that has one. The invariant
that carries `follow` is `Covered`: a rest that was met and has a way is answered for by threads that wait already, or by
the threads at the head of the work that it was split into.
-/

namespace PathRouting

/-! ## The rounds suffice -/

/-- A bound on the rounds that a plain goal takes at one place. A character that it waits for takes none. -/
def Goal.cost : Goal → Nat
  | .text _ t => if t.isEmpty then 1 else 0
  | .chars _ _ => 0
  | .group _ body => body.cost + 2
  | .cat a b => a.cost + b.cost + 1
  | .alt _ a b => a.cost + b.cost + 2
  | .upTo _ count _ _ => min count 1 + 1
  | .many _ _ _ => 2
  | _ => 1

/-- A bound on the rounds that some goals take, all of them counted. -/
def Goal.costOf (k : List Goal) : Nat := (k.map cost).sum

@[simp] theorem Goal.costOf_nil : costOf [] = 0 := rfl

@[simp] theorem Goal.costOf_cons (g : Goal) (k : List Goal) : costOf (g :: k) = g.cost + costOf k := by
  simp [costOf]

/-- A bound on the rounds that some goals take before one of them has read a character. -/
def Goal.costAhead : List Goal → Nat
  | [] => 0
  | g :: k => g.cost + if g.isNeverEmpty then 0 else costAhead k

/-- What goals cost before a character is read is no more than what they cost. -/
theorem Goal.costAhead_le (k : List Goal) : costAhead k ≤ costOf k := by
  induction k with
  | nil => exact Nat.le_refl 0
  | cons g k ih =>
    rw [costAhead, costOf_cons]
    split
    · omega
    · omega

/-- A single character is waited for at once. -/
theorem Goal.IsSingle.cost_eq {g : Goal} (h : g.IsSingle) : g.cost = 0 := by
  match g, h with
  | .text _ [_], _ => rfl
  | .chars _ _, _ => rfl

/-- A goal costs no more than its size, and less if it reads a character. -/
theorem Goal.cost_add_le_size (g : Goal) (h : g.IsPlain) : g.cost + (if g.isNeverEmpty then 1 else 0) ≤ g.size := by
  induction g with
  | text l t => cases t <;> simp [cost, isNeverEmpty, size]
  | chars l set => simp [cost, isNeverEmpty, size]
  | group i body ih =>
    have hbody := ih h
    rw [cost, isNeverEmpty, size]
    omega
  | cat a b iha ihb =>
    have ha := iha h.1
    have hb := ihb h.2
    rw [cost, isNeverEmpty, size]
    cases hna : a.isNeverEmpty <;> cases hnb : b.isNeverEmpty <;>
      simp only [hna, hnb, Bool.or_false, Bool.or_true, Bool.false_eq_true, if_false, if_true] at ha hb ⊢ <;> omega
  | alt l a b iha ihb =>
    have ha := iha h.1.1
    have hb := ihb h.1.2
    simp only [h.2.1, h.2.2, cost, isNeverEmpty, size, Bool.and_self, if_true] at ha hb ⊢
    omega
  | times n body ih =>
    cases n with
    | zero => simp [cost, isNeverEmpty, size]
    | succ n =>
      simp only [cost, size, Nat.succ_mul]
      split
      · omega
      · omega
  | upTo l n greedy body ih =>
    cases n with
    | zero => simp [cost, isNeverEmpty, size]
    | succ n =>
      simp only [cost, isNeverEmpty, size, Nat.succ_mul, Bool.false_eq_true, if_false]
      omega
  | many l greedy body ih =>
    have hbody := ih h.isPlain
    rw [if_pos h.isNeverEmpty] at hbody
    simp only [cost, isNeverEmpty, size, Bool.false_eq_true, if_false]
    omega
  | _ => simp [cost, isNeverEmpty, size]

/-- A goal costs no more than its size. -/
theorem Goal.cost_le_size (g : Goal) (h : g.IsPlain) : g.cost ≤ g.size :=
  Nat.le_trans (Nat.le_add_right _ _) (g.cost_add_le_size h)

/-- The goals behind a reader at the head. -/
def Goal.behind : List Goal → List Goal
  | .text _ _ :: k => k
  | .chars _ _ :: k => k
  | k => k

namespace Thread

/-- A bound on the rounds that a thread takes at one place. -/
def effort (t : Thread) : Nat := Goal.costAhead t.stack + 1

/-- A thread of plain goals that together cost no more than a bound, one reader apart. -/
structure IsPlain (bound : Nat) (t : Thread) : Prop where
  goals : ∀ g ∈ t.stack, g.IsPlain
  cost_le : Goal.costOf (Goal.behind t.stack) ≤ bound

/-- Every thread takes some effort. -/
theorem effort_pos (t : Thread) : 1 ≤ t.effort := Nat.le_add_left 1 _

/-- The cost of goals is that of the goals behind a reader and at most one. -/
theorem costOf_le_behind (k : List Goal) : Goal.costOf k ≤ Goal.costOf (Goal.behind k) + 1 := by
  unfold Goal.behind
  split
  · rw [Goal.costOf_cons, Goal.cost]
    split <;> omega
  · rw [Goal.costOf_cons, Goal.cost]
    omega
  · omega

/-- A thread of plain goals takes at most two rounds more at one place than the bound on their cost. -/
theorem IsPlain.effort_le {bound : Nat} {t : Thread} (h : t.IsPlain bound) : t.effort ≤ bound + 2 := by
  have h1 := costOf_le_behind t.stack
  have h2 := h.cost_le
  have h3 := Goal.costAhead_le t.stack
  unfold effort
  omega

/-- A thread that starts with a single character takes one round. -/
theorem effort_of_isSingle {g : Goal} (h : g.IsSingle) (k : List Goal) (m : Marks) : effort ⟨g :: k, m⟩ = 1 := by
  rw [effort, Goal.costAhead, if_pos h.isNeverEmpty, h.cost_eq]

/-- Splitting a thread leaves less effort: each alternative reads a character before it comes to what is behind. -/
theorem effort_split {t : Thread} (hp : ∀ g ∈ t.stack, g.IsPlain) (hne : t.stack ≠ []) (hw : t.isWaiting = false)
    (prev next : Option Char) (place : Nat) : ((t.split prev next place).map effort).sum < t.effort := by
  obtain ⟨stack, m⟩ := t
  cases stack with
  | nil => exact absurd rfl hne
  | cons g k =>
    have hg : g.IsPlain := hp g (by simp)
    have hcost : effort ⟨g :: k, m⟩ = g.cost + (if g.isNeverEmpty then 0 else Goal.costAhead k) + 1 := rfl
    rw [hcost]
    have hdrop : ∀ m', effort ⟨k, m'⟩ = Goal.costAhead k + 1 := fun _ => rfl
    cases g with
    | text l t =>
      cases t with
      | nil => simp [split, hdrop, Goal.cost, Goal.isNeverEmpty]
      | cons c t => simp [isWaiting] at hw
    | chars l set => simp [isWaiting] at hw
    | look a =>
      simp only [split]
      split
      · simp [hdrop, Goal.cost, Goal.isNeverEmpty]
      · simp
    | group i body =>
      cases hbody : body.isNeverEmpty
      · simp [split, effort, Goal.costAhead, Goal.cost, Goal.isNeverEmpty, hbody]
        omega
      · simp [split, effort, Goal.costAhead, Goal.cost, Goal.isNeverEmpty, hbody]
    | cat a b =>
      have hsplit : (((⟨.cat a b :: k, m⟩ : Thread).split prev next place).map effort).sum = effort ⟨a :: b :: k, m⟩ := by
        simp only [split, List.map_cons, List.map_nil, List.sum_cons, List.sum_nil, Nat.add_zero]
      rw [hsplit, effort, Goal.costAhead, Goal.costAhead, Goal.cost, Goal.isNeverEmpty]
      cases a.isNeverEmpty with
      | true =>
        rw [Bool.true_or, if_pos rfl, if_pos rfl]
        omega
      | false =>
        rw [Bool.false_or, if_neg Bool.false_ne_true]
        cases b.isNeverEmpty with
        | true =>
          rw [if_pos rfl]
          omega
        | false =>
          rw [if_neg Bool.false_ne_true]
          omega
    | alt l a b =>
      simp only [split, effort, Goal.costAhead, Goal.cost, Goal.isNeverEmpty, hg.2.1, hg.2.2, List.map_cons, List.map_nil,
        List.sum_cons, List.sum_nil, Bool.and_self, if_true]
      omega
    | times n body =>
      cases n with
      | zero => simp [split, hdrop, Goal.cost, Goal.isNeverEmpty]
      | succ n =>
        simp only [split, List.map_cons, List.map_nil, List.sum_cons, List.sum_nil, effort_of_isSingle hg, Goal.cost]
        omega
    | upTo l n greedy body =>
      cases n with
      | zero => simp [split, hdrop, Goal.cost, Goal.isNeverEmpty]
      | succ n =>
        cases greedy <;>
          simp only [split, fork, List.map_cons, List.map_nil, List.sum_cons, List.sum_nil, effort_of_isSingle hg, hdrop,
            Goal.cost, Goal.isNeverEmpty, Bool.false_eq_true, if_true, if_false] <;> omega
    | many l greedy body =>
      cases greedy <;>
        simp only [split, fork, List.map_cons, List.map_nil, List.sum_cons, List.sum_nil, effort_of_isSingle hg, hdrop,
          Goal.cost, Goal.isNeverEmpty, Bool.false_eq_true, if_true, if_false] <;> omega
    | skip => simp [split, hdrop, Goal.cost, Goal.isNeverEmpty]
    | close i => simp [split, hdrop, Goal.cost, Goal.isNeverEmpty]

/-! ## Threads stay plain -/

/-- The goals behind a reader cost no more than all of them. -/
theorem costOf_behind_le (k : List Goal) : Goal.costOf (Goal.behind k) ≤ Goal.costOf k := by
  unfold Goal.behind
  split <;> simp

/-- Where a single character stands before goals, these are behind it. -/
theorem behind_of_isSingle {g : Goal} (h : g.IsSingle) (k : List Goal) : Goal.behind (g :: k) = k := by
  match g, h with
  | .text _ [_], _ => rfl
  | .chars _ _, _ => rfl

/-- Goals that cost no more than the bound make a plain thread. -/
theorem isPlain_of_costOf_le {bound : Nat} {k : List Goal} (hk : ∀ g ∈ k, g.IsPlain) (hcost : Goal.costOf k ≤ bound)
    (m : Marks) : IsPlain bound ⟨k, m⟩ := ⟨hk, Nat.le_trans (costOf_behind_le k) hcost⟩

/-- A thread that reads a single character before it goes on with other goals is plain if these cost no more than the
bound. -/
theorem isPlain_cons_of_isSingle {bound : Nat} {g : Goal} {k : List Goal} (hg : g.IsSingle) (hk : ∀ g ∈ k, g.IsPlain)
    (hcost : Goal.costOf k ≤ bound) (m : Marks) : IsPlain bound ⟨g :: k, m⟩ := by
  refine ⟨?_, by rw [behind_of_isSingle hg]; exact hcost⟩
  intro x hx
  rcases List.mem_cons.1 hx with rfl | hx
  · exact hg.isPlain
  · exact hk x hx

/-- A thread that is split leaves plain threads. -/
theorem IsPlain.split {bound : Nat} {t : Thread} (h : t.IsPlain bound) (hw : t.isWaiting = false)
    (prev next : Option Char) (place : Nat) : ∀ u ∈ t.split prev next place, u.IsPlain bound := by
  obtain ⟨stack, m⟩ := t
  obtain ⟨hgoals, hcost⟩ := h
  cases stack with
  | nil =>
    intro u hu
    rw [Thread.split, List.mem_singleton] at hu
    subst hu
    exact ⟨hgoals, hcost⟩
  | cons g k =>
    have hg : g.IsPlain := hgoals g (by simp)
    have hk : ∀ g ∈ k, g.IsPlain := fun x hx => hgoals x (List.mem_cons_of_mem g hx)
    have hcostk : Goal.costOf k ≤ bound := by
      cases g <;> simp only [Goal.behind, Goal.costOf_cons] at hcost <;> omega
    have hdrop : ∀ m', IsPlain bound ⟨k, m'⟩ := isPlain_of_costOf_le hk hcostk
    cases g with
    | skip => simpa [Thread.split] using hdrop m
    | text l t =>
      cases t with
      | nil => simpa [Thread.split] using hdrop m
      | cons c t => simp [isWaiting] at hw
    | chars l set => simp [isWaiting] at hw
    | look a =>
      simp only [Thread.split]
      split
      · simpa using hdrop m
      · simp
    | group i body =>
      simp only [Goal.behind, Goal.costOf_cons, Goal.cost] at hcost
      simp only [Thread.split, List.mem_singleton, forall_eq]
      refine isPlain_of_costOf_le ?_ ?_ _
      · intro x hx
        simp only [List.mem_cons] at hx
        rcases hx with rfl | rfl | hx
        · exact hg
        · trivial
        · exact hk x hx
      · simp only [Goal.costOf_cons, Goal.cost]
        omega
    | close i => simpa [Thread.split] using hdrop _
    | cat a b =>
      simp only [Goal.behind, Goal.costOf_cons, Goal.cost] at hcost
      simp only [Thread.split, List.mem_singleton, forall_eq]
      refine isPlain_of_costOf_le ?_ ?_ _
      · intro x hx
        simp only [List.mem_cons] at hx
        rcases hx with rfl | rfl | hx
        · exact hg.1
        · exact hg.2
        · exact hk x hx
      · simp only [Goal.costOf_cons]
        omega
    | alt l a b =>
      simp only [Goal.behind, Goal.costOf_cons, Goal.cost] at hcost
      have hone : ∀ x : Goal, x.IsPlain → x.cost + Goal.costOf k ≤ bound → IsPlain bound ⟨x :: k, m⟩ := fun x hx hle =>
        isPlain_of_costOf_le (List.forall_mem_cons.2 ⟨hx, hk⟩) (by rwa [Goal.costOf_cons]) m
      simp only [Thread.split, List.mem_cons, List.not_mem_nil, or_false, forall_eq_or_imp, forall_eq]
      exact ⟨hone a hg.1.1 (by omega), hone b hg.1.2 (by omega)⟩
    | times n body =>
      cases n with
      | zero => simpa [Thread.split] using hdrop m
      | succ n =>
        simp only [Thread.split, List.mem_singleton, forall_eq]
        exact isPlain_cons_of_isSingle (k := .times n body :: k) hg (List.forall_mem_cons.2 ⟨hg, hk⟩) hcost m
    | upTo l n greedy body =>
      cases n with
      | zero => simpa [Thread.split] using hdrop m
      | succ n =>
        have hin : IsPlain bound ⟨body :: .upTo l n greedy body :: k, m⟩ := by
          refine isPlain_cons_of_isSingle (k := .upTo l n greedy body :: k) hg (List.forall_mem_cons.2 ⟨hg, hk⟩) ?_ m
          simp only [Goal.behind, Goal.costOf_cons, Goal.cost] at hcost ⊢
          omega
        have hout := hdrop m
        cases greedy <;> simp [Thread.split, fork, hin, hout]
    | many l greedy body =>
      have hin : IsPlain bound ⟨body :: .many l greedy body :: k, m⟩ :=
        isPlain_cons_of_isSingle hg (List.forall_mem_cons.2 ⟨hg, hk⟩) hcost m
      have hout := hdrop m
      cases greedy <;> simp [Thread.split, fork, hin, hout]

/-- A thread that has read a character is plain. -/
theorem IsPlain.read {bound : Nat} {t u : Thread} (h : t.IsPlain bound) {c : Char} (hr : t.read? c = some u) :
    u.IsPlain bound := by
  obtain ⟨stack, m⟩ := t
  obtain ⟨hgoals, hcost⟩ := h
  unfold read? at hr
  split at hr
  · rename_i l d r k hs
    simp only at hs
    subst hs
    split at hr
    · rw [← Option.some.inj hr]
      exact ⟨List.forall_mem_cons.2 ⟨trivial, fun g hg => hgoals g (List.mem_cons_of_mem _ hg)⟩, hcost⟩
    · exact absurd hr (by simp)
  · rename_i l set k hs
    simp only at hs
    subst hs
    split at hr
    · rw [← Option.some.inj hr]
      exact ⟨fun g hg => hgoals g (List.mem_cons_of_mem _ hg), Nat.le_trans (costOf_behind_le k) hcost⟩
    · exact absurd hr (by simp)
  · exact absurd hr (by simp)

end Thread

/-! ## Dropping what was met -/

/-- A stack that was met is the one inserted last or was met before. -/
theorem Seen.contains_insert {seen : Seen} {a b : List Goal}
    (h : (seen.insert (Thread.key a) a).contains (Thread.key b) b = true) :
    b = a ∨ seen.contains (Thread.key b) b = true := by
  simp only [Seen.contains, Seen.insert, Std.TreeMap.getD_insert] at h
  split at h
  · rename_i hk
    have hkey : Thread.key a = Thread.key b := Nat.compare_eq_eq.1 hk
    rw [List.any_cons, Bool.or_eq_true, sameStack_iff] at h
    rcases h with h | h
    · exact Or.inl h
    · exact Or.inr (by rw [Seen.contains, ← hkey]; exact h)
  · exact Or.inr h

/-- At the start nothing has been seen. -/
theorem Seen.contains_none (key : Nat) (stack : List Goal) : Seen.none.contains key stack = false := by
  simp [Seen.contains, Seen.none]

/-- A rest that has a way is answered for: threads that wait, or threads at the head of the work that take less effort,
have a way. -/
def Covered (s : Spot) (waiting work : List Thread) (stack : List Goal) : Prop :=
  (∃ m, (Thread.best s ⟨stack, m⟩).isSome) →
    ∃ head tail, work = head ++ tail ∧ (∀ t ∈ head, t.effort < Thread.effort ⟨stack, []⟩) ∧
      ((waiting.reverse ++ head).findSome? (Thread.best s)).isSome

namespace Covered

variable {s : Spot} {waiting work : List Thread} {stack : List Goal}

/-- A thread with a rest that was met has no way that counts: where it has one, a waiting thread has one too, since
the threads that answer for a rest take less effort than a thread with this rest. -/
theorem findSome?_waiting {t : Thread} (h : Covered s waiting (t :: work) t.stack) (hb : (t.best s).isSome) :
    (waiting.reverse.findSome? (Thread.best s)).isSome := by
  obtain ⟨head, tail, hw, hlt, hsome⟩ := h ⟨t.marks, hb⟩
  cases head with
  | nil => simpa using hsome
  | cons u head =>
    obtain ⟨rfl, -⟩ := List.cons.inj hw
    exact absurd (hlt t (by simp)) (Nat.lt_irrefl _)

/-- Without such a thread the preferred way is the same. -/
theorem findSome?_drop {t : Thread} (h : Covered s waiting (t :: work) t.stack) :
    (waiting.reverse ++ t :: work).findSome? (Thread.best s) = (waiting.reverse ++ work).findSome? (Thread.best s) := by
  rw [List.findSome?_append, List.findSome?_append, List.findSome?_cons]
  cases hb : t.best s with
  | none => rfl
  | some m =>
    obtain ⟨m', hm'⟩ := Option.isSome_iff_exists.1 (h.findSome?_waiting (by simp [hb]))
    rw [hm', Option.some_or, Option.some_or]

/-- A thread whose rest is answered for by waiting threads can be dropped. -/
theorem drop {t : Thread} (h : Covered s waiting (t :: work) stack)
    (ht : (t.best s).isSome → (waiting.reverse.findSome? (Thread.best s)).isSome) : Covered s waiting work stack := by
  intro hm
  obtain ⟨head, tail, hw, hlt, hsome⟩ := h hm
  cases head with
  | nil => exact ⟨[], work, rfl, by simp, hsome⟩
  | cons u head =>
    obtain ⟨rfl, rfl⟩ := List.cons.inj hw
    refine ⟨head, tail, rfl, fun u hu => hlt u (List.mem_cons_of_mem t hu), ?_⟩
    rw [List.findSome?_append, List.findSome?_cons] at hsome
    rw [List.findSome?_append]
    cases hb : t.best s with
    | none => simpa [hb] using hsome
    | some m =>
      have := ht (by simp [hb])
      rw [Option.isSome_or, this, Bool.true_or]

/-- A thread that comes to wait still answers. -/
theorem wait {t : Thread} (h : Covered s waiting (t :: work) stack) : Covered s (t :: waiting) work stack := by
  intro hm
  obtain ⟨head, tail, hw, hlt, hsome⟩ := h hm
  cases head with
  | nil =>
    refine ⟨[], work, rfl, by simp, ?_⟩
    rw [List.append_nil] at hsome ⊢
    rw [List.reverse_cons, List.findSome?_append, Option.isSome_or, hsome, Bool.true_or]
  | cons u head =>
    obtain ⟨rfl, rfl⟩ := List.cons.inj hw
    refine ⟨head, tail, rfl, fun u hu => hlt u (List.mem_cons_of_mem t hu), ?_⟩
    simpa using hsome

/-- The threads that a thread is split into answer in its place. -/
theorem split {t : Thread} {threads : List Thread} (h : Covered s waiting (t :: work) stack)
    (hlt : ∀ u ∈ threads, u.effort < t.effort) (hb : threads.findSome? (Thread.best s) = t.best s) :
    Covered s waiting (threads ++ work) stack := by
  intro hm
  obtain ⟨head, tail, hw, hle, hsome⟩ := h hm
  cases head with
  | nil => exact ⟨[], threads ++ work, rfl, by simp, hsome⟩
  | cons u head =>
    obtain ⟨rfl, rfl⟩ := List.cons.inj hw
    refine ⟨threads ++ head, tail, by simp, ?_, ?_⟩
    · intro u hu
      rcases List.mem_append.1 hu with hu | hu
      · exact Nat.lt_trans (hlt u hu) (hle t (by simp))
      · exact hle u (List.mem_cons_of_mem t hu)
    · rw [List.findSome?_append, List.findSome?_cons] at hsome
      rw [List.findSome?_append, List.findSome?_append, hb]
      cases hbt : t.best s <;> simp_all

/-- The threads that a thread is split into answer for its own rest. -/
theorem self {t : Thread} {threads : List Thread} (hlt : ∀ u ∈ threads, u.effort < t.effort)
    (hb : threads.findSome? (Thread.best s) = t.best s) : Covered s waiting (threads ++ work) t.stack := by
  intro ⟨m, hm⟩
  rw [Thread.isSome_best_of_stack_eq (t := ⟨t.stack, m⟩) (u := t) rfl s, ← hb] at hm
  refine ⟨threads, work, rfl, hlt, ?_⟩
  rw [List.findSome?_append, Option.isSome_or, hm, Bool.or_true]

/-- A thread that waits answers for its own rest. -/
theorem self_waiting {t : Thread} : Covered s (t :: waiting) work t.stack := by
  intro ⟨m, hm⟩
  rw [Thread.isSome_best_of_stack_eq (t := ⟨t.stack, m⟩) (u := t) rfl s] at hm
  refine ⟨[], work, rfl, by simp, ?_⟩
  rw [List.append_nil, List.reverse_cons, List.findSome?_append, Option.isSome_or]
  simp [hm]

end Covered

/-! ## Following threads -/

/-- The preferred way of a thread is the first that the threads it is split into have. -/
theorem Thread.findSome?_split {t : Thread} (hp : ∀ g ∈ t.stack, g.IsPlain) (hw : t.isWaiting = false) (s : Spot) :
    (t.split s.prev s.rest.head? s.place).findSome? (Thread.best s) = t.best s := by
  rw [Thread.best, Thread.waysOf_split hp hw s, List.head?_flatMap, List.map_findSome?]
  rfl

/-- Splitting a thread that does not wait keeps the preferred way of all threads. -/
theorem Thread.findSome?_split_append {t : Thread} (hp : ∀ g ∈ t.stack, g.IsPlain) (hw : t.isWaiting = false) (s : Spot)
    (waiting work : List Thread) :
    (waiting.reverse ++ (t.split s.prev s.rest.head? s.place ++ work)).findSome? (Thread.best s) =
      (waiting.reverse ++ t :: work).findSome? (Thread.best s) := by
  have h := Thread.findSome?_split hp hw s
  simp only [List.findSome?_append, List.findSome?_cons, h]
  cases t.best s <;> simp

/-- The threads that a thread is split into take less effort. -/
theorem Thread.effort_lt_of_mem_split {t : Thread} (hp : ∀ g ∈ t.stack, g.IsPlain) (hne : t.stack ≠ [])
    (hw : t.isWaiting = false) (prev next : Option Char) (place : Nat) :
    ∀ u ∈ t.split prev next place, u.effort < t.effort := by
  intro u hu
  have hsum := effort_split hp hne hw prev next place
  have hle : u.effort ≤ ((t.split prev next place).map effort).sum := List.le_sum_of_mem (List.mem_map_of_mem hu)
  omega

/-- A thread that does not come to a decision does not wait. -/
theorem Thread.isWaiting_of_not_isDecision {t : Thread} (h : Thread.isDecision t.stack = false) :
    t.isWaiting = false := by
  unfold isDecision at h
  unfold isWaiting
  split at h <;> simp_all

/-- Splitting the thread at the head of the work keeps within the rounds. -/
theorem Thread.effort_split_append {t : Thread} {work : List Thread} (hp : ∀ g ∈ t.stack, g.IsPlain)
    (hne : t.stack ≠ []) (hw : t.isWaiting = false) (s : Spot) {rounds : Nat}
    (h : ((t :: work).map effort).sum < rounds + 1) :
    ((t.split s.prev s.rest.head? s.place ++ work).map effort).sum < rounds := by
  have := effort_split hp hne hw s.prev s.rest.head? s.place
  simp only [List.map_cons, List.sum_cons, List.map_append, List.sum_append] at h ⊢
  omega

/-- Following threads keeps the preferred way: it is that of a waiting thread, or else the marks of the thread that has
nothing left to do. -/
theorem follow_findSome? (s : Spot) (bound : Nat) :
    ∀ (rounds : Nat) (work : List Thread) (seen : Seen) (waiting : List Thread),
      (∀ t ∈ work, t.IsPlain bound) → (∀ t ∈ waiting, t.IsPlain bound ∧ t.isWaiting = true) →
      (work.map Thread.effort).sum < rounds →
      (∀ stack, seen.contains (Thread.key stack) stack = true → Covered s waiting work stack) →
      (((follow s.prev s.rest.head? s.place rounds work seen waiting).1.findSome? (Thread.best s)).or
          (follow s.prev s.rest.head? s.place rounds work seen waiting).2 =
        (waiting.reverse ++ work).findSome? (Thread.best s)) ∧
      ∀ t ∈ (follow s.prev s.rest.head? s.place rounds work seen waiting).1, t.IsPlain bound ∧ t.isWaiting = true := by
  intro rounds
  induction rounds with
  | zero => intro work seen waiting _ _ hr; omega
  | succ rounds ih =>
    intro work seen waiting hp hwait hr hseen
    cases work with
    | nil => exact ⟨by simp [follow], by simpa [follow] using hwait⟩
    | cons t work =>
      have hpt : t.IsPlain bound := hp t (by simp)
      have hpw : ∀ u ∈ work, u.IsPlain bound := fun u hu => hp u (List.mem_cons_of_mem t hu)
      cases hstack : t.stack with
      | nil =>
        have hbest : t.best s = some t.marks := by simp [Thread.best, hstack, Goal.waysOf]
        simp only [follow, hstack]
        refine ⟨?_, by simpa using hwait⟩
        rw [List.findSome?_append, List.findSome?_cons, hbest]
      | cons g k =>
        have hne : t.stack ≠ [] := by simp [hstack]
        have hrest : (work.map Thread.effort).sum < rounds := by
          have := t.effort_pos
          simp only [List.map_cons, List.sum_cons] at hr
          omega
        have hplain : t.isWaiting = false →
            ∀ u ∈ t.split s.prev s.rest.head? s.place ++ work, u.IsPlain bound := by
          intro hw u hu
          rcases List.mem_append.1 hu with hu | hu
          · exact hpt.split hw _ _ _ u hu
          · exact hpw u hu
        have hlt : t.isWaiting = false → ∀ u ∈ t.split s.prev s.rest.head? s.place, u.effort < t.effort :=
          fun hw => Thread.effort_lt_of_mem_split hpt.goals hne hw s.prev s.rest.head? s.place
        cases hdec : Thread.isDecision (g :: k) with
        | false =>
          have hw : t.isWaiting = false := Thread.isWaiting_of_not_isDecision (by rw [hstack, hdec])
          simp only [follow, hstack, hdec, Bool.false_eq_true, if_false]
          rw [← Thread.findSome?_split_append hpt.goals hw s]
          exact ih _ _ _ (hplain hw) hwait (Thread.effort_split_append hpt.goals hne hw s hr)
            (fun stack hs => (hseen stack hs).split (hlt hw) (Thread.findSome?_split hpt.goals hw s))
        | true =>
          cases hmet : seen.contains (Thread.key (g :: k)) (g :: k) with
          | true =>
            have hcov := hseen (g :: k) hmet
            rw [← hstack] at hcov
            simp only [follow, hstack, hdec, if_true, hmet]
            rw [hcov.findSome?_drop]
            exact ih _ _ _ hpw hwait hrest (fun stack hs => (hseen stack hs).drop hcov.findSome?_waiting)
          | false =>
            cases hw : t.isWaiting with
            | true =>
              simp only [follow, hstack, hdec, if_true, hmet, hw, Bool.false_eq_true, if_false]
              have h := ih work (seen.insert (Thread.key (g :: k)) (g :: k)) (t :: waiting) hpw
                (List.forall_mem_cons.2 ⟨⟨hpt, hw⟩, hwait⟩) hrest (by
                  intro stack hs
                  rcases Seen.contains_insert hs with rfl | hs
                  · rw [← hstack]
                    exact Covered.self_waiting
                  · exact (hseen stack hs).wait)
              simpa using h
            | false =>
              simp only [follow, hstack, hdec, if_true, hmet, hw, Bool.false_eq_true, if_false]
              rw [← Thread.findSome?_split_append hpt.goals hw s]
              apply ih _ _ _ (hplain hw) hwait (Thread.effort_split_append hpt.goals hne hw s hr)
              intro stack hs
              rcases Seen.contains_insert hs with rfl | hs
              · rw [← hstack]
                exact Covered.self (hlt hw) (Thread.findSome?_split hpt.goals hw s)
              · exact (hseen stack hs).split (hlt hw) (Thread.findSome?_split hpt.goals hw s)

/-! ## Searching -/

/-- The marks of the preferred way of an expression from the first place on that has one. -/
def Goal.firstWay (root : Goal) : (prev : Option Char) → (place : Nat) → Text → Option Marks
  | prev, place, [] => Thread.best ⟨prev, place, []⟩ ⟨[root], []⟩
  | prev, place, c :: rest =>
    (Thread.best ⟨prev, place, c :: rest⟩ ⟨[root], []⟩).or (root.firstWay (some c) (place + 1) rest)

/-- The preferred way of threads that wait is the one they have after they have read the next character. -/
theorem Thread.findSome?_read {waiting : List Thread} (h : ∀ t ∈ waiting, t.isWaiting = true) (s : Spot) (c : Char)
    (rest : Text) (hs : s.rest = c :: rest) :
    (waiting.filterMap (Thread.read? c)).findSome? (Thread.best (s.after c rest)) = waiting.findSome? (Thread.best s) := by
  induction waiting with
  | nil => rfl
  | cons t waiting ih =>
    have ht := Thread.waysOf_read (h t (by simp)) s c rest hs
    have hrest := ih (fun u hu => h u (List.mem_cons_of_mem t hu))
    rw [List.findSome?_cons, Thread.best, ht]
    cases hr : t.read? c with
    | none =>
      rw [List.filterMap_cons_none hr, hrest]
      rfl
    | some u =>
      rw [List.filterMap_cons_some hr, List.findSome?_cons, hrest]
      simp only [Option.toList_some, List.flatMap_cons, List.flatMap_nil, List.append_nil]
      rfl

/-- The rounds of one place suffice for as many plain threads as it has. -/
theorem effort_sum_lt_roundsFor {bound size : Nat} (hb : bound ≤ size) {work : List Thread}
    (h : ∀ t ∈ work, t.IsPlain bound) : (work.map Thread.effort).sum < roundsFor size work.length := by
  have hle : (work.map Thread.effort).sum ≤ work.length * (size + 2) := by
    have h1 := List.sum_le_card_nsmul (work.map Thread.effort) (size + 2) (by
      intro n hn
      obtain ⟨t, ht, rfl⟩ := List.mem_map.1 hn
      have := (h t ht).effort_le
      omega)
    simpa using h1
  have hlt : work.length * (size + 2) < (work.length + 2 * size + 2) * (size + 2) :=
    Nat.mul_lt_mul_of_pos_right (by omega) (by omega)
  unfold roundsFor
  omega

/-- An expression is a plain thread, within its size. -/
theorem Goal.IsPlain.thread {root : Goal} (h : root.IsPlain) : Thread.IsPlain root.size ⟨[root], []⟩ := by
  refine ⟨by simpa using h, ?_⟩
  have h1 : Goal.costOf (Goal.behind [root]) ≤ Goal.costOf [root] := Thread.costOf_behind_le [root]
  have h2 := root.cost_le_size h
  rw [Goal.costOf_cons, Goal.costOf_nil] at h1
  exact Nat.le_trans h1 (by omega)

/-- The threads that are followed at a place: the expression itself is the last as long as nothing was found. -/
def started (root : Goal) (work : List Thread) (found : Option Marks) : List Thread :=
  if found.isNone then work ++ [⟨[root], []⟩] else work

/-- What the threads at one place come to is the preferred way of the work, then what was found, then the preferred way of
the expression itself. -/
theorem follow_started {root : Goal} (hroot : root.IsPlain) (s : Spot) {work : List Thread} {found : Option Marks}
    (hp : ∀ t ∈ work, t.IsPlain root.size) {waiting : List Thread} {hit : Option Marks}
    (hf : follow s.prev s.rest.head? s.place (roundsFor root.size (started root work found).length)
      (started root work found) .none [] = (waiting, hit)) :
    (∀ t ∈ waiting, t.IsPlain root.size ∧ t.isWaiting = true) ∧
      ∀ later : Option Marks, (waiting.findSome? (Thread.best s)).or ((hit.or found).or later) =
        (work.findSome? (Thread.best s)).or (found.or ((Thread.best s ⟨[root], []⟩).or later)) := by
  have hall : ∀ t ∈ started root work found, t.IsPlain root.size := by
    intro t ht
    unfold started at ht
    split at ht
    · rcases List.mem_append.1 ht with ht | ht
      · exact hp t ht
      · rw [List.mem_singleton.1 ht]
        exact hroot.thread
    · exact hp t ht
  obtain ⟨heq, hwait⟩ := follow_findSome? s root.size _ (started root work found) .none [] hall (by simp)
    (effort_sum_lt_roundsFor (Nat.le_refl _) hall) (by simp [Seen.contains_none])
  rw [hf] at heq hwait
  refine ⟨hwait, fun later => ?_⟩
  rw [Option.or_assoc, ← Option.or_assoc, heq, List.reverse_nil, List.nil_append, started]
  cases found with
  | none => simp [Option.or_assoc, List.findSome?_append]
  | some m => simp

/-- A search finds the marks of the preferred way: that of the threads at work, else the match that was found, else that
of the first place from here on. -/
theorem searchFrom_eq {root : Goal} (hroot : root.IsPlain) (rest : Text) :
    ∀ (prev : Option Char) (place : Nat) (work : List Thread) (found : Option Marks),
      (∀ t ∈ work, t.IsPlain root.size) →
      searchFrom root root.size prev place work found rest =
        (work.findSome? (Thread.best ⟨prev, place, rest⟩)).or (found.or (root.firstWay prev place rest)) := by
  induction rest with
  | nil =>
    intro prev place work found hp
    cases hf : follow prev none place (roundsFor root.size (started root work found).length)
      (started root work found) .none [] with
    | mk waiting hit =>
      obtain ⟨hwait, heq⟩ := follow_started hroot ⟨prev, place, []⟩ hp hf
      have hsearch : searchFrom root root.size prev place work found [] = hit.or found := by
        rw [searchFrom]
        rw [started] at hf
        simp only [List.head?_nil, hf]
      have hnone : waiting.findSome? (Thread.best ⟨prev, place, []⟩) = none := by
        rw [List.findSome?_eq_none_iff]
        intro t ht
        rw [Thread.best, Thread.waysOf_end (hwait t ht).2 _ rfl]
        rfl
      have h := heq none
      rw [hnone, Option.none_or, Option.or_none, Option.or_none] at h
      rw [hsearch, h, Goal.firstWay]
  | cons c rest ih =>
    intro prev place work found hp
    cases hf : follow prev (some c) place (roundsFor root.size (started root work found).length)
      (started root work found) .none [] with
    | mk waiting hit =>
      obtain ⟨hwait, heq⟩ := follow_started hroot ⟨prev, place, c :: rest⟩ hp hf
      have hsearch : searchFrom root root.size prev place work found (c :: rest) =
          searchFrom root root.size (some c) (place + 1) (waiting.filterMap (Thread.read? c)) (hit.or found) rest := by
        rw [searchFrom]
        rw [started] at hf
        simp only [List.head?_cons, hf]
      have hread : ∀ t ∈ waiting.filterMap (Thread.read? c), t.IsPlain root.size := by
        intro u hu
        obtain ⟨t, ht, hr⟩ := List.mem_filterMap.1 hu
        exact (hwait t ht).1.read hr
      have hsome := Thread.findSome?_read (fun t ht => (hwait t ht).2) ⟨prev, place, c :: rest⟩ c rest rfl
      rw [hsearch, ih _ _ _ _ hread, Goal.firstWay, ← heq, ← hsome]
      rfl

/-- A search in a text finds the marks of the preferred way from the first place that has one. -/
theorem Goal.search_eq_firstWay {root : Goal} (hroot : root.IsPlain) (t : Text) :
    root.search t = root.firstWay none 0 t := by
  rw [search, searchFrom_eq hroot t none 0 [] none (by simp)]
  simp

/-- The preferred way of an expression that stands alone is its first. -/
theorem Thread.best_singleton (root : Goal) (s : Spot) :
    Thread.best s ⟨[root], []⟩ = (root.ways (s, [])).head?.map Prod.snd := by
  have hways : Goal.waysOf [root] (s, []) = root.ways (s, []) :=
    (List.flatMap_congr (fun v _ => rfl)).trans (List.flatMap_singleton' _)
  rw [Thread.best, hways]

/-- An expression without a way from any later place is found at the start of the text or not at all. -/
theorem Goal.search_of_anchored {root : Goal} (hroot : root.IsPlain)
    (hlater : ∀ (c : Char) (place : Nat) (rest : Text), root.ways (⟨some c, place, rest⟩, []) = []) (t : Text) :
    root.search t = (root.ways (⟨none, 0, t⟩, [])).head?.map Prod.snd := by
  have hnone : ∀ (rest : Text) (c : Char) (place : Nat), root.firstWay (some c) place rest = none := by
    intro rest
    induction rest with
    | nil =>
      intro c place
      rw [firstWay, Thread.best_singleton, hlater]
      rfl
    | cons d rest ih =>
      intro c place
      rw [firstWay, Thread.best_singleton, hlater, ih]
      rfl
  rw [search_eq_firstWay hroot]
  cases t with
  | nil => rw [firstWay, Thread.best_singleton]
  | cons c rest => rw [firstWay, Thread.best_singleton, hnone, Option.or_none]

end PathRouting
