import Mathlib.Data.List.Forall2
import PathRouting.Session.Ownership

/-!
# Open runs

A session among callbacks, histories and executors that may do anything. Between any two of its tasks callbacks may ask
for any commands, anything that has a name may be dropped, a history may come to any entries, call any of the callbacks
it was given and start rounds of notification, and an executor may take the loads in any order. A run keeps the sessions
whose first task was done, the latest first, so that a statement can speak of what happened. The runs that a program
makes by itself are among them.
-/

namespace PathRouting

/-- The cursor is on an entry. -/
def Trail.IsSound (t : Trail) : Prop := t.cursor < t.entries.length

/-- What callbacks, histories and owners can make a session do: commands, rounds of notification, and drops. A round may call
any callbacks with any path, and whoever owns what has a name may drop it. -/
def Task.IsOutside : Task → Prop
  | .script _ => True
  | .notify _ _ => True
  | .round _ _ _ => True
  | .drop _ _ => True
  | _ => False

/-- A history behaves in its own way: any entries, and any choice of what it announces. Who listens is not its business. -/
def History.Varies (g g' : History) : Prop := g'.trail.IsSound ∧ g'.listeners = g.listeners ∧ g'.alive = g.alive

/-- An executor takes the loads that can proceed in its own order. -/
def Pool.Reorders (p p' : Pool) : Prop :=
  p'.phase = p.phase ∧ (p'.ready ++ p'.spawned).Perm (p.ready ++ p.spawned)

namespace Session

/-- The session when it is told to carry out a step from outside. -/
def begin (s : Session) (c : Command) : Session :=
  { s with agenda := [.command false c], journal := [], answer := .ok .nothing }

/-- The session with its histories and its pool as they now are, and with tasks before those that are left. -/
def interrupt (s : Session) (histories : List History) (pool : Pool) (tasks : List Task) : Session :=
  { s with histories := histories, pool := pool }.first tasks

/-- One step of a session among others, with the session whose first task was done, if one was. -/
inductive OpenStep (s : Session) : List Session → Session → Prop
  /-- The first task is done. -/
  | own {t : Session} (h : s.step? = some t) : OpenStep s [s] t
  /-- A step comes from outside, once nothing is left. -/
  | told (c : Command) (h : s.agenda = []) : OpenStep s [] (s.begin c)
  /-- Callbacks, histories and the executor act. -/
  | outside (histories : List History) (hvaries : List.Forall₂ History.Varies s.histories histories) (pool : Pool)
      (hpool : s.pool.Reorders pool) (tasks : List Task) (htasks : ∀ task ∈ tasks, task.IsOutside) :
      OpenStep s [] (s.interrupt histories pool tasks)

/-- A run among others, with the sessions whose first tasks were done, the latest first. -/
inductive OpenRun (s : Session) : List Session → Session → Prop
  | start : OpenRun s [] s
  | step {us l : List Session} {t t' : Session} (h : OpenRun s us t) (hstep : OpenStep t l t') : OpenRun s (l ++ us) t'

/-- A run of a call: until the tasks that waited behind it are all that is left, it goes on. -/
inductive CallRun (rest : List Task) (s : Session) : List Session → Session → Prop
  | start : CallRun rest s [] s
  | step {us l : List Session} {t t' : Session} (h : CallRun rest s us t) (hrunning : t.agenda ≠ rest)
      (hstep : OpenStep t l t') : CallRun rest s (l ++ us) t'

/-- What is taken of the sessions of a run, the latest first: in order, that of one more session is the last. -/
theorem filterMap_reverse_cons {α β : Type} (f : α → Option β) (a : α) (l : List α) :
    (a :: l).reverse.filterMap f = l.reverse.filterMap f ++ (f a).toList := by
  rw [List.reverse_cons, List.filterMap_append]
  cases hf : f a <;> simp [hf]

/-- One run after another is a run. -/
theorem OpenRun.trans {s t u : Session} {us vs : List Session} (h : OpenRun s us t) (h' : OpenRun t vs u) :
    OpenRun s (vs ++ us) u := by
  induction h' with
  | start => exact h
  | step _ hstep ih =>
    rw [List.append_assoc]
    exact ih.step hstep

/-- The sessions that a session goes through by itself, the latest first. -/
def passed : (limit : Nat) → Session → List Session
  | 0, _ => []
  | limit + 1, s =>
    match s.step? with
    | none => []
    | some next => passed limit next ++ [s]

/-- A run goes on by itself. -/
theorem OpenRun.goOn {s t : Session} {us : List Session} (h : OpenRun s us t) (limit : Nat) :
    OpenRun s (passed limit t ++ us) (finishTasks limit t) := by
  induction limit generalizing us t with
  | zero => exact h
  | succ limit ih =>
    rw [passed, finishTasks]
    cases hs : t.step? with
    | none => exact h
    | some next =>
      have hnext := ih (h.step (OpenStep.own hs))
      rw [← List.append_assoc] at hnext
      exact hnext

/-- A run of a call goes on by itself, as long as there are more tasks than those that wait. -/
theorem CallRun.goOn {rest : List Task} {s t : Session} {us : List Session} (h : CallRun rest s us t) (limit : Nat)
    (hrunning : ∀ u ∈ passed limit t, rest.length < u.agenda.length) :
    CallRun rest s (passed limit t ++ us) (finishTasks limit t) := by
  induction limit generalizing us t with
  | zero => exact h
  | succ limit ih =>
    rw [passed] at hrunning ⊢
    rw [finishTasks]
    cases hs : t.step? with
    | none => exact h
    | some next =>
      rw [hs] at hrunning
      have hlonger : rest.length < t.agenda.length := hrunning t (List.mem_append_right _ (List.mem_singleton_self t))
      have hne : t.agenda ≠ rest := by
        intro heq
        rw [heq] at hlonger
        omega
      have hnext := ih (h.step hne (OpenStep.own hs)) (fun u hu => hrunning u (List.mem_append_left _ hu))
      rw [← List.append_assoc] at hnext
      exact hnext

/-- A step from outside with all that it leads to makes a run longer. -/
theorem exists_openRun_doStep {s t : Session} (h : ∃ us, OpenRun s us t) (hidle : t.agenda = []) (limit : Nat)
    (c : Command) : ∃ us, OpenRun s us (t.doStep limit c) := by
  obtain ⟨us, hus⟩ := h
  exact ⟨_, (hus.step (OpenStep.told c hidle)).goOn limit⟩

end Session

end PathRouting
