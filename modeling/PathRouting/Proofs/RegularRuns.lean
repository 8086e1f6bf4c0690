import PathRouting.Proofs.OpenRuns

/-!
# Regular runs

Open runs in which callbacks are called in rounds of their registries only, and some histories are in memory: they come
to other entries by pushes and moves alone. All else is as open as before: callbacks may ask for any commands and
anything that has a name may be dropped at any time, other histories may come to any entries and start rounds of their
listeners, and an executor may take the loads in any order. Statements: regular runs are open runs, they can be cut where
a task was done, and they go on by themselves.
-/

namespace PathRouting

/-- What callbacks, histories and owners can make a session do in a regular run: commands, drops of what has a name, and
rounds of the listeners of a history that is not in memory. -/
inductive Task.IsRequest (inMemory : Nat → Prop) : Task → Prop
  | script (commands : List Command) : IsRequest inMemory (.script commands)
  | drop (kind : Kind) (name : Text) : IsRequest inMemory (.drop kind name)
  | announce {h : Nat} (hh : ¬inMemory h) (path : Text) : IsRequest inMemory (.notify (.history h) path)

theorem Task.IsRequest.isOutside {inMemory : Nat → Prop} {task : Task} (h : task.IsRequest inMemory) : task.IsOutside := by
  cases h <;> trivial

namespace Session

variable {inMemory : Nat → Prop} {s t : Session} {us : List Session}

/-- One step of a regular run, with the session whose first task was done, if one was. -/
inductive RegularStep (inMemory : Nat → Prop) (s : Session) : List Session → Session → Prop
  /-- The first task is done. -/
  | own {t : Session} (h : s.step? = some t) : RegularStep inMemory s [s] t
  /-- A step comes from outside, once nothing is left. -/
  | told (c : Command) (h : s.agenda = []) : RegularStep inMemory s [] (s.begin c)
  /-- Callbacks, histories that are not in memory, and the executor act. -/
  | outside (histories : List History) (hvaries : List.Forall₂ History.Varies s.histories histories)
      (hsame : ∀ h, inMemory h → histories[h]? = s.histories[h]?) (pool : Pool) (hpool : s.pool.Reorders pool)
      (tasks : List Task) (htasks : ∀ task ∈ tasks, task.IsRequest inMemory) :
      RegularStep inMemory s [] (s.interrupt histories pool tasks)

/-- A regular run, with the sessions whose first tasks were done, the latest first. -/
inductive RegularRun (inMemory : Nat → Prop) (s : Session) : List Session → Session → Prop
  | start : RegularRun inMemory s [] s
  | step {us l : List Session} {t t' : Session} (h : RegularRun inMemory s us t) (hstep : RegularStep inMemory t l t') :
      RegularRun inMemory s (l ++ us) t'

/-- A step of a regular run is one of an open run. -/
theorem RegularStep.openStep {l : List Session} (h : RegularStep inMemory s l t) : OpenStep s l t := by
  cases h with
  | own hown => exact OpenStep.own hown
  | told c hidle => exact OpenStep.told c hidle
  | outside histories hvaries _ pool hpool tasks htasks =>
    exact OpenStep.outside histories hvaries pool hpool tasks (fun task ht => (htasks task ht).isOutside)

/-- A regular run is an open one. -/
theorem RegularRun.openRun (h : RegularRun inMemory s us t) : OpenRun s us t := by
  induction h with
  | start => exact OpenRun.start
  | step _ hstep ih => exact ih.step hstep.openStep

theorem RegularRun.trans {u : Session} {vs : List Session} (h : RegularRun inMemory s us t)
    (h' : RegularRun inMemory t vs u) : RegularRun inMemory s (vs ++ us) u := by
  induction h' with
  | start => exact h
  | step _ hstep ih =>
    rw [List.append_assoc]
    exact ih.step hstep

/-- A run can be cut at a session whose first task was done. -/
theorem RegularRun.cut {later older : List Session} {u : Session} (h : RegularRun inMemory s us t)
    (hus : us = later ++ u :: older) :
    ∃ u', RegularRun inMemory s older u ∧ u.step? = some u' ∧ RegularRun inMemory u' later t := by
  induction h generalizing later with
  | start => simp at hus
  | @step us l t t' hbefore hstep ih =>
    cases hstep with
    | own hown =>
      cases later with
      | nil =>
        obtain ⟨rfl, rfl⟩ := List.cons.inj hus
        exact ⟨t', hbefore, hown, RegularRun.start⟩
      | cons v later =>
        obtain ⟨rfl, hbelow⟩ := List.cons.inj hus
        obtain ⟨u', holder, hu, hlater⟩ := ih hbelow
        exact ⟨u', holder, hu, hlater.step (RegularStep.own hown)⟩
    | told c hidle =>
      obtain ⟨u', holder, hu, hlater⟩ := ih hus
      exact ⟨u', holder, hu, hlater.step (RegularStep.told c hidle)⟩
    | outside histories hvaries hsame pool hpool tasks htasks =>
      obtain ⟨u', holder, hu, hlater⟩ := ih hus
      exact ⟨u', holder, hu, hlater.step (RegularStep.outside histories hvaries hsame pool hpool tasks htasks)⟩

/-- A session whose first task was done was come to by a run. -/
theorem RegularRun.exists_of_mem (h : RegularRun inMemory s us t) {u : Session} (hu : u ∈ us) :
    ∃ older, RegularRun inMemory s older u := by
  obtain ⟨later, older, hus⟩ := List.append_of_mem hu
  obtain ⟨_, holder, _⟩ := h.cut hus
  exact ⟨older, holder⟩

/-- A regular run goes on by itself. -/
theorem RegularRun.goOn (h : RegularRun inMemory s us t) (limit : Nat) :
    RegularRun inMemory s (passed limit t ++ us) (finishTasks limit t) := by
  induction limit generalizing us t with
  | zero => exact h
  | succ limit ih =>
    rw [passed, finishTasks]
    cases hs : t.step? with
    | none => exact h
    | some next =>
      have hnext := ih (h.step (RegularStep.own hs))
      rw [← List.append_assoc] at hnext
      exact hnext

/-- A step from outside with all that it leads to makes a regular run longer. -/
theorem exists_regularRun_doStep (h : ∃ us, RegularRun inMemory s us t) (hidle : t.agenda = []) (limit : Nat) (c : Command) :
    ∃ us, RegularRun inMemory s us (t.doStep limit c) := by
  obtain ⟨us, hus⟩ := h
  exact ⟨_, (hus.step (RegularStep.told c hidle)).goOn limit⟩

end Session

end PathRouting
