import PathRouting.Proofs.Faces
import PathRouting.Proofs.Registrations

/-!
# What lives is held

After each task a session ends what nothing holds. Statements: what that leaves is tidy, which a run stays, and doing it
once more changes nothing; so a task that held nothing and does nothing is only taken away.
-/

namespace PathRouting

/-- The task holds no router, no history and no registry. -/
structure Task.HoldsNothing (task : Task) : Prop where
  routers : task.routers = []
  histories : task.histories = []
  registries : task.registries = []

theorem mapIdx_eq_self {α : Type} {l : List α} {f : Nat → α → α} (h : ∀ (i : Nat) (a : α), l[i]? = some a → f i a = a) :
    l.mapIdx f = l := by
  apply List.ext_getElem?
  intro i
  rw [List.getElem?_mapIdx]
  cases ha : l[i]? with
  | none => rfl
  | some a => rw [Option.map_some, h i a ha]

namespace Session

variable {s t : Session} {us : List Session} {task : Task} {rest : List Task}

/-- What lives is held by something, and no history has the listener of a router that ended. -/
structure IsTidy (s : Session) : Prop where
  routers : ∀ r, s.isAlive r = true → s.holdsRouter r = true
  histories : ∀ (h : Nat) (g : History), s.histories[h]? = some g → g.alive = true → s.holdsHistory h = true
  listeners : ∀ (h : Nat) (g : History), s.histories[h]? = some g →
    ∀ entry ∈ g.listeners.entries, entry.2.follows s.isAlive = true
  registries : ∀ (b : Nat) (g : BareRegistry), s.registries[b]? = some g → g.alive = true → s.holdsRegistry b = true

theorem isTidy_empty : IsTidy Session.empty where
  routers := fun _ h => absurd h Bool.false_ne_true
  histories := fun _ _ h => nomatch h
  listeners := fun _ _ h => nomatch h
  registries := fun _ _ h => nomatch h

/-! ## Sweeping -/

theorem getElem?_histories_sweep (s : Session) (h : Nat) : s.sweep.histories[h]? = s.histories[h]?.map (fun g =>
    { g with listeners := g.listeners.prune s.sweep.isAlive, alive := g.alive && s.sweep.holdsHistory h }) :=
  List.getElem?_mapIdx

theorem getElem?_registries_sweep (s : Session) (b : Nat) : s.sweep.registries[b]? = s.registries[b]?.map (fun g =>
    { g with alive := g.alive && s.holdsRegistry b }) := List.getElem?_mapIdx

/-- What is left once everything that nothing holds has ended is tidy. -/
theorem isTidy_sweep (s : Session) : s.sweep.IsTidy where
  routers := by
    intro r hr
    rw [isAlive_sweep, Bool.and_eq_true] at hr
    exact hr.2
  histories := by
    intro h g hg halive
    rw [getElem?_histories_sweep] at hg
    obtain ⟨g₀, _, rfl⟩ := Option.map_eq_some_iff.1 hg
    exact (Bool.and_eq_true_iff.1 halive).2
  listeners := by
    intro h g hg entry he
    rw [getElem?_histories_sweep] at hg
    obtain ⟨g₀, _, rfl⟩ := Option.map_eq_some_iff.1 hg
    exact (List.mem_filter.1 he).2
  registries := by
    intro b g hg halive
    rw [getElem?_registries_sweep] at hg
    obtain ⟨g₀, _, rfl⟩ := Option.map_eq_some_iff.1 hg
    exact (Bool.and_eq_true_iff.1 halive).2

/-- Where everything that lives is held nothing ends. -/
theorem IsTidy.sweep_eq (h : IsTidy s) : s.sweep = s := by
  have hrouters : s.endRouters = s := by
    have hsame : s.routers.mapIdx (fun r router => { router with alive := router.alive && s.holdsRouter r }) = s.routers := by
      refine mapIdx_eq_self (fun r router hr => ?_)
      have halive : router.alive = s.isAlive r := by rw [isAlive, hr]
      have hkept : (router.alive && s.holdsRouter r) = router.alive := by
        cases hlives : router.alive with
        | false => rfl
        | true => rw [h.routers r (halive.symm.trans hlives), Bool.and_self]
      rw [hkept]
    rw [endRouters, hsame]
  have hhistories : s.endHistories = s := by
    have hsame : s.histories.mapIdx (fun h history =>
        { history with listeners := history.listeners.prune s.isAlive, alive := history.alive && s.holdsHistory h }) =
          s.histories := by
      refine mapIdx_eq_self (fun i g hg => ?_)
      have hkept : (g.alive && s.holdsHistory i) = g.alive := by
        cases hlives : g.alive with
        | false => rfl
        | true => rw [h.histories i g hg hlives, Bool.and_self]
      rw [hkept, Registry.prune, List.filter_eq_self.2 (h.listeners i g hg)]
    rw [endHistories, hsame]
  have hregistries : s.endRegistries = s := by
    have hsame : s.registries.mapIdx (fun b registry =>
        { registry with alive := registry.alive && s.holdsRegistry b }) = s.registries := by
      refine mapIdx_eq_self (fun b g hg => ?_)
      have hkept : (g.alive && s.holdsRegistry b) = g.alive := by
        cases hlives : g.alive with
        | false => rfl
        | true => rw [h.registries b g hg hlives, Bool.and_self]
      rw [hkept]
    rw [endRegistries, hsame]
  rw [sweep, hrouters, hhistories, hregistries]

/-! ## Runs -/

/-- What was held is still held where names and outlets are the same and no task that held something has gone. -/
theorem any_agenda_of_kept {f : Task → List Nat} (hagenda : ∀ task ∈ s.agenda, f task = [] ∨ task ∈ t.agenda) {i : Nat}
    (h : s.agenda.any (fun task => (f task).contains i) = true) : t.agenda.any (fun task => (f task).contains i) = true := by
  obtain ⟨task, ht, hi⟩ := List.any_eq_true.1 h
  rcases hagenda task ht with hnothing | hkept
  · rw [hnothing] at hi
    cases hi
  · exact List.any_eq_true.2 ⟨task, hkept, hi⟩

/-- A tidy session stays so if nothing comes to life, no listener is added and nothing that held something has gone. -/
theorem IsTidy.mono (h : IsTidy s) (hrouters : t.routers = s.routers) (hregistries : t.registries = s.registries)
    (hhistories : ∀ (i : Nat) (g : History), t.histories[i]? = some g →
      ∃ old, s.histories[i]? = some old ∧ g.listeners = old.listeners ∧ g.alive = old.alive)
    (hnames : t.names = s.names) (houtlets : t.outlets = s.outlets)
    (hagenda : ∀ task ∈ s.agenda, task.HoldsNothing ∨ task ∈ t.agenda) : IsTidy t := by
  have halive : t.isAlive = s.isAlive := by
    funext r
    rw [isAlive, isAlive, hrouters]
  refine ⟨?_, ?_, ?_, ?_⟩
  · intro r hr
    have hheld := h.routers r (halive ▸ hr)
    rw [holdsRouter, Bool.or_eq_true] at hheld ⊢
    rw [hnames, houtlets]
    exact hheld.imp_right (any_agenda_of_kept (fun task ht => (hagenda task ht).imp_left (·.routers)))
  · intro i g hg hlives
    obtain ⟨old, hold, -, hsame⟩ := hhistories i g hg
    have hheld := h.histories i old hold (hsame ▸ hlives)
    rw [holdsHistory, Bool.or_eq_true] at hheld ⊢
    rw [hnames, hrouters]
    exact hheld.imp_right (any_agenda_of_kept (fun task ht => (hagenda task ht).imp_left (·.histories)))
  · intro i g hg entry he
    obtain ⟨old, hold, hsame, -⟩ := hhistories i g hg
    rw [halive]
    exact h.listeners i old hold entry (hsame ▸ he)
  · intro b g hg hlives
    rw [hregistries] at hg
    have hheld := h.registries b g hg hlives
    rw [holdsRegistry, Bool.or_eq_true] at hheld ⊢
    rw [hnames]
    exact hheld.imp_right (any_agenda_of_kept (fun task ht => (hagenda task ht).imp_left (·.registries)))

/-- Taking away a task that holds nothing ends nothing. -/
theorem IsTidy.popped (h : IsTidy s) (hfirst : s.agenda = task :: rest) (hnothing : task.HoldsNothing) :
    IsTidy { s with agenda := rest } := by
  refine h.mono rfl rfl (fun i g hg => ⟨g, hg, rfl, rfl⟩) rfl rfl (fun other ht => ?_)
  rw [hfirst] at ht
  rcases List.mem_cons.1 ht with rfl | ht
  · exact Or.inl hnothing
  · exact Or.inr ht

theorem OpenStep.isTidy {l : List Session} (hstep : OpenStep s l t) (h : IsTidy s) : IsTidy t := by
  cases hstep with
  | own hown =>
    obtain ⟨task, rest, -, rfl⟩ := (step?_eq_some_iff s t).1 hown
    exact isTidy_sweep _
  | told c hidle =>
    refine h.mono rfl rfl (fun i g hg => ⟨g, hg, rfl, rfl⟩) rfl rfl (fun task ht => ?_)
    rw [hidle] at ht
    cases ht
  | outside histories hvaries pool hpool tasks htasks =>
    refine h.mono rfl rfl (fun i g hg => ?_) rfl rfl (fun task ht => Or.inr (List.mem_append_right tasks ht))
    obtain ⟨old, hold, -, hlisteners, halive⟩ :=
      exists_getElem?_of_forall₂ (R := fun g' g => History.Varies g g') (List.Forall₂.flip hvaries) hg
    exact ⟨old, hold, hlisteners, halive⟩

/-- Along every run only what is held lives. -/
theorem OpenRun.isTidy (h : OpenRun Session.empty us t) : IsTidy t := by
  induction h with
  | start => exact isTidy_empty
  | step _ hstep ih => exact hstep.isTidy ih

end Session

end PathRouting
