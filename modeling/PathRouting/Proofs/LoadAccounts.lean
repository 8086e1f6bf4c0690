import PathRouting.Proofs.Observations

/-!
# Accounts of loads

Several outlets may share a router, be rendered again and again, and have loads that end in any order. Statements: along
every regular run each outlet calls the loader of a match once at most, and only when it is rendered while the match is
active; each load ends once at most, and then it is applied to its outlet or nothing but its end is reported; and an outlet
that was not dropped has been told of each round of its router and of each load that was applied to it, and of nothing else.
-/

namespace PathRouting

namespace Session

variable {s t : Session} {us : List Session} {inMemory : Nat → Prop} {o : Nat}

/-- The outlet that the first task drops. -/
def droppedOutlet? (s : Session) : Option Nat :=
  match s.agenda with
  | .drop .outlet name :: _ => s.names.outlets.get? name
  | .openOutlet name r _ :: _ => ( s.registry? (.router r)).bind (fun _ => s.names.outlets.get? name)
  | _ => none

theorem droppedOutlet?_eq_some_iff : s.droppedOutlet? = some o ↔ s.DropsOutlet o := by
  constructor
  · intro h
    unfold droppedOutlet? at h
    split at h
    · rename_i name rest hfirst
      exact Or.inl ⟨name, rest, hfirst, h⟩
    · rename_i name r handler rest hfirst
      obtain ⟨observers, hregistry, hname⟩ := Option.bind_eq_some_iff.1 h
      exact Or.inr ⟨name, r, handler, rest, observers, hfirst, hregistry, hname⟩
    · cases h
  · rintro (⟨name, rest, hfirst, hname⟩ | ⟨name, r, handler, rest, observers, hfirst, hregistry, hname⟩)
    · simp only [droppedOutlet?, hfirst, hname]
    · simp only [droppedOutlet?, hfirst, hregistry, Option.bind_some, hname]

/-- Each step calls the loader that it says, and no other. -/
theorem calls_of_step (hstep : s.step? = some t) : s.callsLoader? = none ∧ t.loadings = s.loadings ∨
    ∃ o id rest outlet resolution pending, s.callsLoader? = some (o, id) ∧ s.agenda = .render o :: rest ∧
      s.outlets[o]? = some outlet ∧ s.activeResolution? outlet.router = some id ∧ s.resolutions[id]? = some resolution ∧
      t.loadings = .loading resolution.found.route resolution.found.params pending :: s.loadings := by
  cases hcalls : s.callsLoader? with
  | none => exact Or.inl ⟨rfl, loadings_of_not_callsLoader hcalls hstep⟩
  | some found =>
    obtain ⟨rest, outlet, resolution, pending, hcalled⟩ := loadings_of_callsLoader hcalls hstep
    exact Or.inr ⟨found.1, found.2, rest, outlet, resolution, pending, rfl, hcalled⟩

/-- A load that ends is applied, and told of, or nothing but its end is reported. -/
theorem OpenRun.exists_step_of_ends (h : OpenRun Session.empty us s) {l : Nat} {value : Props} (hends : s.Ends l value) :
    ∃ load outlet t, s.loads[l]? = some load ∧ s.outlets[load.outlet]? = some outlet ∧ s.step? = some t ∧
      (s.Applies load outlet ∧ s.appliedOutlet? = some load.outlet ∧
        t.outlets = s.outlets.modify load.outlet (fun g => { g with slot := some value }) ∧
        t.agenda = .call (.handler outlet.handler) [] :: s.agenda ∨
      ¬s.Applies load outlet ∧ s.appliedOutlet? = none ∧
        ∃ pool, t = { s with pool := pool, journal := .log .loadDiscarded :: s.journal }) := by
  obtain ⟨_, _, load, _, _, hload, _⟩ := id hends
  obtain ⟨outlet, ho, -⟩ := h.settled.loads l load hload
  by_cases happlies : s.Applies load outlet
  · obtain ⟨happlied, t, hstep, houtlets, hagenda⟩ := step?_of_ends_of_applies hends hload ho happlies
    exact ⟨load, outlet, t, hload, ho, hstep, Or.inl ⟨happlies, happlied, houtlets, hagenda⟩⟩
  · obtain ⟨hnone, pool, hstep⟩ := step?_of_ends_of_not_applies h.isTidy hends hload ho happlies
    exact ⟨load, outlet, _, hload, ho, hstep, Or.inr ⟨happlies, hnone, pool, rfl⟩⟩

/-- However outlets are rendered, routes change and loads end: an outlet calls the loader for a resolution once at most, in a
rendering, when the resolution is active; a load ends once at most, and where it does, its outlet gets its value and is told,
or nothing happens but that it is reported as discarded; and as long as it is not dropped, each outlet was told, between the
rounds of its router, as often as such rounds were started and loads applied to it since it was made. -/
theorem RegularRun.accounts_of_loads (h : RegularRun inMemory Session.empty us t) :
    (∀ o id, us.countP (fun u => u.callsLoader? = some (o, id)) ≤ 1) ∧
    (∀ u ∈ us, ∃ u', u.step? = some u' ∧ (u.callsLoader? = none ∧ u'.loadings = u.loadings ∨
      ∃ o id rest outlet resolution pending, u.callsLoader? = some (o, id) ∧ u.agenda = .render o :: rest ∧
        u.outlets[o]? = some outlet ∧ u.activeResolution? outlet.router = some id ∧ u.resolutions[id]? = some resolution ∧
        u'.loadings = .loading resolution.found.route resolution.found.params pending :: u.loadings)) ∧
    (∀ l, us.countP (fun u => u.endedLoad? = some l) ≤ 1) ∧
    (∀ u ∈ us, ∀ l value, u.Ends l value → ∃ load outlet u',
      u.loads[l]? = some load ∧ u.outlets[load.outlet]? = some outlet ∧ u.step? = some u' ∧
      (u.Applies load outlet ∧ u.appliedOutlet? = some load.outlet ∧
        u'.outlets = u.outlets.modify load.outlet (fun g => { g with slot := some value }) ∧
        u'.agenda = .call (.handler outlet.handler) [] :: u.agenda ∨
      ¬u.Applies load outlet ∧ u.appliedOutlet? = none ∧
        ∃ pool, u' = { u with pool := pool, journal := .log .loadDiscarded :: u.journal })) ∧
    ∀ (o : Nat) (outlet : Outlet), t.outlets[o]? = some outlet → ∃ vs u older, us = vs ++ u :: older ∧ u.OpensOutlet o ∧
      ((∀ v ∈ vs, ¬v.DropsOutlet o) → t.IsBetweenRounds outlet.router (.handler outlet.handler) →
        (callsOf (.handler outlet.handler) vs).length =
          vs.countP (fun v => v.startsRound outlet.router) + vs.countP (fun v => v.appliedOutlet? = some o)) := by
  refine ⟨h.openRun.countP_callsLoader, ?_, h.openRun.countP_endedLoad, ?_, ?_⟩
  · intro u hu
    obtain ⟨later, older, hus⟩ := List.append_of_mem hu
    obtain ⟨u', _, hstep, _⟩ := h.cut hus
    exact ⟨u', hstep, calls_of_step hstep⟩
  · intro u hu l value hends
    obtain ⟨older, hbefore⟩ := h.exists_of_mem hu
    exact hbefore.openRun.exists_step_of_ends hends
  · intro o outlet ho
    obtain ⟨vs, u, older, hus, hopens⟩ := h.openRun.exists_opensOutlet (List.getElem?_eq_some_iff.1 ho).1
    obtain ⟨u', hbefore, hstep, hlater⟩ := h.cut hus
    refine ⟨vs, u, older, hus, hopens, fun hkept hbetween => ?_⟩
    have hcount := hbefore.length_callsOf_of_opensOutlet hopens hstep hlater hkept ho
    rw [h.owed_of_isBetweenRounds ho hbetween] at hcount
    exact hcount

/-! ## A load that is applied -/

/-- What holds of all tasks of a step from outside holds along the longer run. -/
theorem exists_regularRun_doStep_of_all {p : Session → Bool} (h : ∃ us, RegularRun inMemory s us t ∧ us.all p = true)
    (hidle : t.agenda = []) (limit : Nat) (c : Command) (hp : (passed limit (t.begin c)).all p = true) :
    ∃ us, RegularRun inMemory s us (t.doStep limit c) ∧ us.all p = true := by
  obtain ⟨us, hus, hall⟩ := h
  refine ⟨_, (hus.step (RegularStep.told c hidle)).goOn limit, ?_⟩
  rw [List.nil_append, List.all_append, hp, hall]
  rfl

/-- The outlet was rendered, its load was completed, and then its router resolved the path again. -/
def outletTold : Session :=
  (outletLoading.doStep 9 (.mk none .runLoads)).doStep 20 (.mk none (.navigate (given "r") (given "/")))

theorem exists_regularRun_outletTold : ∃ us, RegularRun (fun _ => True) empty us outletTold ∧
    us.all (fun u => u.droppedOutlet? = none) = true := by
  refine exists_regularRun_doStep_of_all ?_ rfl 20 _ rfl
  refine exists_regularRun_doStep_of_all ?_ rfl 9 _ rfl
  refine exists_regularRun_doStep_of_all ?_ rfl 9 _ rfl
  refine exists_regularRun_doStep_of_all ?_ rfl 9 _ rfl
  refine exists_regularRun_doStep_of_all ?_ rfl 9 _ rfl
  refine exists_regularRun_doStep_of_all ?_ rfl 9 _ rfl
  refine exists_regularRun_doStep_of_all ?_ rfl 9 _ rfl
  exact exists_regularRun_doStep_of_all ⟨[], RegularRun.start, rfl⟩ rfl 9 _ rfl

/-- The outlet was told as often as rounds of its router were started and loads were applied to it. -/
theorem accounts_of_loads_outletTold : ∃ us vs u older, RegularRun (fun _ => True) empty us outletTold ∧
    us = vs ++ u :: older ∧ u.OpensOutlet 0 ∧
    (callsOf (.handler 0) vs).length = vs.countP (fun v => v.startsRound 0) + vs.countP (fun v => v.appliedOutlet? = some 0) := by
  obtain ⟨us, hus, hkept⟩ := exists_regularRun_outletTold
  obtain ⟨outlet, ho, hrouter, hhandler⟩ : ∃ outlet, outletTold.outlets[0]? = some outlet ∧ outlet.router = 0 ∧
    outlet.handler = 0 := ⟨_, rfl, rfl, rfl⟩
  obtain ⟨vs, u, older, rfl, hopens, hcount⟩ := hus.accounts_of_loads.2.2.2.2 0 outlet ho
  refine ⟨_, vs, u, older, hus, rfl, hopens, ?_⟩
  rw [hrouter, hhandler] at hcount
  refine hcount (fun v hv hdrops => ?_) ?_
  · have hnone := List.all_eq_true.1 hkept v (List.mem_append_left _ hv)
    rw [decide_eq_true_eq, droppedOutlet?_eq_some_iff.2 hdrops] at hnone
    cases hnone
  · have hidle : outletTold.agenda = [] := rfl
    rw [IsBetweenRounds, hidle]
    exact ⟨fun _ _ => List.not_mem_nil, fun _ => List.not_mem_nil⟩

end Session

end PathRouting
