import PathRouting.Proofs.Dues
import PathRouting.Proofs.Reentrance
import PathRouting.Proofs.Rendering

/-!
# Dropped outlets

An outlet that is dropped does not observe its router any more, but the loads that it started go on. Statements: once an
outlet was dropped, it is told of nothing but the loads that apply to it, of each once; and a load that was started before
can still apply, as long as the resolution that it was started for is active.
-/

namespace PathRouting

namespace Session

variable {s t u : Session} {callback : Callback} {us us₀ : List Session} {inMemory : Nat → Prop} {o : Nat}
  {outlet : Outlet}

/-- The first task drops an outlet: it takes its name away, or gives the name to a new outlet. -/
def DropsOutlet (s : Session) (o : Nat) : Prop :=
  (∃ name rest, s.agenda = .drop .outlet name :: rest ∧ s.names.outlets.get? name = some o) ∨
  ∃ name r handler rest observers, s.agenda = .openOutlet name r handler :: rest ∧
    s.registry? (.router r) = some observers ∧ s.names.outlets.get? name = some o

theorem exists_dropOutlet_eq {name : Text} (hname : s.names.outlets.get? name = some o)
    (ho : s.outlets[o]? = some outlet) : ∃ forgotten, Renews s forgotten ∧
      s.dropOutlet name = forgotten.cancel ⟨.router outlet.router, outlet.observerKey⟩ := by
  refine ⟨{ s with names := { s.names with outlets := s.names.outlets.erase name } }, ?_, ?_⟩
  · exact Renews.of_wiring rfl
  · simp only [dropOutlet, hname, ho]

/-- An outlet that is dropped observes its router no longer. -/
theorem DropsOutlet.isAt_none (h : s.DropsOutlet o) (ho : s.outlets[o]? = some outlet)
    (hs : s.KeepsTo (.handler outlet.handler) (some (.outlet o outlet.router outlet.observerKey)))
    (hknown : (Callback.handler outlet.handler).IsKnown s) :
    ∃ t, s.step? = some t ∧ Renews s t ∧ t.IsAt (.handler outlet.handler) none := by
  have htaken : ∀ rest, Renews s { s with agenda := rest } := fun _ => Renews.of_wiring rfl
  rcases h with ⟨name, rest, hfirst, hname⟩ | ⟨name, r, handler, rest, observers, hfirst, hregistry, hname⟩
  · obtain ⟨forgotten, hforgotten, heq⟩ := exists_dropOutlet_eq (s := { s with agenda := rest }) hname ho
    refine hs.isAt_none_of_step ⟨.router outlet.router, outlet.observerKey⟩ hknown rfl hfirst
      ((htaken rest).trans hforgotten) ?_
    rw [← heq]
    exact renews_refl _
  · have hregistry' : registry? { s with agenda := rest } (.router r) = some observers := hregistry
    let made : Session := addOutlet { s with agenda := rest } r observers.nextKey handler
    have hmade : Renews s made := (htaken rest).trans (renews_addOutlet hregistry' handler _ rfl)
    obtain ⟨forgotten, hforgotten, heq⟩ := exists_dropOutlet_eq (s := made) hname (getElem?_append_of_some ho _)
    refine hs.isAt_none_of_step ⟨.router outlet.router, outlet.observerKey⟩ hknown rfl hfirst
      (hmade.trans hforgotten) ?_
    rw [← heq]
    change Renews _ (openOutlet _ name r handler)
    rw [openOutlet_eq hregistry']
    exact Renews.of_wiring rfl

theorem DropsOutlet.agenda_eq (h : s.DropsOutlet o) (hstep : s.step? = some t) : ∃ task, s.agenda = task :: t.agenda := by
  rcases h with ⟨name, rest, hfirst, _⟩ | ⟨name, r, handler, rest, _, hfirst, _⟩
  · obtain rfl := eq_of_step? hfirst hstep
    exact ⟨_, hfirst.trans (congrArg (_ :: ·) (agenda_drop { s with agenda := rest } .outlet name).symm)⟩
  · obtain rfl := eq_of_step? hfirst hstep
    exact ⟨_, hfirst.trans (congrArg (_ :: ·) (agenda_openOutlet { s with agenda := rest } name r handler).symm)⟩

/-- Once an outlet is dropped, only its loads add calls of its callback. -/
theorem length_of_raises (hs : s.KeepsTo (.handler outlet.handler) (some (.outlet o outlet.router outlet.observerKey)))
    (ho : ∀ g, s.outlets[o]? = some g → g.handler = outlet.handler) {added : List Text}
    (hraises : s.Raises none (.handler outlet.handler) added) :
    added.length = if decide (s.appliedOutlet? = some o) then 1 else 0 := by
  cases hraises with
  | nothing hno =>
    have hnot : s.appliedOutlet? ≠ some o := by
      intro happlied
      obtain ⟨g, hg⟩ := exists_outlet_of_applied happlied
      exact hno o g happlied hg (congrArg Callback.handler (ho g hg).symm)
    rw [decide_eq_false hnot]
    rfl
  | applied happlied ho' hhandler =>
    obtain ⟨rfl⟩ := Place.outlet.inj (Option.some.inj (hs.outlets _ _ ho' hhandler))
    rw [happlied]
    simp
  | written hc hhandler => cases hs.cells _ _ hc hhandler
  | asked _ _ hhome => cases hhome
  | announced _ hhome => cases hhome
  | moved _ _ hhome => cases hhome
  | resolved _ hhome => cases hhome

/-- Once an outlet is dropped outside of every round that would still tell it, it is told of a load whenever one applies to
it, and of nothing else: as soon as no task is left, it was told as often as loads applied. It stays silent exactly if no
load that it had started was completed while its resolution was active. -/
theorem length_callsOf_of_dropsOutlet (hrun : RegularRun inMemory Session.empty us₀ s) (hdrops : s.DropsOutlet o)
    (ho : s.outlets[o]? = some outlet) (houtside : owed none (.handler outlet.handler) s.agenda = []) :
    ∃ t, s.step? = some t ∧ ∀ us u, RegularRun inMemory t us u →
      (callsOf (.handler outlet.handler) us).length + (owed none (.handler outlet.handler) u.agenda).length =
        us.countP (fun v => v.appliedOutlet? = some o) ∧
      (u.agenda = [] → (callsOf (.handler outlet.handler) us = [] ↔ ∀ v ∈ us, v.appliedOutlet? ≠ some o)) := by
  obtain ⟨place, hplace, hplaced⟩ := hrun.openRun.placed (.handler outlet.handler)
  obtain rfl := hplace.outlets o outlet ho rfl
  have hknown := hplaced.resolve_right (by simp)
  obtain ⟨t, hstep, hrenews, hnone⟩ := hdrops.isAt_none ho hplace hknown
  refine ⟨t, hstep, ?_⟩
  intro us u hlater
  have hleft : owed none (.handler outlet.handler) t.agenda = [] := by
    obtain ⟨task, hfirst⟩ := hdrops.agenda_eq hstep
    rw [hfirst, owed_cons] at houtside
    exact (List.append_eq_nil_iff.1 houtside).2
  have hadds : ∀ v ∈ us, ∀ added, v.Raises none (.handler outlet.handler) added →
      added.length = if decide (v.appliedOutlet? = some o) then 1 else 0 := by
    intro v hv added hraises
    have hbetween := hrenews.trans (hlater.between hv).1
    refine length_of_raises (hplace.of_known hbetween hknown) ?_ hraises
    exact fun g hg => (Outlet.eq_of_seat_eq (hbetween.seat_eq ho hg)).2.2
  have hcount := hlater.length_callsOf (by rintro h ⟨⟩)
    (fun v hv => hlater.isAt_none (hrenews.known _ hknown) hnone hv) _ hadds
  rw [hleft, List.length_nil, Nat.add_zero] at hcount
  refine ⟨hcount, fun hidle => ?_⟩
  rw [hidle, owed, List.flatMap_nil, List.length_nil, Nat.add_zero] at hcount
  rw [← List.length_eq_zero_iff, hcount, List.countP_eq_zero]
  simp only [decide_eq_true_eq]

/-! ## A load that goes on -/

/-- The outlet was rendered, so that it waits for its load. -/
def outletLoading : Session := outletAtRoot.doStep 9 (.mk none (.render (given "o")))

/-- The outlet is about to be dropped. -/
def dropAsked : Session := finishTasks 1 (outletLoading.begin (.mk none (.drop (.given .outlet) (given "o"))))

/-- The outlet was just dropped. -/
def outletDropped : Session := finishTasks 1 dropAsked

/-- After the outlet was dropped, its load is completed. -/
def loadCompleted : Session := (finishTasks 9 outletDropped).doStep 9 (.mk none .runLoads)

theorem regularRun_dropAsked : (∃ us, RegularRun (fun _ => False) empty us dropAsked) ∧
    dropAsked.step? = some outletDropped := by
  have hloading : ∃ us, RegularRun (fun _ => False) empty us outletLoading := by
    refine exists_regularRun_doStep ?_ rfl 9 _
    refine exists_regularRun_doStep ?_ rfl 9 _
    refine exists_regularRun_doStep ?_ rfl 9 _
    refine exists_regularRun_doStep ?_ rfl 9 _
    refine exists_regularRun_doStep ?_ rfl 9 _
    exact exists_regularRun_doStep ⟨[], RegularRun.start⟩ rfl 9 _
  obtain ⟨us, hus⟩ := hloading
  exact ⟨⟨_, (hus.step (RegularStep.told _ rfl)).goOn 1⟩, rfl⟩

theorem dropsOutlet_dropAsked : dropAsked.DropsOutlet 0 := Or.inl ⟨_, _, rfl, rfl⟩

theorem exists_regularRun_loadCompleted : ∃ us, RegularRun (fun _ => False) outletDropped us loadCompleted ∧
    us.countP (fun v => v.appliedOutlet? = some 0) = 1 ∧ callsOf (.handler 0) us = [[]] := by
  have hlater : RegularRun (fun _ => False) outletDropped _ loadCompleted :=
    ((RegularRun.start.goOn 9).step (RegularStep.told (.mk none .runLoads) rfl)).goOn 9
  exact ⟨_, hlater, rfl, rfl⟩

/-- The dropped outlet is told once, of its load. -/
theorem length_callsOf_loadCompleted : ∃ us, RegularRun (fun _ => False) outletDropped us loadCompleted ∧
    (callsOf (.handler 0) us).length = 1 := by
  obtain ⟨⟨us₀, hrun⟩, hstep⟩ := regularRun_dropAsked
  obtain ⟨t, hstep', hcount⟩ := length_callsOf_of_dropsOutlet hrun dropsOutlet_dropAsked
    (show dropAsked.outlets[0]? = some ⟨0, 0, some 0, none, 0⟩ from rfl) rfl
  obtain rfl := Option.some.inj (hstep.symm.trans hstep')
  obtain ⟨us, hlater, happlied, _⟩ := exists_regularRun_loadCompleted
  exact ⟨us, hlater, (hcount us _ hlater).1.trans happlied⟩

/-- An outlet may be told of something although it was dropped before, outside of every round: a load that it had started
applies to it. -/
theorem not_silent_of_dropsOutlet : ¬∀ (inMemory : Nat → Prop) (us₀ us : List Session) (s t u : Session) (o : Nat)
    (outlet : Outlet), RegularRun inMemory Session.empty us₀ s → s.DropsOutlet o → s.outlets[o]? = some outlet →
    (∀ task ∈ s.agenda, task.passesOn = false) → s.step? = some t → RegularRun inMemory t us u →
    callsOf (.handler outlet.handler) us = [] := by
  intro hall
  obtain ⟨⟨us₀, hrun⟩, hstep⟩ := regularRun_dropAsked
  obtain ⟨us, hlater, _, hcalled⟩ := exists_regularRun_loadCompleted
  have hsilent := hall _ us₀ us _ _ _ 0 ⟨0, 0, some 0, none, 0⟩ hrun dropsOutlet_dropAsked rfl (by decide +kernel) hstep
    hlater
  rw [hcalled] at hsilent
  cases hsilent

end Session

end PathRouting
