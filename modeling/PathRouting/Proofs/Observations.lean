import PathRouting.Proofs.Completions
import PathRouting.Proofs.GoneRouters
import PathRouting.Proofs.ObserverKeys

/-!
# What outlets are told

An outlet is told of each round of its router, and of each of its loads that applies. Statements: along every run, as long as
an outlet is not dropped it observes its router; so it is told as often as rounds of its router were started and loads of it
were applied since it was made, as soon as no such round is in progress.
-/

namespace PathRouting

namespace Session

variable {s t u : Session} {callback : Callback} {us vs : List Session} {inMemory : Nat → Prop} {r o : Nat}

/-- The first task starts a round of the observers of a router. -/
def startsRound (s : Session) (r : Nat) : Bool :=
  match s.agenda with
  | .notify (.router r') _ :: _ => r' = r
  | _ => false

theorem startsRound_of_notify {path : Text} {rest : List Task} (hfirst : s.agenda = .notify (.router r) path :: rest) :
    s.startsRound r = true := by
  simp only [startsRound, hfirst, decide_true]

theorem startsRound_of_ne {task : Task} {rest : List Task} (hfirst : s.agenda = task :: rest)
    (h : ∀ path, task ≠ .notify (.router r) path) : s.startsRound r = false := by
  unfold startsRound
  rw [hfirst]
  split
  · rename_i r' path _ heq
    obtain ⟨rfl, -⟩ := List.cons.inj heq
    refine decide_eq_false ?_
    rintro rfl
    exact h path rfl
  · rfl

/-- A call of an observer that is owed is made or still owed after a step. A round of its router adds one, and so may a load
or a write. -/
theorem exists_raises_step_of_isAt (hat : s.IsAt callback (some (.router r))) (hstep : s.step? = some t) :
    ∃ added, s.Raises none callback added ∧ (s.calledWith? callback).toList.length + (owed none callback t.agenda).length =
      (if s.startsRound r then 1 else 0) + added.length + (owed none callback s.agenda).length := by
  obtain ⟨task, rest, hfirst, rfl⟩ := (step?_eq_some_iff s t).1 hstep
  change ∃ added, _ ∧ _ + (owed none callback (({ s with agenda := rest } : Session).perform task).agenda).length = _
  cases hpasses : task.passesOn with
  | false =>
    obtain ⟨added, hraises, heq⟩ := exists_raises_perform none callback hfirst hpasses
    have hno : s.startsRound r = false := by
      refine startsRound_of_ne hfirst ?_
      rintro path rfl
      cases hpasses
    have hlength := congrArg List.length heq
    rw [List.length_append, List.length_append] at hlength
    exact ⟨added, hraises, by simpa [hno] using hlength⟩
  | true =>
    have hnothing : s.Raises none callback [] := by
      refine raises_nothing hfirst ?_
      rintro rfl
      cases hpasses
    refine ⟨[], hnothing, ?_⟩
    by_cases hnotify : ∃ path, task = .notify (.router r) path
    · obtain ⟨path, rfl⟩ := hnotify
      have hsilent : s.calledWith? callback = none := by simp only [calledWith?, hfirst]
      have hcount := hat (.router r)
      rw [if_pos rfl] at hcount
      have hround : owed none callback (({ s with agenda := rest } : Session).perform (.notify (.router r) path)).agenda =
          List.replicate ((s.callbacks (.router r)).countP (fun entry => entry.2 = callback)) path ++
            owed none callback rest := owed_cons ..
      have howed : owed none callback s.agenda = owed none callback rest := by
        rw [hfirst]
        exact owed_cons ..
      rw [hsilent, hround, hcount, howed, startsRound_of_notify hfirst, List.length_append, List.length_replicate]
      exact Nat.zero_add _
    · have hno : s.startsRound r = false := startsRound_of_ne hfirst (fun path heq => hnotify ⟨path, heq⟩)
      have hother : ∀ owner path, task = .notify owner path →
          (s.callbacks owner).countP (fun entry => entry.2 = callback) = if none = some owner then 1 else 0 := by
        rintro owner path rfl
        rw [hat owner]
        refine if_neg (fun howner => hnotify ⟨path, ?_⟩)
        rw [Option.some.inj howner]
      have heq := owed_perform_of_passesOn none hfirst hpasses hother
      have hlength := congrArg List.length heq
      rw [List.length_append] at hlength
      simpa [hno] using hlength

/-! ## Outlets -/

/-- A step makes one outlet at most, and says so. -/
theorem length_outlets_step (hstep : s.step? = some t) : t.outlets.length = s.outlets.length ∨
    s.OpensOutlet s.outlets.length ∧ t.outlets.length = s.outlets.length + 1 := by
  obtain ⟨task, rest, hfirst, rfl⟩ := (step?_eq_some_iff s t).1 hstep
  let popped : Session := { s with agenda := rest }
  change (popped.perform task).outlets.length = _ ∨ _ ∧ (popped.perform task).outlets.length = _
  by_cases hopens : ∃ name r handler, task = .openOutlet name r handler
  · obtain ⟨name, r, handler, rfl⟩ := hopens
    cases hregistry : popped.registry? (.router r) with
    | none => exact Or.inl (by simp only [perform, openOutlet, hregistry]; rfl)
    | some observers =>
      refine Or.inr ⟨⟨name, r, handler, rest, observers, hfirst, hregistry, rfl⟩, ?_⟩
      rw [perform, openOutlet_eq hregistry]
      change ((popped.addOutlet r observers.nextKey handler).dropOutlet name).outlets.length = _
      rw [(keeps_dropOutlet _ name).outlets]
      exact List.length_append
  · have hstalls := stalls_perform popped (fun name r handler heq => hopens ⟨name, r, handler, heq⟩)
    have hlength := congrArg List.length hstalls
    rw [stalls, stalls, List.length_map, List.length_map] at hlength
    exact Or.inl hlength

/-- Along every run, each outlet was made by some task. -/
theorem OpenRun.exists_opensOutlet (h : OpenRun Session.empty us t) (ho : o < t.outlets.length) :
    ∃ vs u older, us = vs ++ u :: older ∧ u.OpensOutlet o := by
  induction h with
  | start => cases ho
  | @step us l t t' _ hstep ih =>
    have hearlier : o < t.outlets.length → ∃ vs u older, l ++ us = vs ++ u :: older ∧ u.OpensOutlet o := by
      intro hlt
      obtain ⟨vs, u, older, rfl, hopens⟩ := ih hlt
      exact ⟨l ++ vs, u, older, (List.append_assoc ..).symm, hopens⟩
    cases hstep with
    | own hown =>
      rcases length_outlets_step hown with hsame | ⟨hopens, hlength⟩
      · exact hearlier (hsame ▸ ho)
      · by_cases hlt : o < t.outlets.length
        · exact hearlier hlt
        · obtain rfl : o = t.outlets.length := by omega
          exact ⟨[], t, us, rfl, hopens⟩
    | told c hidle => exact hearlier ho
    | outside histories hvaries pool hpool tasks htasks => exact hearlier ho

/-- An outlet that is not dropped is registered with its router, which lives. -/
theorem Watches.isAt {name : Text} {outlet : Outlet}
    (h : s.Watches name o outlet.router outlet.observerKey (.handler outlet.handler)) (hs : Settled us s)
    (hplaced : Placed s) (ho : s.outlets[o]? = some outlet) :
    s.IsAt (.handler outlet.handler) (some (.router outlet.router)) := by
  obtain ⟨place, hplace, -⟩ := hplaced (.handler outlet.handler)
  obtain rfl := hplace.outlets o outlet ho rfl
  obtain ⟨outlet', ho', halive⟩ := hs.named _ (Directory.mem_of_get? h.named)
  obtain rfl := Option.some.inj (ho.symm.trans ho')
  obtain ⟨panel, hpanel, hentry⟩ := h.observes
  have hseat : (Place.outlet o outlet.router outlet.observerKey).seat? =
      some (.router outlet.router, outlet.observerKey) := rfl
  refine hplace.isAt hseat ?_
  rw [panels, List.getElem?_map] at hpanel
  obtain ⟨router, hrouter, rfl⟩ := Option.map_eq_some_iff.1 hpanel
  rw [isAlive, hrouter] at halive
  rw [callbacks_router, hrouter]
  simp only [Option.map_some, Option.getD_some, halive, if_true]
  exact hentry

/-- No round of the router is in progress, and no call of the callback is left. -/
def IsBetweenRounds (s : Session) (r : Nat) (callback : Callback) : Prop :=
  (∀ entries path, .round (.router r) entries path ∉ s.agenda) ∧ ∀ path, .call callback path ∉ s.agenda

/-- What was there owes nothing to a new outlet. -/
theorem OpensOutlet.owed_eq_nil (hopens : u.OpensOutlet o) (hrun : RegularRun inMemory Session.empty us u)
    (hstep : u.step? = some s) : owed none (.handler u.handlers.length) s.agenda = [] := by
  obtain ⟨place, hplace⟩ := hrun.exists_isEscorted (.handler u.handlers.length)
  obtain rfl := hplace.known.resolve_left (Nat.lt_irrefl _)
  obtain ⟨name, r, handler, rest, observers, hfirst, hregistry, -⟩ := hopens
  obtain rfl := eq_of_step? hfirst hstep
  have hcalls := hplace.calls
  rw [hfirst] at hcalls
  change owed none _ (openOutlet { u with agenda := rest } name r handler).agenda = []
  rw [agenda_openOutlet]
  exact hcalls.tail.owed_of_none

/-- As long as it is not dropped, the callback of a new outlet is registered with its router. -/
theorem OpensOutlet.isAt (hopens : u.OpensOutlet o) (hrun : RegularRun inMemory Session.empty us u)
    (hstep : u.step? = some s) {outlet : Outlet} (ho : s.outlets[o]? = some outlet) (hlater : RegularRun inMemory s vs t)
    (hkept : ∀ v ∈ vs, ¬v.DropsOutlet o) : t.IsAt (.handler outlet.handler) (some (.router outlet.router)) := by
  obtain ⟨name, outlet₀, ho₀, -, hwatches⟩ :=
    hopens.exists_watches hrun.openRun.settled hrun.openRun.numbered hstep
  obtain rfl := Option.some.inj (ho.symm.trans ho₀)
  have hrun' := (hrun.step (RegularStep.own hstep)).trans hlater
  obtain ⟨outlet', ho', hseat⟩ := hlater.openRun.renews.exists_outlet ho
  obtain ⟨hrouter, hkey, hhandler⟩ := Outlet.eq_of_seat_eq hseat
  have hwatches' := hlater.openRun.watches hwatches hkept
  rw [← hrouter, ← hkey, ← hhandler] at hwatches'
  rw [← hrouter, ← hhandler]
  exact hwatches'.isAt hrun'.openRun.settled hrun'.openRun.placed ho'

/-- An outlet that is not dropped is told, since it was made, of each round of its router and of each of its loads that
applies. -/
theorem RegularRun.length_callsOf_of_opensOutlet (hrun : RegularRun inMemory Session.empty us u) (hopens : u.OpensOutlet o)
    (hstep : u.step? = some s) (hlater : RegularRun inMemory s vs t) (hkept : ∀ v ∈ vs, ¬v.DropsOutlet o) {outlet : Outlet}
    (ho : t.outlets[o]? = some outlet) :
    (callsOf (.handler outlet.handler) vs).length + (owed none (.handler outlet.handler) t.agenda).length =
      vs.countP (fun v => v.startsRound outlet.router) + vs.countP (fun v => v.appliedOutlet? = some o) := by
  obtain ⟨name, made, hmade, hhandler, -⟩ := hopens.exists_watches hrun.openRun.settled hrun.openRun.numbered hstep
  have hrun' := hrun.step (RegularStep.own hstep)
  obtain ⟨place, hplace, hknown⟩ := hrun'.openRun.placed (.handler made.handler)
  obtain rfl := hplace.outlets o made hmade rfl
  have hknown' := hknown.resolve_right (by simp)
  obtain ⟨hrouter, -, hhandler'⟩ := Outlet.eq_of_seat_eq (hlater.openRun.renews.seat_eq hmade ho)
  rw [hhandler', hrouter]
  have hat : ∀ v ∈ vs, v.IsAt (.handler made.handler) (some (.router made.router)) := by
    intro v hv
    obtain ⟨later, older, rfl⟩ := List.append_of_mem hv
    obtain ⟨_, holder, _⟩ := hlater.cut rfl
    exact hopens.isAt hrun hstep hmade holder
      (fun w hw => hkept w (List.mem_append_right _ (List.mem_cons_of_mem _ hw)))
  have hadds : ∀ v ∈ vs, ∀ added, v.Raises none (.handler made.handler) added →
      added.length = if decide (v.appliedOutlet? = some o) then 1 else 0 := by
    intro v hv added hraises
    have hbetween := (hlater.between hv).1
    refine length_of_raises (hplace.of_known hbetween hknown') ?_ hraises
    exact fun g hg => (Outlet.eq_of_seat_eq (hbetween.seat_eq hmade hg)).2.2
  have hsteps : ∀ v ∈ vs, ∀ v', v.step? = some v' →
      (v.calledWith? (.handler made.handler)).toList.length + (owed none (.handler made.handler) v'.agenda).length =
        (if v.startsRound made.router then 1 else 0) + (if decide (v.appliedOutlet? = some o) then 1 else 0) +
          (owed none (.handler made.handler) v.agenda).length := by
    intro v hv v' hown
    obtain ⟨added, hraises, hlength⟩ := exists_raises_step_of_isAt (hat v hv) hown
    rwa [hadds v hv added hraises] at hlength
  have hcount := hlater.length_callsOf_of_step (by rintro h ⟨⟩) _ _ hsteps
  rw [hhandler] at hcount ⊢
  rw [hopens.owed_eq_nil hrun hstep, List.length_nil, Nat.add_zero] at hcount
  exact hcount

/-- Between the rounds of its router nothing is owed to an outlet. -/
theorem RegularRun.owed_of_isBetweenRounds (hrun : RegularRun inMemory Session.empty us t) {outlet : Outlet}
    (ho : t.outlets[o]? = some outlet) (hbetween : t.IsBetweenRounds outlet.router (.handler outlet.handler)) :
    owed none (.handler outlet.handler) t.agenda = [] := by
  obtain ⟨place, hplace⟩ := hrun.exists_isEscorted (.handler outlet.handler)
  obtain rfl := hplace.keeps.outlets o outlet ho rfl
  have hseat : (some (Place.outlet o outlet.router outlet.observerKey)).bind Place.seat? =
      some (.router outlet.router, outlet.observerKey) := rfl
  exact hplace.calls.owed_eq_nil hseat hbetween.1 hbetween.2

end Session

end PathRouting
