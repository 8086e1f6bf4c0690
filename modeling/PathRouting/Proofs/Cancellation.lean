import PathRouting.Proofs.Dues
import PathRouting.Proofs.Reentrance

/-!
# Cancelled subscriptions

A subscription that is cancelled registers its callback nowhere any more, and no later round calls it. A round works on
the callbacks that were registered when it started, so that one that was running then still calls it. Statements: after
its cancellation a callback gets exactly the calls that were owed to it by the rounds that were running, and there may be
such calls.
-/

namespace PathRouting

namespace Session

variable {s t u w w' : Session} {callback : Callback} {subscription : Subscription} {us us₀ us₁ : List Session}
  {inMemory : Nat → Prop}

/-- The first task registers a callback and makes a subscription for it. -/
def Subscribes (s : Session) (callback : Callback) (subscription : Subscription) : Prop :=
  ∃ name owner handler rest registry, s.agenda = .subscribe name owner handler :: rest ∧
    s.registry? owner = some registry ∧ callback = .handler s.handlers.length ∧
    subscription = ⟨owner, registry.nextKey⟩

/-- The first task cancels a subscription: it takes its name away, or gives the name to a new subscription. -/
def Cancels (s : Session) (subscription : Subscription) : Prop :=
  (∃ name rest, s.agenda = .drop .subscription name :: rest ∧
    s.names.subscriptions.get? name = some subscription) ∨
  ∃ name owner handler rest registry, s.agenda = .subscribe name owner handler :: rest ∧
    s.registry? owner = some registry ∧ s.names.subscriptions.get? name = some subscription

/-! ## Steps -/

theorem registry?_withAgenda (s : Session) (agenda : List Task) (owner : Owner) :
    registry? { s with agenda := agenda } owner = s.registry? owner := by
  cases owner <;> rfl

/-- Before its handler is made, a callback has no place. -/
theorem Placed.keepsTo_none (h : Placed s) (hunknown : ¬callback.IsKnown s) : s.KeepsTo callback none := by
  obtain ⟨place, hplace, hknown | rfl⟩ := h callback
  · exact absurd hknown hunknown
  · exact hplace

/-- A callback that a subscription is made for is registered under its key, and nowhere else for good. -/
theorem Subscribes.keepsTo (h : s.Subscribes callback subscription) (hs : Placed s) (hstep : s.step? = some t) :
    t.KeepsTo callback (some (.registry subscription.owner subscription.key)) ∧ callback.IsKnown t := by
  obtain ⟨name, owner, handler, rest, registry, hfirst, hregistry, rfl, rfl⟩ := h
  obtain rfl := eq_of_step? hfirst hstep
  have htaken : Placed { s with agenda := rest } := hs.renews (Renews.of_wiring rfl)
  have hregistry' := (registry?_withAgenda s rest owner).trans hregistry
  have hnew : ¬(Callback.handler s.handlers.length).IsKnown { s with agenda := rest } := Nat.lt_irrefl _
  have hnone := htaken.keepsTo_none hnew
  have henrolled := keepsTo_enrol hnone hregistry' handler
  have hknown : (Callback.handler s.handlers.length).IsKnown (enrol { s with agenda := rest } owner handler) := by
    rw [Callback.IsKnown, (enrol_lengths _ owner handler).1]
    exact Nat.lt_succ_self _
  have hafter := (renews_subscribe_of_enrol hregistry' name handler).trans (renews_sweep _)
  exact ⟨henrolled.of_known hafter hknown, hafter.known _ hknown⟩

/-- A callback is registered nowhere once its subscription is cancelled. -/
theorem Cancels.isAt_none (h : s.Cancels subscription)
    (hs : s.KeepsTo callback (some (.registry subscription.owner subscription.key))) (hknown : callback.IsKnown s) :
    ∃ t, s.step? = some t ∧ Renews s t ∧ t.IsAt callback none := by
  have htaken : ∀ rest, Renews s { s with agenda := rest } := fun _ => Renews.of_wiring rfl
  rcases h with ⟨name, rest, hfirst, hname⟩ | ⟨name, owner, handler, rest, registry, hfirst, hregistry, hname⟩
  · have hforgotten : Renews s (forgetSubscription { s with agenda := rest } name) :=
      (htaken rest).trans (Renews.of_wiring rfl)
    refine hs.isAt_none_of_step subscription hknown rfl hfirst hforgotten ?_
    have hname' : ({ s with agenda := rest } : Session).names.subscriptions.get? name = some subscription := hname
    change Renews _ (dropSubscription _ name)
    simp only [dropSubscription, hname']
    exact renews_refl _
  · have hregistry' := (registry?_withAgenda s rest owner).trans hregistry
    let enrolled := enrol { s with agenda := rest } owner handler
    let stored : Session := { enrolled with names := { enrolled.names with
      subscriptions := enrolled.names.subscriptions.put name ⟨owner, registry.nextKey⟩ } }
    have hstored : Renews s stored :=
      ((htaken rest).trans (renews_enrol hregistry' handler)).trans (Renews.of_wiring rfl)
    refine hs.isAt_none_of_step subscription hknown rfl hfirst hstored ?_
    have hname' : ({ s with agenda := rest } : Session).names.subscriptions.get? name = some subscription := hname
    change Renews _ (subscribe _ name owner handler)
    simp only [subscribe, hregistry', hname']
    exact renews_refl _

/-- Whatever callbacks subscribe and unsubscribe, and whenever: once its subscription is cancelled, a callback is called for
the rounds that were running and had not called it yet, and not again. It stays silent exactly if there was no such
round. -/
theorem callsOf_of_cancels (hmade : RegularRun inMemory Session.empty us₀ w) (hsub : w.Subscribes callback subscription)
    (hstep : w.step? = some w') (hlive : RegularRun inMemory w' us₁ s) (hcancels : s.Cancels subscription) :
    ∃ t, s.step? = some t ∧ ∀ us u, RegularRun inMemory t us u →
      callsOf callback us ++ owed none callback u.agenda = owed none callback t.agenda ∧
      (u.agenda = [] → (callsOf callback us = [] ↔ owed none callback t.agenda = [])) := by
  have hplaced : Placed w := hmade.openRun.placed
  obtain ⟨hplace, hknown⟩ := hsub.keepsTo hplaced hstep
  have hlater := hlive.openRun.renews
  have hs := hplace.of_known hlater hknown
  obtain ⟨t, hcancelled, hrenews, hnone⟩ := hcancels.isAt_none hs (hlater.known _ hknown)
  refine ⟨t, hcancelled, ?_⟩
  intro us u hrun
  have ht := hs.of_known hrenews (hlater.known _ hknown)
  have htknown := hrenews.known _ (hlater.known _ hknown)
  have hquiet : ∀ v ∈ us, ∀ added, v.Raises none callback added → added = [] := by
    intro v hv added hraises
    have hv' := ht.of_known (hrun.between hv).1 htknown
    cases hraises with
    | nothing => rfl
    | applied happlied ho hcallback => cases hv'.outlets _ _ ho hcallback
    | written hc hcallback => cases hv'.cells _ _ hc hcallback
    | asked _ _ hhome => cases hhome
    | announced _ hhome => cases hhome
    | moved _ _ hhome => cases hhome
    | resolved _ hhome => cases hhome
  have hcalls := hrun.callsOf_append_owed (by rintro h ⟨⟩) (fun v hv => hrun.isAt_none htknown hnone hv) hquiet
  refine ⟨hcalls, fun hidle => ?_⟩
  rw [← hcalls, hidle]
  exact ⟨fun hsilent => by rw [hsilent]; rfl, fun howed => (List.append_eq_nil_iff.1 howed).1⟩

/-! ## A round that goes on -/

/-- A registry `g` with a listener `a` that will cancel the subscription `b`. -/
def cancellerListens : Session :=
  (empty.doStep 9 (.mk none (.newListeners (given "g")))).doStep 9
    (.mk none (.addListener (given "a") (given "g") (.mk (.given [.mk none (.unsubscribe (given "b"))]) .absent .absent)))

/-- The subscription `b` is about to be made. -/
def listenerAsked : Session :=
  finishTasks 1 (cancellerListens.begin (.mk none (.addListener (given "b") (given "g") (.mk .absent .absent .absent))))

/-- The subscription `b` was just made. -/
def listenerAdded : Session := finishTasks 1 listenerAsked

/-- The listeners are notified of a path, and the first one is about to cancel the subscription of the second one. -/
def cancelAsked : Session :=
  finishTasks 6 ((finishTasks 9 listenerAdded).begin (.mk none (.notify (given "g") (given "/x"))))

/-- The subscription was just cancelled. -/
def listenerCancelled : Session := finishTasks 1 cancelAsked

theorem regularRun_cancelAsked : (∃ us, RegularRun (fun _ => False) empty us listenerAsked) ∧
    listenerAsked.step? = some listenerAdded ∧ ∃ us, RegularRun (fun _ => False) listenerAdded us cancelAsked := by
  have hlistens : ∃ us, RegularRun (fun _ => False) empty us cancellerListens := by
    refine exists_regularRun_doStep ?_ rfl 9 _
    exact exists_regularRun_doStep ⟨[], RegularRun.start⟩ rfl 9 _
  obtain ⟨us, hus⟩ := hlistens
  have hadded : RegularRun (fun _ => False) listenerAdded _ (finishTasks 9 listenerAdded) := RegularRun.start.goOn 9
  exact ⟨⟨_, (hus.step (RegularStep.told _ rfl)).goOn 1⟩, rfl, _, (hadded.step (RegularStep.told _ rfl)).goOn 6⟩

theorem subscribes_listenerAsked : listenerAsked.Subscribes (.handler 1) ⟨.bare 0, 1⟩ :=
  ⟨_, _, _, _, _, rfl, rfl, rfl, rfl⟩

theorem cancels_cancelAsked : cancelAsked.Cancels ⟨.bare 0, 1⟩ := Or.inl ⟨_, _, rfl, rfl⟩

/-- The second listener is called for the round that was running when its subscription was cancelled. -/
theorem callsOf_listenerCancelled : ∃ t, cancelAsked.step? = some t ∧ ∀ us u,
    RegularRun (fun _ => False) t us u → u.agenda = [] → callsOf (.handler 1) us = [Text.ofString "/x"] := by
  obtain ⟨⟨us₀, hmade⟩, hstep, us₁, hlive⟩ := regularRun_cancelAsked
  obtain ⟨t, hcancelled, hcalls⟩ :=
    callsOf_of_cancels hmade subscribes_listenerAsked hstep hlive cancels_cancelAsked
  refine ⟨t, hcancelled, fun us u hrun hidle => ?_⟩
  have ht : t.agenda = listenerCancelled.agenda :=
    congrArg agenda (Option.some.inj (hcancelled.symm.trans (rfl : cancelAsked.step? = some listenerCancelled)))
  have howed : owed none (.handler 1) listenerCancelled.agenda = [Text.ofString "/x"] := rfl
  have hall := (hcalls us u hrun).1
  rw [hidle, ht, howed] at hall
  exact (List.append_nil _).symm.trans hall

/-- A callback may be called although its subscription was cancelled before. -/
theorem not_silent_of_cancels : ¬∀ (inMemory : Nat → Prop) (us₀ us₁ us : List Session) (w w' s t u : Session)
    (callback : Callback) (subscription : Subscription), RegularRun inMemory Session.empty us₀ w →
    w.Subscribes callback subscription → w.step? = some w' → RegularRun inMemory w' us₁ s →
    s.Cancels subscription → s.step? = some t → RegularRun inMemory t us u → callsOf callback us = [] := by
  intro hall
  obtain ⟨⟨us₀, hmade⟩, hstep, us₁, hlive⟩ := regularRun_cancelAsked
  have hsilent := hall _ us₀ us₁ _ _ _ _ listenerCancelled _ _ _ hmade subscribes_listenerAsked hstep hlive
    cancels_cancelAsked rfl (RegularRun.start.goOn 9)
  have hcalled : callsOf (.handler 1) (passed 9 listenerCancelled ++ []) = [Text.ofString "/x"] := rfl
  rw [hcalled] at hsilent
  cases hsilent

end Session

end PathRouting
