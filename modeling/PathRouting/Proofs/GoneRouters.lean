import PathRouting.Proofs.Dues
import PathRouting.Proofs.Holdings

/-!
# Routers that are gone

A router that is held by nothing any more ends for good. Statements: each call of an observer is followed by the rest of
the round of its router, which holds the router, unless the call is for a load; so when a router is gone no observer of it
is called, none of its subscriptions is active, and a round of its history that still has its listener ahead does nothing
for it.
-/

namespace PathRouting

/-- The calls of a callback that tasks lead to are where they belong: in rounds of the registry of its place, with the
rest of the round behind a call; or for a load of its outlet, or a write of its cell. -/
inductive Escorted (callback : Callback) (place : Option Place) : List Task → Prop
  | nil : Escorted callback place []
  | silent {task : Task} {rest : List Task} (howes : task.owes none callback = []) (h : Escorted callback place rest) :
      Escorted callback place (task :: rest)
  | round {owner : Owner} {key : Nat} {entries : List (Nat × Callback)} {path : Text} {rest : List Task}
      (hseat : place.bind Place.seat? = some (owner, key)) (h : Escorted callback place rest) :
      Escorted callback place (.round owner entries path :: rest)
  | call {owner : Owner} {key : Nat} {entries : List (Nat × Callback)} {path path' : Text} {rest : List Task}
      (hseat : place.bind Place.seat? = some (owner, key)) (h : Escorted callback place (.round owner entries path' :: rest)) :
      Escorted callback place (.call callback path :: .round owner entries path' :: rest)
  | load {o r key : Nat} {path : Text} {rest : List Task} (hplace : place = some (.outlet o r key))
      (h : Escorted callback place rest) : Escorted callback place (.call callback path :: rest)
  | write {c : Nat} {path : Text} {rest : List Task} (hplace : place = some (.cell c)) (h : Escorted callback place rest) :
      Escorted callback place (.call callback path :: rest)

namespace Escorted

variable {callback : Callback} {place : Option Place} {task : Task} {tasks rest : List Task}

/-- When its first task is done the rest of an escorted agenda is escorted. -/
theorem tail (h : Escorted callback place (task :: rest)) : Escorted callback place rest := by
  cases h with
  | silent _ h => exact h
  | round _ h => exact h
  | call _ h => exact h
  | load _ h => exact h
  | write _ h => exact h

/-- Tasks that owe the callback nothing may be put before an escorted agenda. -/
theorem append (hsilent : ∀ task ∈ tasks, task.owes none callback = []) (h : Escorted callback place rest) :
    Escorted callback place (tasks ++ rest) := by
  induction tasks with
  | nil => exact h
  | cons task tasks ih =>
    obtain ⟨hfirst, hlater⟩ := List.forall_mem_cons.1 hsilent
    exact .silent hfirst (ih hlater)

/-- A callback without a place is owed nothing. -/
theorem owes_of_none (h : Escorted callback none tasks) : ∀ task ∈ tasks, task.owes none callback = [] := by
  generalize hnone : (none : Option Place) = nowhere at h
  induction h with
  | nil => exact fun _ ht => absurd ht List.not_mem_nil
  | silent howes _ ih => exact List.forall_mem_cons.2 ⟨howes, ih⟩
  | round hseat => rw [← hnone] at hseat; cases hseat
  | call hseat => rw [← hnone] at hseat; cases hseat
  | load hplace => rw [← hnone] at hplace; cases hplace
  | write hplace => rw [← hnone] at hplace; cases hplace

/-- A callback that has lost its place is owed nothing. -/
theorem owed_of_none (h : Escorted callback none tasks) : owed none callback tasks = [] :=
  PathRouting.owed_eq_nil h.owes_of_none

/-- What is owed nothing may get any place. -/
theorem of_none (h : Escorted callback none tasks) (place : Option Place) : Escorted callback place tasks :=
  List.append_nil tasks ▸ append h.owes_of_none .nil

/-- Where no round of its owner is left, a callback is called only if it is that of an outlet. -/
theorem exists_outlet_of_call (h : Escorted callback place tasks) {owner : Owner} {key : Nat}
    (hseat : place.bind Place.seat? = some (owner, key)) (hrounds : ∀ entries path, .round owner entries path ∉ tasks)
    {path : Text} (hcall : .call callback path ∈ tasks) : ∃ o r key, place = some (.outlet o r key) := by
  induction h with
  | nil => cases hcall
  | silent howes _ ih =>
    rcases List.mem_cons.1 hcall with rfl | hcall
    · simp [Task.owes] at howes
    · exact ih (fun entries path hm => hrounds entries path (List.mem_cons_of_mem _ hm)) hcall
  | round hseat' =>
    obtain ⟨rfl, _⟩ := Prod.mk.inj (Option.some.inj (hseat.symm.trans hseat'))
    exact absurd (List.mem_cons_self ..) (hrounds _ _)
  | call hseat' =>
    obtain ⟨rfl, _⟩ := Prod.mk.inj (Option.some.inj (hseat.symm.trans hseat'))
    exact absurd (List.mem_cons_of_mem _ (List.mem_cons_self ..)) (hrounds _ _)
  | load hplace => exact ⟨_, _, _, hplace⟩
  | write hplace =>
    rw [hplace] at hseat
    cases hseat

/-- Where no round of its owner and no call of it is left, a callback is owed nothing. -/
theorem owed_eq_nil (h : Escorted callback place tasks) {owner : Owner} {key : Nat}
    (hseat : place.bind Place.seat? = some (owner, key)) (hrounds : ∀ entries path, .round owner entries path ∉ tasks)
    (hcalls : ∀ path, .call callback path ∉ tasks) : owed none callback tasks = [] := by
  induction h with
  | nil => rfl
  | silent howes _ ih =>
    rw [owed_cons, howes, List.nil_append]
    exact ih (fun entries path hm => hrounds entries path (List.mem_cons_of_mem _ hm))
      (fun path hm => hcalls path (List.mem_cons_of_mem _ hm))
  | round hseat' =>
    obtain ⟨rfl, _⟩ := Prod.mk.inj (Option.some.inj (hseat.symm.trans hseat'))
    exact absurd (List.mem_cons_self ..) (hrounds _ _)
  | call | load | write => exact absurd (List.mem_cons_self ..) (hcalls _)

end Escorted

namespace Session

variable {s t : Session} {us : List Session} {callback : Callback} {place : Option Place} {inMemory : Nat → Prop} {r : Nat}

/-- What a call of the handler of a cell is for. -/
theorem exists_cell_of_write (s : Session) (c : Nat) (value : Props) : (s.write c value).agenda = s.agenda ∨
    ∃ cell, s.cells[c]? = some cell ∧ (s.write c value).agenda = .call (.handler cell.handler) [] :: s.agenda := by
  unfold write
  split
  · exact Or.inl rfl
  · rename_i cell hcell
    exact Or.inr ⟨cell, hcell, rfl⟩

/-- A write puts one call first, and its callback is in its place. -/
theorem escorted_write (hplace : s.KeepsTo callback place) {rest : List Task} (h : Escorted callback place rest) (c : Nat)
    (value : Props) : Escorted callback place (({ s with agenda := rest } : Session).write c value).agenda := by
  rcases exists_cell_of_write { s with agenda := rest } c value with hagenda | ⟨cell, hcell, hagenda⟩
  · rw [hagenda]
    exact h
  · rw [hagenda]
    by_cases hcallback : callback = .handler cell.handler
    · subst hcallback
      exact .write (hplace.cells c cell hcell rfl) h
    · exact .silent (if_neg (fun heq => hcallback heq.symm)) h

/-- A poll puts first what an ended load announces, and its callbacks are in their places. -/
theorem escorted_poll (hplace : s.KeepsTo callback place) {rest : List Task} (hfirst : s.agenda = .poll :: rest)
    (h : Escorted callback place rest) : Escorted callback place (({ s with agenda := rest } : Session).poll).agenda := by
  rcases agenda_poll hfirst with ⟨o, outlet, _, ho, hagenda⟩ | ⟨_, left, hleft, hagenda⟩
  · rw [hagenda]
    have hpoll : Escorted callback place (.poll :: rest) := .silent rfl h
    by_cases hcallback : callback = .handler outlet.handler
    · subst hcallback
      exact .load (hplace.outlets o outlet ho rfl) hpoll
    · exact .silent (if_neg (fun heq => hcallback heq.symm)) hpoll
  · rw [hagenda]
    exact h.append (fun task ht => by rw [hleft task ht]; rfl)

/-- What is due to a callback stays where it belongs. -/
theorem escorted_step (hplace : s.KeepsTo callback place) (h : Escorted callback place s.agenda)
    (hstep : s.step? = some t) : Escorted callback place t.agenda := by
  obtain ⟨task, rest, hfirst, rfl⟩ := (step?_eq_some_iff s t).1 hstep
  change Escorted callback place (({ s with agenda := rest } : Session).perform task).agenda
  rw [hfirst] at h
  obtain ⟨new, hagenda, hleads⟩ := leads_perform { s with agenda := rest } task
  have hsilent : (∀ task ∈ new, task.owes none callback = []) →
      Escorted callback place (({ s with agenda := rest } : Session).perform task).agenda := by
    intro hnew
    rw [hagenda]
    exact h.tail.append hnew
  cases hleads with
  | notified owner path =>
    rw [hagenda]
    by_cases hcalls : ∃ key, (key, callback) ∈ s.callbacks owner
    · obtain ⟨key, hkey⟩ := hcalls
      exact .round (hplace.seat?_eq hkey) h.tail
    · refine .silent ?_ h.tail
      have hnone : (s.callbacks owner).countP (fun entry => entry.2 = callback) = 0 := by
        rw [List.countP_eq_zero]
        exact fun entry he heq => hcalls ⟨entry.1, of_decide_eq_true heq ▸ he⟩
      change List.replicate ((s.callbacks owner).countP _) path = []
      rw [hnone]
      rfl
  | called owner entry later path =>
    rw [hagenda]
    cases h with
    | silent howes h =>
      rw [owes_round_cons, List.append_eq_nil_iff] at howes
      exact .silent howes.1 (.silent howes.2 h)
    | round hseat h =>
      by_cases hcallback : entry.2 = callback
      · rw [hcallback]
        exact .call hseat (.round hseat h)
      · exact .silent (if_neg hcallback) (.round hseat h)
  | polled => exact escorted_poll hplace hfirst h.tail
  | loaded => exact escorted_poll hplace hfirst h.tail
  | written c index value => exact escorted_write hplace h.tail c value
  | updated c index added => exact escorted_write hplace h.tail c _
  | nothing => exact hsilent (fun _ ht => absurd ht List.not_mem_nil)
  | command nested c =>
    refine hsilent (fun other ht => ?_)
    rcases List.mem_append.1 ht with ht | ht
    · exact owes_of_isAsked (isAsking_plan _ c.step other ht) (fun b hb => nomatch hb)
    · rw [List.mem_singleton.1 ht]
      rfl
  | _ => exact hsilent (by simp [Task.owes])

/-! ## Runs -/

/-- If a callback is to be where an outlet is, it is the callback of the outlet. -/
def IsSeated (s : Session) (callback : Callback) (place : Option Place) : Prop :=
  ∀ o r key, place = some (.outlet o r key) →
    ∃ outlet, s.outlets[o]? = some outlet ∧ outlet.router = r ∧ callback = .handler outlet.handler

/-- A callback has a place, and is called from there. -/
structure IsEscorted (s : Session) (callback : Callback) (place : Option Place) : Prop where
  keeps : s.KeepsTo callback place
  known : callback.IsKnown s ∨ place = none
  calls : Escorted callback place s.agenda
  seated : s.IsSeated callback place

/-- Outlets stay where they are, and so the callback of one is seated there still. -/
theorem IsSeated.renews (h : s.IsSeated callback place) (hr : Renews s t) : t.IsSeated callback place := by
  intro o r key hplace
  obtain ⟨outlet, ho, hrouter, hhandler⟩ := h o r key hplace
  obtain ⟨outlet', ho', hseat⟩ := hr.exists_outlet ho
  obtain ⟨hrouter', _, hhandler'⟩ := Outlet.eq_of_seat_eq hseat
  exact ⟨outlet', ho', hrouter'.trans hrouter, by rw [hhandler, hhandler']⟩

/-- A callback that keeps to the place of an outlet but is not the one of the outlet only observes. -/
theorem KeepsTo.exists_isSeated (h : s.KeepsTo callback place) : ∃ place, s.KeepsTo callback place ∧
    s.IsSeated callback place := by
  by_cases hseated : s.IsSeated callback place
  · exact ⟨place, h, hseated⟩
  · rcases place with _ | ⟨owner, key⟩ | ⟨o, r, key⟩ | c
    · exact absurd (fun _ _ _ hplace => nomatch hplace) hseated
    · exact absurd (fun _ _ _ hplace => nomatch hplace) hseated
    · refine ⟨some (.registry (.router r) key), ⟨h.callbacks, ?_, ?_⟩, fun _ _ _ hplace => nomatch hplace⟩
      · exact fun c cell hc hhandler => nomatch h.cells c cell hc hhandler
      · intro o' outlet ho hhandler
        obtain ⟨rfl, rfl, rfl⟩ := Place.outlet.inj (Option.some.inj (h.outlets o' outlet ho hhandler))
        refine absurd ?_ hseated
        rintro _ _ _ ⟨⟩
        exact ⟨outlet, ho, rfl, hhandler⟩
    · exact absurd (fun _ _ _ hplace => nomatch hplace) hseated

/-- A callback that was known keeps its place, and a new one gets one. -/
theorem IsEscorted.renews (h : s.IsEscorted callback place) (hr : Renews s t)
    (hcalls : ∀ place, s.KeepsTo callback place → Escorted callback place s.agenda → Escorted callback place t.agenda) :
    ∃ place, t.IsEscorted callback place := by
  by_cases hs : callback.IsKnown s
  · exact ⟨place, h.keeps.of_known hr hs, Or.inl (hr.known _ hs), hcalls place h.keeps h.calls, h.seated.renews hr⟩
  · obtain rfl := h.known.resolve_left hs
    have hnone := hcalls none h.keeps h.calls
    by_cases ht : callback.IsKnown t
    · obtain ⟨_, hplace⟩ := hr.places callback ⟨hs, ht⟩ h.keeps
      obtain ⟨place, hplace, hseated⟩ := hplace.exists_isSeated
      exact ⟨place, hplace, Or.inl ht, hnone.of_none place, hseated⟩
    · exact ⟨none, h.keeps.renews hr (fun hnew => ht hnew.2), Or.inr rfl, hnone, fun _ _ _ hplace => nomatch hplace⟩

/-- What is asked for between tasks owes a callback nothing. -/
theorem escorted_of_regularStep {l : List Session} (hstep : RegularStep inMemory s l t) (hplace : s.KeepsTo callback place)
    (h : Escorted callback place s.agenda) : Escorted callback place t.agenda := by
  cases hstep with
  | own hown => exact escorted_step hplace h hown
  | told c hidle => exact .silent rfl .nil
  | outside histories hvaries hsame pool hpool tasks htasks =>
    refine h.append (fun task ht => ?_)
    cases htasks task ht <;> rfl

/-- Along every regular run a callback is called from its place only. -/
theorem RegularRun.exists_isEscorted (h : RegularRun inMemory Session.empty us t) (callback : Callback) :
    ∃ place, t.IsEscorted callback place := by
  induction h with
  | start =>
    obtain ⟨place, hplace, hknown⟩ := placed_empty callback
    obtain rfl : place = none := hknown.resolve_left (by cases callback <;> exact Nat.not_lt_zero _)
    exact ⟨none, hplace, Or.inr rfl, .nil, fun _ _ _ hnone => nomatch hnone⟩
  | step hbefore hstep ih =>
    obtain ⟨place, hplace⟩ := ih
    exact hplace.renews hstep.openStep.renews (fun _ hkeeps => escorted_of_regularStep hstep hkeeps)

/-- A callback that is known is called from the same place ever after. -/
theorem RegularRun.escorted (h : RegularRun inMemory s us t) (hplace : s.IsEscorted callback place)
    (hknown : callback.IsKnown s) : Escorted callback place t.agenda := by
  induction h with
  | start => exact hplace.calls
  | step hbefore hstep ih =>
    exact escorted_of_regularStep hstep (hplace.keeps.of_known hbefore.openRun.renews hknown) ih

/-! ## Routers that are gone -/

/-- A load is applied only while the router of its outlet is alive. -/
theorem isAlive_of_applied {o : Nat} {outlet : Outlet} (h : s.appliedOutlet? = some o) (ho : s.outlets[o]? = some outlet) :
    s.isAlive outlet.router = true := by
  obtain ⟨_, _, _, outlet', _, _, _, ho', happlies⟩ := appliedOutlet?_eq_some_iff.1 h
  obtain rfl := Option.some.inj (ho.symm.trans ho')
  exact happlies.1

/-- A router that ended does not come back. -/
theorem OpenRun.isAlive_eq_false (h : OpenRun s us t) (hr : r < s.routers.length) (hgone : s.isAlive r = false) :
    t.isAlive r = false := by
  induction h with
  | start => exact hgone
  | @step us l t t' hbefore hstep ih =>
    cases hstep with
    | own hown =>
      obtain ⟨task, rest, _, rfl⟩ := (step?_eq_some_iff t t').1 hown
      have hr' : r < t.routers.length := hbefore.renews.known (.follow r) hr
      have hsame : (({ t with agenda := rest } : Session).perform task).isAlive r = t.isAlive r :=
        isAlive_perform { t with agenda := rest } task hr'
      rw [isAlive_sweep, hsame, ih, Bool.false_and]
    | told c hidle => exact ih
    | outside histories hvaries pool hpool tasks htasks => exact ih

/-- A router that is gone has no callbacks. -/
theorem callbacks_of_gone (hgone : s.isAlive r = false) : s.callbacks (.router r) = [] := by
  rw [callbacks_router]
  rw [isAlive] at hgone
  cases hrouter : s.routers[r]? with
  | none => rfl
  | some router =>
    simp only [hrouter] at hgone
    simp [hgone]

/-- Nothing is subscribed to a router that is gone. -/
theorem isSubscribed_of_gone (hgone : s.isAlive r = false) (key : Nat) : s.isSubscribed ⟨.router r, key⟩ = false := by
  rw [isAlive] at hgone
  simp only [isSubscribed, registry?]
  cases hrouter : s.routers[r]? with
  | none => rfl
  | some router =>
    simp only [hrouter] at hgone
    simp [hgone]

/-- The listener of a router that ended is called for nothing: the call is taken away, and nothing else happens. -/
theorem step?_of_gone (htidy : s.IsTidy) (hgone : s.isAlive r = false) {path : Text} {rest : List Task}
    (hfirst : s.agenda = .call (.follow r) path :: rest) : s.step? = some { s with agenda := rest } := by
  have hpopped : IsTidy { s with agenda := rest } := htidy.popped hfirst ⟨rfl, rfl, rfl⟩
  have hgone' : ({ s with agenda := rest } : Session).isAlive r = false := hgone
  have hsame : ({ s with agenda := rest } : Session).perform (.call (.follow r) path) = { s with agenda := rest } := by
    simp only [perform, call, hgone', Bool.false_eq_true, if_false]
  refine (step?_eq_some_iff s _).2 ⟨_, rest, hfirst, ?_⟩
  rw [hsame, hpopped.sweep_eq]

/-- Where a router ended its observers are called by nobody any more, but for a load that was just applied to its
outlet. -/
theorem RegularRun.callsOf_of_gone (hrun : RegularRun inMemory Session.empty us s) (hr : r < s.routers.length)
    (hgone : s.isAlive r = false) {u : Session} (hu : u ∈ us) {entry : Nat × Callback}
    (hentry : entry ∈ u.callbacks (.router r)) {vs : List Session} (hlater : RegularRun inMemory s vs t) :
    callsOf entry.2 vs = [] ∨ ∃ (o : Nat) (outlet : Outlet) (path : Text), s.outlets[o]? = some outlet ∧
      outlet.router = r ∧ entry.2 = .handler outlet.handler ∧ .call entry.2 path ∈ s.agenda := by
  obtain ⟨later, older, hus⟩ := List.append_of_mem hu
  obtain ⟨u', holder, hstep, hafter⟩ := hrun.cut hus
  have hmiddle := (RegularRun.start.step (RegularStep.own hstep)).trans hafter
  obtain ⟨place, hplace⟩ := holder.exists_isEscorted entry.2
  have hknown := holder.openRun.placed.isKnown hentry
  have hseat := hplace.keeps.seat?_eq hentry
  have hescorted := hmiddle.escorted hplace hknown
  have hkeeps := hplace.keeps.of_known hmiddle.openRun.renews hknown
  have hknown' := hmiddle.openRun.renews.known _ hknown
  have hrounds : ∀ entries path, .round (.router r) entries path ∉ s.agenda := fun entries path hround =>
    hrun.not_isHeld hr hgone (Or.inr ⟨_, hround, List.mem_singleton_self r⟩)
  by_cases hcall : ∃ path, .call entry.2 path ∈ s.agenda
  · obtain ⟨path, hcall⟩ := hcall
    obtain ⟨o, r', key, rfl⟩ := hescorted.exists_outlet_of_call hseat hrounds hcall
    obtain ⟨outlet, ho, hrouter, hhandler⟩ := hplace.seated.renews hmiddle.openRun.renews o r' key rfl
    obtain ⟨hr', _⟩ := Prod.mk.inj (Option.some.inj hseat)
    exact Or.inr ⟨o, outlet, path, ho, hrouter.trans (Owner.router.inj hr'), hhandler, hcall⟩
  · refine Or.inl ?_
    have hnone : s.IsAt entry.2 none := by
      rw [isAt_none_iff]
      intro owner key hm
      have howner := hkeeps.seat?_eq hm
      rw [hseat] at howner
      obtain ⟨rfl, _⟩ := Prod.mk.inj (Option.some.inj howner)
      rw [callbacks_of_gone hgone] at hm
      cases hm
    have hquiet : ∀ v ∈ vs, ∀ added, v.Raises none entry.2 added → added = [] := by
      intro v hv added hraises
      have hkeeps' := hkeeps.of_known (hlater.between hv).1 hknown'
      cases hraises with
      | nothing => rfl
      | applied happlied ho hcallback =>
        rw [hkeeps'.outlets _ _ ho hcallback] at hseat
        obtain ⟨hrouter, _⟩ := Prod.mk.inj (Option.some.inj hseat)
        have halive := isAlive_of_applied happlied ho
        obtain ⟨older', hbefore⟩ := hlater.exists_of_mem hv
        rw [Owner.router.inj hrouter, hbefore.openRun.isAlive_eq_false hr hgone] at halive
        cases halive
      | written hc hcallback =>
        rw [hkeeps'.cells _ _ hc hcallback] at hseat
        cases hseat
      | asked _ _ hhome => cases hhome
      | announced _ hhome => cases hhome
      | moved _ _ hhome => cases hhome
      | resolved _ hhome => cases hhome
    have hcalls := hlater.callsOf_append_owed (by rintro h ⟨⟩) (fun v hv => hlater.isAt_none hknown' hnone hv) hquiet
    rw [hescorted.owed_eq_nil hseat hrounds (fun path hpath => hcall ⟨path, hpath⟩)] at hcalls
    exact (List.append_eq_nil_iff.1 hcalls).1

end Session

end PathRouting
