import PathRouting.Proofs.Courses
import PathRouting.Proofs.Leads
import PathRouting.Proofs.Registrations

/-!
# Routers that are alone with their history

A router is the only listener of a history that announces no entries, and callbacks leave the two alone: they ask the
router to navigate and, where they may, the history to move, but never set a route, add an entry or listen themselves.
Statements: then most tasks keep what the router shows, where it stands, and where the history is, and lead to such tasks
only.
-/

namespace PathRouting

/-- The task leaves a router alone with its history: it navigates the router, moves the history if it may, or touches
neither. -/
def Task.Spares (r h : Nat) (moves : Bool) : Task → Prop
  | .command nested _ => moves = true ∨ nested = true
  | .openRouter _ _ _ => False
  | .subscribe _ owner _ => owner ≠ .history h
  | .push _ _ => False
  | .move h' _ => h' = h ∧ moves = true
  | .notify owner _ => owner = .router r
  | .round _ rest _ => ∀ entry ∈ rest, entry.2.IsHandler
  | .call callback _ => callback.IsHandler
  | .navigate r' _ => r' = r
  | .resolve _ _ => False
  | .drain _ => False
  | _ => True

/-- A task that spares a history spares it where moves are allowed as well. -/
theorem Task.Spares.mono {r h : Nat} {moves moves' : Bool} {task : Task} (hs : task.Spares r h moves)
    (hmoves : moves = true → moves' = true) : task.Spares r h moves' := by
  cases task with
  | command => exact hs.imp_left hmoves
  | move => exact hs.imp_right hmoves
  | _ => exact hs

instance (callback : Callback) : Decidable callback.IsHandler :=
  match callback with
  | .follow _ => .isFalse not_false
  | .handler _ => .isTrue trivial

instance (r h : Nat) (moves : Bool) (task : Task) : Decidable (task.Spares r h moves) :=
  match task with
  | .command nested _ => inferInstanceAs (Decidable (moves = true ∨ nested = true))
  | .openRouter _ _ _ => .isFalse not_false
  | .subscribe _ owner _ => inferInstanceAs (Decidable (owner ≠ .history h))
  | .push _ _ => .isFalse not_false
  | .move h' _ => inferInstanceAs (Decidable (h' = h ∧ moves = true))
  | .notify owner _ => inferInstanceAs (Decidable (owner = .router r))
  | .round _ rest _ => inferInstanceAs (Decidable (∀ entry ∈ rest, entry.2.IsHandler))
  | .call callback _ => inferInstanceAs (Decidable callback.IsHandler)
  | .navigate r' _ => inferInstanceAs (Decidable (r' = r))
  | .resolve _ _ => .isFalse not_false
  | .drain _ => .isFalse not_false
  | .script _ | .answer _ _ _ | .report _ | .openHistory _ _ _ | .openRegistry _ | .openOutlet _ _ _ | .openCell _ _ _
  | .nameRouter _ _ | .nameWeak _ _ | .nameSnapshot _ _ | .nameScope _ _ | .nameLink _ _ | .nameCell _ _ | .detach _
  | .drop _ _ | .render _ | .deliver _ _ | .poll | .dropPool | .write _ _ | .update _ _ => .isTrue trivial

namespace Session

variable {s t : Session} {us : List Session} {r h : Nat} {moves : Bool}

/-! ## Runs -/

/-- One step of a session in which callbacks leave a router alone with its history. What a callback asks for may move the
history only where `moves` says so; steps from outside may do so in any case. An observer of the router may carry out any
commands when it is called. -/
inductive ObservedStep (r h : Nat) (moves : Bool) (s : Session) : List Session → Session → Prop
  /-- The first task is done. If it is a command, what it asks for leaves the router alone with its history. -/
  | own {t : Session} (hstep : s.step? = some t)
      (hspares : ∀ nested c rest, s.agenda = .command nested c :: rest →
        ∀ task ∈ (s.plan c.step).tasks, task.Spares r h (moves || !nested)) : ObservedStep r h moves s [s] t
  /-- A step comes from outside, once nothing is left. -/
  | told (c : Command) (hidle : s.agenda = []) : ObservedStep r h moves s [] (s.begin c)
  /-- An observer of the router acts. -/
  | observed {rest : List (Nat × Callback)} {path : Text} {later : List Task}
      (hround : s.agenda = .round (.router r) rest path :: later) (commands : List Command) :
      ObservedStep r h moves s [] (s.first [.script commands])

/-- A run of such steps, with the sessions whose first tasks were done, the latest first. -/
inductive ObservedRun (r h : Nat) (moves : Bool) (s : Session) : List Session → Session → Prop
  | start : ObservedRun r h moves s [] s
  | step {us l : List Session} {t t' : Session} (hrun : ObservedRun r h moves s us t)
      (hstep : ObservedStep r h moves t l t') : ObservedRun r h moves s (l ++ us) t'

/-- If the first task is a command, what it asks for leaves the two alone. -/
def leavesAlone (r h : Nat) (moves : Bool) (s : Session) : Bool :=
  match s.agenda with
  | .command nested c :: _ => (s.plan c.step).tasks.all (fun task => decide (task.Spares r h (moves || !nested)))
  | _ => true

/-- Such a run goes on by itself, as long as commands leave the two alone. -/
theorem ObservedRun.goOn (hrun : ObservedRun r h moves s us t) (limit : Nat)
    (hspares : (passed limit t).all (leavesAlone r h moves) = true) :
    ObservedRun r h moves s (passed limit t ++ us) (finishTasks limit t) := by
  induction limit generalizing us t with
  | zero => exact hrun
  | succ limit ih =>
    rw [passed] at hspares ⊢
    rw [finishTasks]
    cases hs : t.step? with
    | none => exact hrun
    | some next =>
      simp only [hs, List.all_append, Bool.and_eq_true, List.all_cons, List.all_nil, and_true] at hspares
      have hstep : ObservedStep r h moves t [t] next := by
        refine ObservedStep.own hs ?_
        intro nested c rest hagenda task hm
        have hall := hspares.2
        rw [leavesAlone, hagenda] at hall
        exact of_decide_eq_true (List.all_eq_true.1 hall task hm)
      have hnext := ih (hrun.step hstep) hspares.1
      rw [← List.append_assoc] at hnext
      exact hnext

/-- A step from outside with all that it leads to makes such a run longer. -/
theorem ObservedRun.doStep (hrun : ObservedRun r h moves s us t) (hidle : t.agenda = []) (limit : Nat) (c : Command)
    (hspares : (passed limit (t.begin c)).all (leavesAlone r h moves) = true) :
    ObservedRun r h moves s (passed limit (t.begin c) ++ us) (t.doStep limit c) :=
  (hrun.step (ObservedStep.told c hidle)).goOn limit hspares

/-- Such a run is a run among others. -/
theorem ObservedRun.openRun {us₀ : List Session} (h₀ : OpenRun Session.empty us₀ s) (hrun : ObservedRun r h moves s us t) :
    OpenRun Session.empty (us ++ us₀) t := by
  induction hrun with
  | start => exact h₀
  | @step us l t t' hrun hstep ih =>
    rw [List.append_assoc]
    refine ih.step ?_
    cases hstep with
    | own hstep _ => exact OpenStep.own hstep
    | told c hidle => exact OpenStep.told c hidle
    | observed _ commands =>
      refine ih.step_first (fun task ht => ?_)
      rw [List.mem_singleton.1 ht]
      trivial

/-! ## Tasks that leave the two alone -/

/-- What leads to no navigation and no move leads to tasks that leave the two alone as well. -/
theorem Leads.spares {task : Task} {new : List Task} (hleads : Leads s task new) (hregistered : Registered s)
    (hspares : task.Spares r h moves)
    (hplan : ∀ nested c, task = .command nested c → ∀ asked ∈ (s.plan c.step).tasks, asked.Spares r h moves)
    (hnavigate : ∀ path, task ≠ .navigate r path) (hmove : ∀ onward, task ≠ .move h onward) :
    ∀ next ∈ new, next.Spares r h moves := by
  cases hleads with
  | nothing => exact fun _ hm => absurd hm List.not_mem_nil
  | command nested c =>
    intro next hm
    rcases List.mem_append.1 hm with hm | hm
    · exact hplan nested c rfl next hm
    · rw [List.mem_singleton.1 hm]
      trivial
  | script c rest => simp [Task.Spares]
  | announced => exact hspares.elim
  | moved h' onward path => exact absurd (hspares.1 ▸ rfl) (hmove onward)
  | notified owner path =>
    obtain rfl : owner = .router r := hspares
    intro next hm
    rw [List.mem_singleton.1 hm]
    intro entry he
    unfold callbacks at he
    split at he
    · rename_i registry hregistry
      unfold registry? at hregistry
      dsimp only at hregistry
      split at hregistry
      · rename_i router hrouter
        split at hregistry
        · obtain rfl := Option.some.inj hregistry
          exact hregistered.observers entry (List.mem_flatMap.2 ⟨router, List.mem_of_getElem? hrouter, he⟩)
        · cases hregistry
      · cases hregistry
    · cases he
  | called owner entry later path =>
    obtain ⟨hentry, hlater⟩ := List.forall_mem_cons.1 hspares
    intro next hm
    rcases List.mem_cons.1 hm with rfl | hm
    · exact hentry
    · rw [List.mem_singleton.1 hm]
      exact hlater
  | followed => exact hspares.elim
  | reacted => simp [Task.Spares]
  | navigated path _ _ => exact absurd (congrArg (Task.navigate · path) hspares) (hnavigate path)
  | resolved => exact hspares.elim
  | drained => exact hspares.elim
  | polled => simp [Task.Spares]
  | loaded => simp [Task.Spares, Callback.IsHandler]
  | written => simp [Task.Spares, Callback.IsHandler]
  | updated => simp [Task.Spares, Callback.IsHandler]

/-- A subscription that is cancelled takes none of the listeners of a history to which it was not made with their keys. -/
theorem getElem?_histories_cancel {history : History} (hhistory : s.histories[h]? = some history)
    (subscription : Subscription)
    (hkeys : subscription.owner = .history h → ∀ entry ∈ history.listeners.entries, entry.1 ≠ subscription.key) :
    (s.cancel subscription).histories[h]? = some history := by
  obtain ⟨owner, key⟩ := subscription
  cases owner with
  | router r => exact hhistory
  | bare b => exact hhistory
  | history k =>
    change (s.histories.modify k _)[h]? = some history
    rw [List.getElem?_modify, hhistory]
    refine congrArg some ?_
    split
    · rename_i hk
      have hkept : history.listeners.entries.filter (fun entry => entry.1 != key) = history.listeners.entries :=
        List.filter_eq_self.2 (fun entry he => bne_iff_ne.2 (hkeys (hk ▸ rfl) entry he))
      simp only [Registry.remove, hkept]
    · rfl

/-- The history is alive and announces no entries, and a router is its only listener. -/
structure IsSole (s : Session) (r h key : Nat) (history : History) : Prop where
  found : s.histories[h]? = some history
  announces : history.announces = false
  alive : history.alive = true
  entries : history.listeners.entries = [(key, .follow r)]

variable {key : Nat} {history : History}

/-- Whether a router is the only listener rests on the record of the history alone. -/
theorem IsSole.congr (hsole : IsSole s r h key history) (hhistory : t.histories[h]? = s.histories[h]?) :
    IsSole t r h key history := ⟨hhistory.trans hsole.found, hsole.announces, hsole.alive, hsole.entries⟩

/-- Of the history, only the only listener's registration is no subscription. -/
theorem IsSole.ne_key (hsole : IsSole s r h key history) (hregistered : Registered s) {entry : Text × Subscription}
    (he : entry ∈ s.names.subscriptions) (howner : entry.2.owner = .history h) :
    ∀ listener ∈ history.listeners.entries, listener.1 ≠ entry.2.key := by
  obtain ⟨history', hhistory, _, hlisteners⟩ := hregistered.subscriptions entry he h howner
  obtain rfl := Option.some.inj (hhistory.symm.trans hsole.found)
  intro listener hl hkey
  have hhandler := hlisteners listener hl hkey
  rw [hsole.entries] at hl
  rw [List.mem_singleton.1 hl] at hhandler
  exact hhandler

/-- Cancelling another subscription leaves the router the only listener. -/
theorem IsSole.cancel (hsole : IsSole s r h key history) (hregistered : Registered s) {entry : Text × Subscription}
    (he : entry ∈ s.names.subscriptions) (htail : t.histories[h]? = s.histories[h]?) :
    IsSole (t.cancel entry.2) r h key history :=
  ⟨getElem?_histories_cancel (htail.trans hsole.found) entry.2 (hsole.ne_key hregistered he), hsole.announces,
    hsole.alive, hsole.entries⟩

/-- Dropping an outlet makes no difference to histories. -/
theorem histories_dropOutlet (s : Session) (name : Text) : (s.dropOutlet name).histories = s.histories := by
  unfold dropOutlet
  split
  · rfl
  · simp only
    split <;> rfl

/-- A subscription elsewhere leaves the router the only listener. -/
theorem IsSole.subscribe (hsole : IsSole s r h key history) (hregistered : Registered s) (name : Text) {owner : Owner}
    (howner : owner ≠ .history h) (handler : Handler) : IsSole (s.subscribe name owner handler) r h key history := by
  unfold Session.subscribe
  split
  · exact hsole
  · have hadded : ((s.addHandler handler).withRegistry owner (fun g => g.add (.handler s.handlers.length))).histories[h]? =
        s.histories[h]? := by
      cases owner with
      | router r => rfl
      | bare b => rfl
      | history k =>
        have hne : k ≠ h := fun e => howner (e ▸ rfl)
        change (s.histories.modify k _)[h]? = s.histories[h]?
        rw [List.getElem?_modify_ne _ _ hne]
    simp only
    split
    · exact hsole.congr hadded
    · rename_i previous hprevious
      obtain ⟨before, after, happend, _⟩ := List.lookup_eq_some_iff.1 hprevious
      have he : (name, previous) ∈ s.names.subscriptions := by
        rw [happend]
        exact List.mem_append_right before (List.mem_cons_self ..)
      exact hsole.cancel hregistered he hadded

/-- Dropping a name leaves the router the only listener. -/
theorem IsSole.drop (hsole : IsSole s r h key history) (hregistered : Registered s) (kind : Kind) (name : Text) :
    IsSole (s.drop kind name) r h key history := by
  cases kind with
  | outlet => exact hsole.congr (by rw [Session.drop, histories_dropOutlet])
  | subscription =>
    change IsSole (s.dropSubscription name) r h key history
    unfold dropSubscription
    split
    · exact hsole
    · rename_i subscription hname
      obtain ⟨before, after, happend, _⟩ := List.lookup_eq_some_iff.1 hname
      have he : (name, subscription) ∈ s.names.subscriptions := by
        rw [happend]
        exact List.mem_append_right before (List.mem_cons_self ..)
      exact hsole.cancel (t := s.forgetSubscription name) hregistered he rfl
  | _ => exact hsole.congr rfl

/-- A navigation makes no difference to histories before its tasks are done. -/
theorem histories_navigate (s : Session) (r : Nat) (path : Text) : (s.navigate r path).histories = s.histories := by
  obtain ⟨_, _, _, heq⟩ := navigate_eq s r path
  rw [heq]
  rfl

/-- Draining a queue makes no difference to histories. -/
theorem histories_drain (s : Session) (r : Nat) : (s.drain r).histories = s.histories := by
  obtain ⟨_, _, heq⟩ := drain_eq s r
  rw [heq]

/-- What leaves the two alone and does not move the history leaves the history as it is. -/
theorem IsSole.perform {task : Task} (hsole : IsSole s r h key history) (hregistered : Registered s)
    (hspares : task.Spares r h moves) (hmove : ∀ onward, task ≠ .move h onward) :
    IsSole (s.perform task) r h key history := by
  cases houtward : task.isOutward with
  | false => exact hsole.congr (by rw [(staysHome_perform s houtward).histories])
  | true =>
    cases task with
    | openHistory name announces path =>
      have hlt := (List.getElem?_eq_some_iff.1 hsole.found).1
      exact hsole.congr (List.getElem?_append_left hlt)
    | openOutlet name r' handler =>
      have hhistories : (s.openOutlet name r' handler).histories = s.histories := by
        unfold openOutlet
        split
        · rfl
        · exact histories_dropOutlet _ name
      exact hsole.congr (by rw [Session.perform, hhistories])
    | subscribe name owner handler => exact hsole.subscribe hregistered name hspares handler
    | drop kind name => exact hsole.drop hregistered kind name
    | move h' onward => exact absurd (hspares.1 ▸ rfl) (hmove onward)
    | navigate r' path => exact hsole.congr (by rw [Session.perform, histories_navigate])
    | openRouter => exact hspares.elim
    | push => exact hspares.elim
    | resolve => exact hspares.elim
    | drain => exact hspares.elim
    | _ => cases houtward

/-- As long as its router lives, the history lives, and the router listens. -/
theorem IsSole.sweep (hsole : IsSole s r h key history) (halive : s.sweep.isAlive r = true) {router : Router}
    (hrouter : s.routers[r]? = some router) (hhistory : router.history = h) : IsSole s.sweep r h key history := by
  refine hsole.congr ?_
  have hget : s.sweep.histories[h]? = some { history with
      listeners := history.listeners.prune s.endRouters.isAlive, alive := history.alive && s.endRouters.holdsHistory h } := by
    change (s.endRouters.histories.mapIdx _)[h]? = _
    have hsame : s.endRouters.histories[h]? = some history := hsole.found
    rw [List.getElem?_mapIdx, hsame]
    rfl
  have hlives : s.endRouters.isAlive r = true := halive
  have hpruned : history.listeners.prune s.endRouters.isAlive = history.listeners := by
    have hkept : history.listeners.entries.filter (fun entry => entry.2.follows s.endRouters.isAlive) =
        history.listeners.entries := by
      rw [hsole.entries]
      simp [Callback.follows, hlives]
    simp only [Registry.prune, hkept]
  have hholds : s.endRouters.holdsHistory h = true := by
    have hget' : s.endRouters.routers[r]? = some { router with alive := router.alive && s.holdsRouter r } := by
      rw [endRouters, List.getElem?_mapIdx, hrouter]
      rfl
    have hany : s.endRouters.routers.any (fun router => router.alive && router.history == h) = true := by
      rw [List.any_eq_true]
      refine ⟨_, List.mem_of_getElem? hget', ?_⟩
      rw [isAlive, hget'] at hlives
      simp only [hhistory, beq_self_eq_true, Bool.and_true]
      exact hlives
    rw [holdsHistory, hany]
    simp
  rw [hget, hpruned, hholds, hsole.found, Bool.and_true]

end Session

end PathRouting
