import PathRouting.Proofs.Clashes
import PathRouting.Proofs.WeakNames

/-!
# The end of a router

A router ends with the last thing that holds it, and leaves nothing behind. Statements: along every prompt run, whatever
callbacks own, a name that does not hold a router leads to it exactly as long as something holds it, and what nothing holds any
more tells nobody and hears of nothing; and histories have no listeners but their living routers and the registrations that
were not cancelled, after just those turns that take no listener from a history whose listeners are being changed.
-/

namespace PathRouting

namespace Session

variable {s t : Session} {us : List Session}

/-- Every history has as many listeners as there are living routers on it, and registrations with it that were not
cancelled. -/
def CountsListeners (s : Session) (us : List Session) : Prop :=
  ∀ (k : Nat) (history : History), s.histories[k]? = some history → history.listeners.size =
    s.routers.countP (fun router => router.post = (k, true)) +
      (us.filterMap registered?).countP (fun subscription =>
        subscription.owner = .history k ∧ subscription ∉ us.filterMap cancelled?)

/-- In a session whose closures capture nothing the listeners are always counted right. -/
theorem OpenRun.countsListeners (h : OpenRun Session.empty us t) : t.CountsListeners us :=
  fun _ _ hhistory => h.size_listeners hhistory

/-- The listeners are counted right if the registry of each history has as many entries as the history has living routers and
registrations that were not cancelled. -/
theorem countsListeners_iff : s.CountsListeners us ↔ ∀ k g, s.registryOf? (.history k) = some g →
    g.size = s.posts.countP (fun post => post = (k, true)) + (us.filterMap registered?).countP (fun subscription =>
      subscription.owner = .history k ∧ subscription ∉ us.filterMap cancelled?) := by
  have hposts : ∀ k, s.posts.countP (fun post => post = (k, true)) =
      s.routers.countP (fun router => router.post = (k, true)) := fun k => List.countP_map
  simp only [CountsListeners, hposts, registryOf?, List.getElem?_map, Option.map_eq_some_iff]
  constructor
  · rintro h k _ ⟨history, hhistory, rfl⟩
    exact h k history hhistory
  · exact fun h k history hhistory => h k _ ⟨history, hhistory, rfl⟩

end Session

namespace OwningSession

variable {e : OwningSession} {us : List Session} {t : Session} {turn : Turn} {inMemory : Nat → Prop}

/-- A panic leaves the posts of the routers as they are. -/
theorem posts_abandon (e : OwningSession) (t : Session) : (e.abandon t).posts = t.posts := by
  refine List.ext_getElem? (fun r => ?_)
  simp only [Session.posts, abandon, List.getElem?_map, List.getElem?_mapIdx, Option.map_map]
  rfl

/-- A drop that panics leaves histories with the listeners that they should have exactly if it takes none from a history whose
listeners are being changed. -/
theorem countsListeners_abandon_iff (h : Session.OpenRun .empty us e.session) (hstep : e.session.step? = some t)
    (hclash : e.clashes = true) : (e.abandon t).CountsListeners (e.session :: us) ↔
      ∀ k, .history k ∈ e.session.stripped → e.isChanging (.history k) = false := by
  obtain ⟨kind, name, rest, hfirst⟩ := exists_drop_of_clashes hclash
  have hcount : t.CountsListeners (e.session :: us) := (h.step (.own hstep)).countsListeners
  rw [Session.countsListeners_iff] at hcount
  rw [Session.countsListeners_iff, posts_abandon]
  constructor
  · intro hleft k hk
    rw [← Bool.not_eq_true]
    intro hchanging
    obtain ⟨g, g', hg, hg', hlt⟩ := h.size_lt_of_mem_stripped hfirst hstep hk
    have hsize := hleft k g (registryOf?_abandon_of_isChanging h hstep hg hchanging)
    rw [← hcount k g' hg'] at hsize
    exact Nat.ne_of_gt hlt hsize
  · intro hfree k g hg
    rw [registryOf?_abandon] at hg
    obtain ⟨g', hg', rfl⟩ := Option.map_eq_some_iff.1 hg
    rw [left]
    split
    · rename_i hchanging
      have hother : Owner.history k ∉ e.session.stripped := fun hk => by
        rw [hfree k hk] at hchanging
        cases hchanging
      cases hbefore : e.session.registryOf? (.history k) with
      | none => exact hcount k g' hg'
      | some old => exact hcount k old (h.registryOf?_of_notMem_stripped hfirst hstep hbefore hother)
    · exact hcount k g' hg'

/-- Whatever was made, named, provided, owned and dropped, in any order and inside callbacks: a router is found by a name
that does not hold it exactly as long as something holds it, and what a callback owned is let go as soon as nothing has the
callback. A history has as many listeners as there are living routers on it and registrations that were not cancelled, which
a turn keeps exactly if it takes no listener from a history whose listeners are being changed. A router that nothing holds
any more is gone for good: its subscriptions are inactive, none of its observers is called, and the call of its listener that
a round of its history still makes does nothing. -/
theorem Run.teardown (h : Run (Session.PromptBetween inMemory) .empty us e) :
    (∀ weak r, Session.lookUp e.session.names.weak weak "weak" = .ok r →
      (e.session.IsHeld r →
        e.session.plan (.upgrade weak) = .reply (.handle (e.session.routerName? r) (e.session.active? r))) ∧
      (¬e.session.IsHeld r → e.session.plan (.upgrade weak) = .reply .nothing)) ∧
    (e.session.isCalling = false → e.loose = []) ∧
    e.session.CountsListeners us ∧
    (∀ turn, e.turn? = some turn → (turn.session.CountsListeners (e.session :: us) ↔
      ∀ k, .history k ∈ e.session.stripped → e.isChanging (.history k) = false)) ∧
    ∀ r, r < e.session.routers.length → ¬e.session.IsHeld r → ∀ vs e', Run (Session.PromptBetween inMemory) e vs e' →
      ¬e'.session.IsHeld r ∧ e'.session.isAlive r = false ∧ (∀ key, e'.session.isSubscribed ⟨.router r, key⟩ = false) ∧
      (∀ path rest, e'.session.agenda = .call (.follow r) path :: rest →
        e'.session.step? = some { e'.session with agenda := rest }) ∧
      ∀ u ∈ us, ∀ entry ∈ u.callbacks (.router r), Session.callsOf entry.2 vs = [] := by
  have hprompt := h.promptRun
  have hregular := hprompt.regularRun
  have hopen := hregular.openRun
  refine ⟨fun weak r hweak => hregular.plan_upgrade hweak, h.loose_eq_nil, hopen.countsListeners, fun turn hturn => ?_, ?_⟩
  · obtain ⟨t, hstep, ⟨hclash, rfl⟩ | ⟨hclash, rfl⟩⟩ := turn?_eq_some_iff.1 hturn
    · exact countsListeners_abandon_iff hopen hstep hclash
    · have hlater : Session.OpenRun .empty (e.session :: us) (e.settle t).session :=
        (h.step (.own hturn)).promptRun.regularRun.openRun
      rw [clashes, List.any_eq_false] at hclash
      exact iff_of_true hlater.countsListeners (fun k hk => Bool.eq_false_iff.2 (hclash _ hk))
  · intro r hr hfree vs e' hrun
    have hgone : e.session.isAlive r = false := by
      rw [← Bool.not_eq_true, hregular.isAlive_iff_isHeld hr]
      exact hfree
    have hlater := (hrun.promptRun_of hprompt).regularRun
    have hwhole := hregular.trans hlater
    have hgone' := hlater.openRun.isAlive_eq_false hr hgone
    have hr' : r < e'.session.routers.length := hlater.openRun.renews.known (.follow r) hr
    exact ⟨hwhole.not_isHeld hr' hgone', hgone', Session.isSubscribed_of_gone hgone',
      fun path rest hfirst => Session.step?_of_gone hwhole.openRun.isTidy hgone' hfirst,
      fun u hu entry hentry => hprompt.callsOf_of_gone hr hgone hu hentry hlater⟩

/-! ## A listener that owns a router -/

/-- Histories `g` and `h`, a router `r` on `h` with a name `w` that does not hold it, and a listener `s` of one of the
histories that owns the router. -/
def routerOwned (history : String) : OwningSession :=
  let memory (id : String) : Command := .mk none (.newMemory (Session.given id) .absent .absent)
  let histories := (empty.tell 9 (memory "g")).tell 9 (memory "h")
  let routed := histories.tell 9 (.mk none (.newRouter (Session.given "r") (Session.given "h") (.given [])))
  let named := routed.tell 9 (.mk none (.downgrade (Session.given "w") (Session.given "r")))
  let listening := named.tell 9
    (.mk none (.listen (Session.given "s") (Session.given history) (.mk .absent .absent .absent)))
  listening.capture 0 ⟨.router, Text.ofString "r"⟩

/-- The subscription `s` is dropped, and some turns are taken. -/
def routerReleased (history : String) (limit : Nat) : OwningSession :=
  (routerOwned history).tell limit (.mk none (.drop (.given .subscription) (Session.given "s")))

/-- The subscription of the example is dropped in a run, whichever history its router follows. -/
theorem exists_run_routerReleased {history : String} (hhistory : history = "g" ∨ history = "h") (limit : Nat) :
    ∃ us, Run (Session.PromptBetween fun _ => True) .empty us (routerReleased history limit) := by
  rcases hhistory with rfl | rfl <;>
  · refine exists_run_tell ?_ limit _ ⟨.told _ rfl, rfl⟩ rfl
    refine exists_run_capture ?_ _ rfl rfl
    refine exists_run_tell ?_ 9 _ ⟨.told _ rfl, rfl⟩ rfl
    refine exists_run_tell ?_ 9 _ ⟨.told _ rfl, rfl⟩ rfl
    refine exists_run_tell ?_ 9 _ ⟨.told _ rfl, rfl⟩ rfl
    refine exists_run_tell ?_ 9 _ ⟨.told _ rfl, rfl⟩ rfl
    exact exists_run_tell ⟨[], .start⟩ 9 _ ⟨.told _ rfl, rfl⟩ rfl

/-- A history may keep the listener of a router that has ended. -/
theorem not_countsListeners_of_clash : ¬∀ us e left, Run (Session.PromptBetween fun _ => True) .empty us e →
    e.turn? = some (.panics left) → left.CountsListeners (e.session :: us) := by
  intro hall
  obtain ⟨us, hus⟩ := exists_run_routerReleased (Or.inr rfl) 2
  obtain ⟨t, hstep⟩ : ∃ t, (routerReleased "h" 2).session.step? = some t := ⟨_, rfl⟩
  have hclash : (routerReleased "h" 2).clashes = true := rfl
  have hcount := hall us _ _ hus (turn?_eq_some_iff.2 ⟨t, hstep, Or.inl ⟨hclash, rfl⟩⟩)
  have hfree := (countsListeners_abandon_iff hus.promptRun.regularRun.openRun hstep hclash).1 hcount 1
    (List.mem_singleton_self _)
  exact Bool.noConfusion (hfree.symm.trans (rfl : (routerReleased "h" 2).isChanging (.history 1) = true))

/-- A router that a listener of another history owned ends with the listener: it is not found any more, and its history has no
listener. -/
theorem teardown_routerReleased : ∃ us, Run (Session.PromptBetween fun _ => True) .empty us (routerReleased "g" 9) ∧
    (routerReleased "g" 9).session.plan (.upgrade (Session.given "w")) = .reply .nothing ∧
    (us.filterMap Session.registered?).countP (fun subscription =>
      subscription.owner = .history 1 ∧ subscription ∉ us.filterMap Session.cancelled?) = 0 := by
  obtain ⟨us, hus⟩ := exists_run_routerReleased (Or.inl rfl) 9
  obtain ⟨hweak, -, hlisteners, -⟩ := hus.teardown
  have hfree : ¬(routerReleased "g" 9).session.IsHeld 0 := by
    rw [← Session.holdsRouter_iff]
    decide +kernel
  obtain ⟨history, hhistory, hsize⟩ :
      ∃ history, (routerReleased "g" 9).session.histories[1]? = some history ∧ history.listeners.size = 0 := ⟨_, rfl, rfl⟩
  have hcount := hlisteners 1 history hhistory
  rw [hsize] at hcount
  exact ⟨us, hus, (hweak (Session.given "w") 0 rfl).2 hfree, (Nat.add_eq_zero_iff.1 hcount.symm).2⟩

end OwningSession

end PathRouting
