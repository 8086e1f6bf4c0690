import PathRouting.Proofs.LoadCalls
import PathRouting.Proofs.Dues
import PathRouting.Proofs.Tidiness

/-!
# Loads that end

A load that was spawned can proceed once, in some place of the pool, or it waits for a delivery; when it proceeds with its
value it ends, and is in no such place any more. Statements: so each load ends once at most, and when it does, its value goes
to its outlet and this is told, if the resolution that the load was started for is still the active one; or nothing happens
but that it is reported.
-/

namespace PathRouting

/-- The loads that wait for deliveries. -/
def waiters (deliveries : List Delivery) : List Nat := deliveries.flatMap (fun d => d.waiter.toList)

/-- The loads that wait for two lists of deliveries wait for one of them. -/
theorem waiters_append (deliveries deliveries' : List Delivery) :
    waiters (deliveries ++ deliveries') = waiters deliveries ++ waiters deliveries' := List.flatMap_append

/-- The loads that wait are that of the first delivery and those of the rest. -/
theorem waiters_cons (d : Delivery) (deliveries : List Delivery) :
    waiters (d :: deliveries) = d.waiter.toList ++ waiters deliveries := List.flatMap_cons

/-- A change of one delivery takes its waiter away and brings the new one. -/
theorem count_waiters_modify (l : Nat) {f : Delivery → Delivery} {deliveries : List Delivery} {n : Nat} {d : Delivery}
    (hn : deliveries[n]? = some d) : (waiters (deliveries.modify n f)).count l + d.waiter.toList.count l =
      (waiters deliveries).count l + (f d).waiter.toList.count l := by
  induction deliveries generalizing n with
  | nil => cases hn
  | cons first rest ih =>
    cases n with
    | zero =>
      obtain rfl := Option.some.inj hn
      rw [List.modify_zero_cons, waiters_cons, waiters_cons, List.count_append, List.count_append]
      omega
    | succ n =>
      have hrest := ih (n := n) hn
      rw [List.modify_succ_cons, waiters_cons, waiters_cons, List.count_append, List.count_append]
      omega

namespace Session

variable {s t : Session} {us : List Session} {l : Nat} {value : Props}

/-- The load that the first task lets run to completion. -/
def endedLoad? (s : Session) : Option Nat :=
  match s.agenda with
  | .poll :: _ => (s.pool.ready ++ s.pool.spawned).head?.filter (fun l =>
      (s.loads[l]?.bind (fun load => s.valueFrom? load.source)).isSome)
  | _ => none

/-- A load ends in a poll that comes upon its value. -/
theorem endedLoad?_eq_some_iff : s.endedLoad? = some l ↔ ∃ value, s.Ends l value := by
  constructor
  · intro h
    unfold endedLoad? at h
    split at h
    · rename_i rest hfirst
      obtain ⟨hhead, hvalue⟩ := Option.filter_eq_some_iff.1 h
      obtain ⟨later, hlist⟩ := List.head?_eq_some_iff.1 hhead
      obtain ⟨value, hvalue⟩ := Option.isSome_iff_exists.1 hvalue
      obtain ⟨load, hload, hvalue⟩ := Option.bind_eq_some_iff.1 hvalue
      exact ⟨value, rest, later, load, hfirst, hlist, hload, hvalue⟩
    · cases h
  · rintro ⟨value, rest, later, load, hfirst, hlist, hload, hvalue⟩
    simp [endedLoad?, hfirst, hlist, hload, hvalue]

/-! ## Where loads are -/

/-- The loads that can proceed or wait, in all their places. -/
def queued (s : Session) : List Nat := s.pool.ready ++ s.pool.spawned ++ waiters s.deliveries

/-- The load is made by what leads from the first session to the second one. -/
def IsSpawned (s t : Session) (l : Nat) : Prop := s.loads.length ≤ l ∧ l < t.loads.length

instance (s t : Session) (l : Nat) : Decidable (IsSpawned s t l) := instDecidableAnd

/-- A load is queued once when it is spawned. -/
theorem queued_spawn (s : Session) (load : Load) (l : Nat) : s.loads.length ≤ (s.spawn load).loads.length ∧
    (s.spawn load).queued.count l ≤ s.queued.count l + if s.IsSpawned (s.spawn load) l then 1 else 0 := by
  unfold spawn
  split
  · exact ⟨Nat.le_refl _, Nat.le_add_right _ _⟩
  · refine ⟨by simp, ?_⟩
    simp only [queued, IsSpawned, List.count_append, List.count_singleton, List.length_append, List.length_singleton,
      beq_iff_eq]
    by_cases hl : s.loads.length = l
    · rw [if_pos hl, if_pos ⟨Nat.le_of_eq hl, by omega⟩]
      omega
    · rw [if_neg hl]
      omega

/-- A load that begins is queued once when it is spawned. -/
theorem queued_beginLoad (s : Session) (o id : Nat) (found : Match) (loader : Loader) (l : Nat) :
    s.loads.length ≤ (s.beginLoad o id found loader).loads.length ∧ (s.beginLoad o id found loader).queued.count l ≤
      s.queued.count l + if s.IsSpawned (s.beginLoad o id found loader) l then 1 else 0 := by
  let emptied := s.withOutlet o (fun g => { g with slot := none })
  unfold beginLoad
  simp only
  split
  · rename_i value _
    exact queued_spawn (emptied.record (.loading found.route found.params none)) ⟨o, id, .ready value⟩ l
  · let asked : Session := { emptied.record (.loading found.route found.params (some s.deliveries.length)) with
      deliveries := s.deliveries ++ [⟨none, none⟩] }
    have hspawned := queued_spawn asked ⟨o, id, .pending s.deliveries.length⟩ l
    have hasked : asked.queued = s.queued := by
      change _ ++ waiters (s.deliveries ++ [⟨none, none⟩]) = _
      rw [waiters_append]
      exact congrArg (_ ++ ·) (List.append_nil _)
    rw [hasked] at hspawned
    exact hspawned

/-- A delivery queues no load more often. -/
theorem queued_deliver (s : Session) (n : Nat) (value : Props) (l : Nat) :
    (s.deliver n value).queued.count l ≤ s.queued.count l := by
  unfold deliver
  cases hn : s.deliveries[n]? with
  | none =>
    change (_ ++ waiters (s.deliveries.modify n _)).count l ≤ _
    rw [List.modify_eq_self (List.getElem?_eq_none_iff.1 hn)]
    exact Nat.le_refl _
  | some d =>
    have hcount := count_waiters_modify l (f := fun _ => ⟨some value, none⟩) hn
    rw [Option.toList_none, List.count_nil] at hcount
    simp only [Option.bind_some]
    cases hwaiter : d.waiter with
    | none =>
      simp only [queued, List.count_append]
      omega
    | some id =>
      rw [hwaiter, Option.toList_some] at hcount
      simp only
      split
      · simp only [queued, List.count_append]
        omega
      · simp only [queued, List.count_append]
        omega

/-- Dropping the pool queues no load. -/
theorem queued_dropPool (s : Session) (l : Nat) : s.dropPool.queued.count l ≤ s.queued.count l := by
  unfold dropPool
  split
  · exact Nat.le_refl _
  · simp only [queued, List.count_append, List.count_nil]
    omega

/-- A load that has its value is finished. -/
theorem proceed_of_value {load : Load} (hload : s.loads[l]? = some load) (hvalue : s.valueFrom? load.source = some value) :
    s.proceed l = s.finish load value := by
  simp only [proceed, hload]
  cases hsource : load.source with
  | ready value' =>
    rw [hsource] at hvalue
    rw [Option.some.inj hvalue]
  | pending n =>
    rw [hsource, valueFrom?] at hvalue
    simp only [hvalue]

/-- A load that has no value yet waits for a delivery. -/
theorem proceed_of_no_value {load : Load} (hload : s.loads[l]? = some load) (hvalue : s.valueFrom? load.source = none) :
    ∃ n, s.proceed l = s.wait n l := by
  simp only [proceed, hload]
  cases hsource : load.source with
  | ready value' =>
    rw [hsource] at hvalue
    cases hvalue
  | pending n =>
    rw [hsource, valueFrom?] at hvalue
    simp only [hvalue]
    exact ⟨n, rfl⟩

/-- Finishing a load queues none. -/
theorem queued_finish (s : Session) (load : Load) (value : Props) : (s.finish load value).queued = s.queued := by
  unfold finish
  split
  · rfl
  · split <;> rfl

/-- A load that waits for a delivery takes the place of the one that did before. -/
theorem queued_wait (s : Session) (n id l : Nat) :
    (s.wait n id).queued.count l ≤ s.queued.count l + if id = l then 1 else 0 := by
  change (s.pool.ready ++ s.pool.spawned ++ waiters (s.deliveries.modify n _)).count l ≤ _
  cases hn : s.deliveries[n]? with
  | none =>
    rw [List.modify_eq_self (List.getElem?_eq_none_iff.1 hn)]
    exact Nat.le_add_right _ _
  | some d =>
    have hcount := count_waiters_modify l (f := fun d => { d with waiter := some id }) hn
    rw [Option.toList_some, List.count_singleton] at hcount
    simp only [beq_iff_eq] at hcount
    simp only [queued, List.count_append]
    omega

/-- The load at the head of the pool is taken: it ends, or waits, or there is none. -/
theorem queued_poll {rest : List Task} (hfirst : s.agenda = .poll :: rest) (l : Nat) :
    (({ s with agenda := rest } : Session).poll).queued.count l + (if s.endedLoad? = some l then 1 else 0) ≤
      s.queued.count l := by
  cases hlist : s.pool.ready ++ s.pool.spawned with
  | nil =>
    have hnone : s.endedLoad? = none := by simp [endedLoad?, hfirst, hlist]
    have hpolled : ({ s with agenda := rest } : Session).poll = { s with agenda := rest, pool := ⟨.idle, [], []⟩ } := by
      simp only [poll, hlist]
    rw [hnone, hpolled, queued, queued, hlist]
    exact Nat.le_refl _
  | cons first later =>
    let polled : Session := ({ s with agenda := rest, pool := ⟨.running, later, []⟩ } : Session).first [.poll]
    have hpolled : ({ s with agenda := rest } : Session).poll = polled.proceed first := by simp only [poll, hlist, polled]
    have hqueued : s.queued.count l = polled.queued.count l + if first = l then 1 else 0 := by
      change (s.pool.ready ++ s.pool.spawned ++ waiters s.deliveries).count l = (later ++ [] ++ waiters s.deliveries).count l + _
      rw [hlist, List.append_nil, List.cons_append, List.count_cons]
      simp only [beq_iff_eq]
    rw [hpolled, hqueued]
    cases hload : s.loads[first]? with
    | none =>
      have hnone : s.endedLoad? = none := by simp [endedLoad?, hfirst, hlist, hload]
      have hload' : polled.loads[first]? = none := hload
      simp only [hnone, proceed, hload', reduceCtorEq, if_false]
      omega
    | some load =>
      have hload' : polled.loads[first]? = some load := hload
      cases hvalue : s.valueFrom? load.source with
      | some value =>
        have hended : s.endedLoad? = some first := by simp [endedLoad?, hfirst, hlist, hload, hvalue]
        simp only [proceed_of_value hload' hvalue, queued_finish, hended, Option.some.injEq]
        exact Nat.le_refl _
      | none =>
        have hnone : s.endedLoad? = none := by simp [endedLoad?, hfirst, hlist, hload, hvalue]
        obtain ⟨n, hwait⟩ := proceed_of_no_value hload' hvalue
        rw [hwait, hnone]
        exact queued_wait polled n first l

/-- A render queues a load only if it spawns it. -/
theorem queued_render (s : Session) (o l : Nat) : s.loads.length ≤ (s.render o).loads.length ∧
    (s.render o).queued.count l ≤ s.queued.count l + if s.IsSpawned (s.render o) l then 1 else 0 := by
  rcases render_cases s o with hsame | ⟨outlet, id, resolution, _, _, _, _, ⟨_, heq⟩ | ⟨loader, _, heq⟩⟩
  · rw [hsame]
    exact ⟨Nat.le_refl _, Nat.le_add_right _ _⟩
  · rw [heq]
    exact ⟨Nat.le_refl _, Nat.le_add_right _ _⟩
  · rw [heq]
    exact queued_beginLoad (s.withOutlet o (fun g => { g with shown := some id })) o id resolution.found loader l

/-- A step moves loads from place to place, brings those that are new, and takes the one that ends. -/
theorem queued_step (hstep : s.step? = some t) (l : Nat) : s.loads.length ≤ t.loads.length ∧
    t.queued.count l + (if s.endedLoad? = some l then 1 else 0) ≤
      s.queued.count l + if s.IsSpawned t l then 1 else 0 := by
  obtain ⟨task, rest, hfirst, rfl⟩ := (step?_eq_some_iff s t).1 hstep
  let popped : Session := { s with agenda := rest }
  change _ ≤ (popped.perform task).loads.length ∧ (popped.perform task).queued.count l + _ ≤
    _ + if s.loads.length ≤ l ∧ l < (popped.perform task).loads.length then 1 else 0
  have hquiet : task ≠ .poll → s.endedLoad? = none := by
    intro hpoll
    rw [endedLoad?, hfirst]
    cases task <;> first | exact absurd rfl hpoll | rfl
  have hkept : task ≠ .poll → (popped.perform task).loads = s.loads →
      (popped.perform task).queued.count l ≤ s.queued.count l → s.loads.length ≤ (popped.perform task).loads.length ∧
        (popped.perform task).queued.count l + (if s.endedLoad? = some l then 1 else 0) ≤ s.queued.count l +
          if s.loads.length ≤ l ∧ l < (popped.perform task).loads.length then 1 else 0 := by
    intro hpoll hloads hcount
    rw [hquiet hpoll, hloads]
    exact ⟨Nat.le_refl _, Nat.le_trans hcount (Nat.le_add_right _ _)⟩
  cases hloading : task.isLoading with
  | false =>
    have hkeeps := keepsLoads_perform popped hloading
    refine hkept ?_ hkeeps.loads (Nat.le_of_eq ?_)
    · rintro rfl
      cases hloading
    · rw [queued, queued, hkeeps.pool, hkeeps.deliveries]
  | true =>
    cases task with
    | render o =>
      rw [hquiet (by simp)]
      exact queued_render popped o l
    | deliver n value =>
      obtain ⟨_, _, heq⟩ := deliver_eq popped n value
      exact hkept (by simp) (by rw [perform, heq]) (queued_deliver popped n value l)
    | dropPool =>
      refine hkept (by simp) ?_ (queued_dropPool popped l)
      rw [perform, dropPool]
      split <;> rfl
    | poll =>
      obtain ⟨_, _, _, _, _, heq⟩ := poll_eq popped
      have hloads : (popped.perform .poll).loads = s.loads := by rw [perform, heq]
      rw [hloads]
      exact ⟨Nat.le_refl _, Nat.le_trans (queued_poll hfirst l) (Nat.le_add_right _ _)⟩
    | _ => cases hloading

/-- A load that is there after a step was there before or is spawned in it. -/
theorem ite_isSpawned (hlength : s.loads.length ≤ t.loads.length) : (if l < s.loads.length then 1 else 0) +
    (if s.IsSpawned t l then 1 else 0) = if l < t.loads.length then 1 else 0 := by
  by_cases hs : l < s.loads.length
  · have hold : ¬s.IsSpawned t l := fun h => absurd h.1 (Nat.not_le.2 hs)
    rw [if_pos hs, if_neg hold, if_pos (Nat.lt_of_lt_of_le hs hlength)]
  · have hnew : s.IsSpawned t l ↔ l < t.loads.length := and_iff_right (Nat.not_lt.1 hs)
    rw [if_neg hs, Nat.zero_add]
    simp only [hnew]

/-- Along every run a load ended once at most, and one that ended is nowhere any more. -/
theorem OpenRun.count_queued (h : OpenRun Session.empty us t) (l : Nat) :
    us.countP (fun u => u.endedLoad? = some l) + t.queued.count l ≤ if l < t.loads.length then 1 else 0 := by
  induction h with
  | start => exact Nat.le_refl 0
  | @step us l' t t' _ hstep ih =>
    cases hstep with
    | own hown =>
      obtain ⟨hlength, hcount⟩ := queued_step hown l
      rw [List.singleton_append, List.countP_cons]
      simp only [decide_eq_true_eq]
      have hmade := ite_isSpawned (l := l) hlength
      omega
    | told c hidle => exact ih
    | outside histories hvaries pool hpool tasks htasks =>
      have hsame : (t.interrupt histories pool tasks).queued.count l = t.queued.count l := by
        change (pool.ready ++ pool.spawned ++ waiters t.deliveries).count l = _
        rw [queued, List.count_append, hpool.2.count_eq, ← List.count_append]
      rw [List.nil_append, hsame]
      exact ih

/-- No load ends twice in a run. -/
theorem OpenRun.countP_endedLoad (h : OpenRun Session.empty us t) (l : Nat) :
    us.countP (fun u => u.endedLoad? = some l) ≤ 1 := by
  have hcount := h.count_queued l
  split at hcount <;> omega

/-! ## What becomes of a load -/

/-- A load ends in a poll. -/
theorem Ends.exists_rest (h : s.Ends l value) : ∃ rest, s.agenda = .poll :: rest := by
  obtain ⟨rest, _, _, hfirst, _⟩ := h
  exact ⟨rest, hfirst⟩

/-- A load that ends goes on with its outlet, and the pool with the next load. -/
theorem poll_of_ends {rest : List Task} (hfirst : s.agenda = .poll :: rest) (h : s.Ends l value) : ∃ load later,
    s.loads[l]? = some load ∧ ({ s with agenda := rest } : Session).poll =
      ({ s with pool := ⟨.running, later, []⟩ } : Session).finish load value := by
  obtain ⟨rest', later, load, hfirst', hlist, hload, hvalue⟩ := h
  obtain ⟨-, rfl⟩ := List.cons.inj (hfirst.symm.trans hfirst')
  refine ⟨load, later, hload, ?_⟩
  have hpolled : ({ s with agenda := rest } : Session).poll =
      ({ s with pool := ⟨.running, later, []⟩ } : Session).proceed l := by
    simp only [poll, hlist, first]
    rw [hfirst]
    rfl
  rw [hpolled]
  exact proceed_of_value hload hvalue

/-- A load that ends applies to its outlet, if the resolution that it was started for is the active one there: the outlet has
its value, and is told at once. -/
theorem step?_of_ends_of_applies (hends : s.Ends l value) {load : Load} (hload : s.loads[l]? = some load) {outlet : Outlet}
    (ho : s.outlets[load.outlet]? = some outlet) (happlies : s.Applies load outlet) : s.appliedOutlet? = some load.outlet ∧
      ∃ t, s.step? = some t ∧ t.outlets = s.outlets.modify load.outlet (fun g => { g with slot := some value }) ∧
        t.agenda = .call (.handler outlet.handler) [] :: s.agenda := by
  refine ⟨appliedOutlet?_eq_some_iff.2 ⟨l, value, load, outlet, hends, hload, rfl, ho, happlies⟩, ?_⟩
  obtain ⟨rest, hfirst⟩ := hends.exists_rest
  obtain ⟨load', later, hload', hpolled⟩ := poll_of_ends hfirst hends
  obtain rfl := Option.some.inj (hload.symm.trans hload')
  have hfinished : ({ s with pool := ⟨.running, later, []⟩ } : Session).finish load value =
      (({ s with pool := ⟨.running, later, []⟩ } : Session).withOutlet load.outlet
        (fun g => { g with slot := some value })).first [.call (.handler outlet.handler) []] := by
    simp only [finish, ho]
    exact if_pos happlies
  refine ⟨_, (step?_eq_some_iff s _).2 ⟨.poll, rest, hfirst, rfl⟩, ?_⟩
  rw [perform, hpolled, hfinished]
  exact ⟨rfl, rfl⟩

/-- A load that ends when another resolution is active, or the router is gone, is reported as discarded, and nothing else
happens. -/
theorem step?_of_ends_of_not_applies (htidy : s.IsTidy) (hends : s.Ends l value) {load : Load}
    (hload : s.loads[l]? = some load) {outlet : Outlet} (ho : s.outlets[load.outlet]? = some outlet)
    (happlies : ¬s.Applies load outlet) : s.appliedOutlet? = none ∧
      ∃ pool, s.step? = some { s with pool := pool, journal := .log .loadDiscarded :: s.journal } := by
  refine ⟨?_, ?_⟩
  · rw [appliedOutlet?_of_ends hends, hload, Option.bind_some, outletFor?, ho, Option.bind_some]
    exact if_neg happlies
  · obtain ⟨rest, hfirst⟩ := hends.exists_rest
    obtain ⟨load', later, hload', hpolled⟩ := poll_of_ends hfirst hends
    obtain rfl := Option.some.inj (hload.symm.trans hload')
    let discarded : Session := { s with pool := ⟨.running, later, []⟩, journal := .log .loadDiscarded :: s.journal }
    have hfinished : ({ s with pool := ⟨.running, later, []⟩ } : Session).finish load value = discarded := by
      simp only [finish, ho]
      exact if_neg happlies
    have hkept : discarded.IsTidy :=
      htidy.mono rfl rfl (fun i g hg => ⟨g, hg, rfl, rfl⟩) rfl rfl (fun _ ht => Or.inr ht)
    refine ⟨⟨.running, later, []⟩, (step?_eq_some_iff s _).2 ⟨.poll, rest, hfirst, ?_⟩⟩
    rw [perform, hpolled, hfinished]
    exact hkept.sweep_eq.symm

end Session

end PathRouting
