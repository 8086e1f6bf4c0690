import PathRouting.Proofs.Leads
import PathRouting.Proofs.RegularRuns
import PathRouting.Proofs.Renewals
import PathRouting.Proofs.Slots

/-!
# Calls that are due

A callback is called in the rounds of the owner that it is registered with, and for what it belongs to besides: the loads
of its outlet, or the writes of its cell. The tasks that are left owe it calls. Statements: each call is one that was owed,
a call that is owed is made unless the session stops before, and only new rounds of the owner, loads that apply and writes
add calls to those that are owed.
-/

namespace PathRouting

/-- The paths with which a task leads to calls of a callback that is registered with one owner at most. -/
def Task.owes (home : Option Owner) (callback : Callback) : Task → List Text
  | .call callback' path => if callback' = callback then [path] else []
  | .round _ rest path => List.replicate (rest.countP (fun entry => entry.2 = callback)) path
  | .notify owner path => if home = some owner then [path] else []
  | _ => []

/-- The task is a call, or as good as the calls that it leads to. -/
def Task.passesOn : Task → Bool
  | .call _ _ => true
  | .round _ _ _ => true
  | .notify _ _ => true
  | _ => false

/-- The paths with which tasks lead to calls of a callback, in the order of the calls. -/
def owed (home : Option Owner) (callback : Callback) (tasks : List Task) : List Text :=
  tasks.flatMap (Task.owes home callback)

theorem owed_append (home : Option Owner) (callback : Callback) (tasks tasks' : List Task) :
    owed home callback (tasks ++ tasks') = owed home callback tasks ++ owed home callback tasks' :=
  List.flatMap_append

theorem owed_cons (home : Option Owner) (callback : Callback) (task : Task) (rest : List Task) :
    owed home callback (task :: rest) = task.owes home callback ++ owed home callback rest :=
  List.flatMap_cons

/-- Tasks none of which owes a call owe none together. -/
theorem owed_eq_nil {home : Option Owner} {callback : Callback} {tasks : List Task}
    (h : ∀ task ∈ tasks, task.owes home callback = []) : owed home callback tasks = [] :=
  List.flatMap_eq_nil_iff.2 h

namespace Session

variable {s t : Session} {home : Option Owner} {callback : Callback} {us : List Session} {inMemory : Nat → Prop}

/-- The path with which the first task calls the callback, if it does. -/
def calledWith? (callback : Callback) (s : Session) : Option Text :=
  match s.agenda with
  | .call callback' path :: _ => if callback' = callback then some path else none
  | _ => none

/-- The paths with which a callback was called, in the order of the calls. -/
def callsOf (callback : Callback) (us : List Session) : List Text := us.reverse.filterMap (calledWith? callback)

/-- The calls of a longer run are those of its first part and then those of its second part. -/
theorem callsOf_append (callback : Callback) (us vs : List Session) :
    callsOf callback (us ++ vs) = callsOf callback vs ++ callsOf callback us := by
  rw [callsOf, List.reverse_append, List.filterMap_append]
  rfl

theorem callsOf_singleton (callback : Callback) (s : Session) : callsOf callback [s] = (s.calledWith? callback).toList := by
  cases hcalled : s.calledWith? callback <;> simp [callsOf, hcalled]

/-- The callback is registered once with its owner, and with no other. -/
def IsAt (s : Session) (callback : Callback) (home : Option Owner) : Prop :=
  ∀ owner, (s.callbacks owner).countP (fun entry => entry.2 = callback) = if home = some owner then 1 else 0

/-- The outlet of a load, if the resolution that it was started for is still active there. -/
def outletFor? (s : Session) (load : Load) : Option Nat :=
  s.outlets[load.outlet]?.bind (fun outlet =>
    if s.isAlive outlet.router ∧ s.activeResolution? outlet.router = some load.initiator then some load.outlet else none)

/-- The outlet that a load applies to when it proceeds, if its value is there. -/
def appliesTo? (s : Session) (l : Nat) : Option Nat :=
  s.loads[l]?.bind (fun load => (s.valueFrom? load.source).bind (fun _ => s.outletFor? load))

/-- The outlet that the first task applies the value of a load to, if it does. -/
def appliedOutlet? (s : Session) : Option Nat :=
  match s.agenda with
  | .poll :: _ => (s.pool.ready ++ s.pool.spawned).head?.bind s.appliesTo?
  | _ => none

/-- What the first task adds to the calls of a callback that are owed. -/
inductive Raises (s : Session) (home : Option Owner) (callback : Callback) : List Text → Prop
  | nothing (hno : ∀ o outlet, s.appliedOutlet? = some o → s.outlets[o]? = some outlet →
      callback ≠ .handler outlet.handler) : Raises s home callback []
  | asked {nested : Bool} {c : Command} {rest : List Task} (hfirst : s.agenda = .command nested c :: rest) (b : Nat)
      (hhome : home = some (.bare b)) (added : List Text) : Raises s home callback added
  | announced {h : Nat} {path : Text} {rest : List Task} (hfirst : s.agenda = .push h path :: rest)
      (hhome : home = some (.history h)) : Raises s home callback [path]
  | moved {h : Nat} {onward : Bool} {trail : Trail} {rest : List Task} (hfirst : s.agenda = .move h onward :: rest)
      (hmoved : s.moved? h onward = some trail) (hhome : home = some (.history h)) : Raises s home callback [trail.current]
  | resolved {r : Nat} {path : Text} {rest : List Task} (hfirst : s.agenda = .resolve r path :: rest)
      (hhome : home = some (.router r)) : Raises s home callback [path]
  | applied {o : Nat} {outlet : Outlet} (happlied : s.appliedOutlet? = some o) (ho : s.outlets[o]? = some outlet)
      (hcallback : callback = .handler outlet.handler) : Raises s home callback [[]]
  | written {c : Nat} {cell : Cell} (hc : s.cells[c]? = some cell) (hcallback : callback = .handler cell.handler) :
      Raises s home callback [[]]

/-! ## Loads that apply -/

/-- The resolution that a load was started for is still the active one of its outlet. -/
def Applies (s : Session) (load : Load) (outlet : Outlet) : Prop :=
  s.isAlive outlet.router = true ∧ s.activeResolution? outlet.router = some load.initiator

/-- A load that ends is applied to its outlet, if that still shows the resolution of the load. -/
theorem appliedOutlet?_of_ends {l : Nat} {value : Props} (h : s.Ends l value) : s.appliedOutlet? = s.loads[l]?.bind s.outletFor? := by
  obtain ⟨rest, later, load, hfirst, hlist, hload, hvalue⟩ := h
  simp only [appliedOutlet?, hfirst, hlist, List.head?_cons, Option.bind_some, appliesTo?, hload, hvalue]

/-- The first task applies a load to an outlet if the load ends and the resolution that it was started for is still the
active one there. -/
theorem appliedOutlet?_eq_some_iff {o : Nat} : s.appliedOutlet? = some o ↔ ∃ l value load outlet, s.Ends l value ∧
    s.loads[l]? = some load ∧ load.outlet = o ∧ s.outlets[o]? = some outlet ∧ s.Applies load outlet := by
  constructor
  · intro h
    unfold appliedOutlet? at h
    split at h
    · rename_i rest hfirst
      obtain ⟨l, hhead, hfound⟩ := Option.bind_eq_some_iff.1 h
      obtain ⟨later, hlist⟩ := List.head?_eq_some_iff.1 hhead
      obtain ⟨load, hload, hready⟩ := Option.bind_eq_some_iff.1 hfound
      obtain ⟨value, hvalue, houtlet⟩ := Option.bind_eq_some_iff.1 hready
      obtain ⟨outlet, ho, hif⟩ := Option.bind_eq_some_iff.1 houtlet
      split at hif
      · rename_i happlies
        obtain rfl := Option.some.inj hif
        exact ⟨l, value, load, outlet, ⟨rest, later, load, hfirst, hlist, hload, hvalue⟩, hload, rfl, ho, happlies⟩
      · cases hif
    · cases h
  · rintro ⟨l, value, load, outlet, hends, hload, rfl, ho, happlies⟩
    rw [appliedOutlet?_of_ends hends, hload, Option.bind_some, outletFor?, ho, Option.bind_some]
    exact if_pos happlies

/-- What a load is applied to is an outlet that is there. -/
theorem exists_outlet_of_applied {o : Nat} (h : s.appliedOutlet? = some o) : ∃ outlet, s.outlets[o]? = some outlet := by
  obtain ⟨_, _, _, outlet, _, _, _, ho, _⟩ := appliedOutlet?_eq_some_iff.1 h
  exact ⟨outlet, ho⟩

/-! ## Tasks -/

/-- A call of a callback pays what it owes. -/
theorem calledWith?_of_call {callback' : Callback} {path : Text} {rest : List Task}
    (hfirst : s.agenda = .call callback' path :: rest) :
    (s.calledWith? callback).toList = (Task.call callback' path).owes home callback := by
  simp only [calledWith?, hfirst, Task.owes]
  split <;> rfl

/-- A task that is no poll applies no load. -/
theorem raises_nothing {task : Task} {rest : List Task} (hfirst : s.agenda = task :: rest) (hpoll : task ≠ .poll) :
    s.Raises home callback [] := by
  refine Raises.nothing (fun o outlet happlied => ?_)
  rw [appliedOutlet?, hfirst] at happlied
  cases task <;> first | exact absurd rfl hpoll | cases happlied

/-- What a step can stand for owes nothing, unless it starts a round of the owner. -/
theorem owes_of_isAsked {task : Task} (h : task.IsAsked) (hhome : ∀ b, home ≠ some (.bare b)) :
    task.owes home callback = [] := by
  cases task with
  | notify owner path =>
    cases owner with
    | bare b => exact if_neg (hhome b)
    | history h' => cases h
    | router r => cases h
  | call | round => cases h
  | _ => rfl

/-- What the tasks of a round and the steps of scripts lead to. -/
theorem owed_plan (callback : Callback) (s : Session) (nested : Bool) (c : Command) (hhome : ∀ b, home ≠ some (.bare b)) :
    owed home callback ((s.plan c.step).tasks ++ [.answer nested c.word (s.plan c.step).query]) = [] := by
  refine owed_eq_nil (fun task ht => ?_)
  rcases List.mem_append.1 ht with ht | ht
  · exact owes_of_isAsked (isAsking_plan s c.step task ht) hhome
  · rw [List.mem_singleton.1 ht]
    rfl

/-- A round owes the call of its next entry, and those of the rest of it. -/
theorem owes_round_cons (owner : Owner) (entry : Nat × Callback) (later : List (Nat × Callback)) (path : Text) :
    (Task.round owner (entry :: later) path).owes home callback =
      (Task.call entry.2 path).owes home callback ++ (Task.round owner later path).owes home callback := by
  by_cases hentry : entry.2 = callback
  · simp [Task.owes, hentry, List.replicate_succ]
  · simp [Task.owes, hentry]

/-- What is called is what was owed, and rounds that go on owe the rest. -/
theorem owed_perform_of_passesOn (home : Option Owner) {task : Task} {rest : List Task}
    (hfirst : s.agenda = task :: rest) (hpasses : task.passesOn) (hnotify : ∀ owner path, task = .notify owner path →
      (s.callbacks owner).countP (fun entry => entry.2 = callback) = if home = some owner then 1 else 0) :
    (s.calledWith? callback).toList ++ owed home callback (({ s with agenda := rest } : Session).perform task).agenda =
      owed home callback s.agenda := by
  rw [hfirst, owed_cons]
  cases task with
  | call callback' path =>
    obtain ⟨new, hnew, hleads⟩ := leads_perform { s with agenda := rest } (.call callback' path)
    have hnone : owed home callback new = [] := by cases hleads <;> rfl
    rw [hnew, owed_append, hnone, calledWith?_of_call hfirst]
    rfl
  | round owner rest' path =>
    have hcalled : s.calledWith? callback = none := by simp only [calledWith?, hfirst]
    rw [hcalled]
    cases rest' with
    | nil => rfl
    | cons entry later =>
      rw [owes_round_cons, List.append_assoc]
      rfl
  | notify owner path =>
    have hcalled : s.calledWith? callback = none := by simp only [calledWith?, hfirst]
    have hstarted : (Task.round owner (s.callbacks owner) path).owes home callback =
        (Task.notify owner path).owes home callback := by
      simp only [Task.owes, hnotify owner path rfl]
      split <;> rfl
    rw [hcalled, ← hstarted]
    rfl
  | _ => cases hpasses

/-- A notification owes one call to each callback that is registered once with its owner. -/
theorem owed_notify (owner : Owner) (path : Text) :
    owed home callback [.notify owner path] = if home = some owner then [path] else [] := List.append_nil _

/-- Other tasks call no callback and owe nothing; what they lead to may owe. -/
theorem exists_raises_of_leads {task : Task} {rest new : List Task} (hfirst : s.agenda = task :: rest)
    (hpasses : task.passesOn = false) (hpoll : task ≠ .poll) (hmove : ∀ h onward, task ≠ .move h onward)
    (hwrite : ∀ c value, task ≠ .write c value) (hupdate : ∀ c added, task ≠ .update c added)
    (hleads : Leads { s with agenda := rest } task new) :
    s.Raises home callback (owed home callback new) := by
  cases hleads with
  | nothing => exact raises_nothing hfirst hpoll
  | command nested c =>
    by_cases hhome : ∃ b, home = some (.bare b)
    · obtain ⟨b, hb⟩ := hhome
      exact Raises.asked hfirst b hb _
    · have hnone := owed_plan callback { s with agenda := rest } nested c (fun b hb => hhome ⟨b, hb⟩)
      rw [hnone]
      exact raises_nothing hfirst hpoll
  | script c rest' => exact raises_nothing hfirst hpoll
  | announced h path =>
    rw [owed_notify]
    split
    · exact Raises.announced hfirst ‹_›
    · exact raises_nothing hfirst hpoll
  | moved h onward path => exact absurd rfl (hmove h onward)
  | resolved r path =>
    rw [owed_notify]
    split
    · exact Raises.resolved hfirst ‹_›
    · exact raises_nothing hfirst hpoll
  | navigated path hrouter hidle => exact raises_nothing hfirst hpoll
  | drained hrouter hqueue => exact raises_nothing hfirst hpoll
  | notified | called | followed | reacted => cases hpasses
  | polled | loaded => exact absurd rfl hpoll
  | written c index value => exact absurd rfl (hwrite c value)
  | updated c index added => exact absurd rfl (hupdate c added)

/-- A move leads to a notification of the entry that the history comes to. -/
theorem agenda_move {h : Nat} {onward : Bool} {trail : Trail} (hmoved : s.moved? h onward = some trail) :
    (s.move h onward).agenda = .notify (.history h) trail.current :: s.agenda := by
  simp only [move, hmoved]
  rfl

/-- A move raises the call of a listener of its history. -/
theorem exists_raises_move {h : Nat} {onward : Bool} {rest : List Task} (hfirst : s.agenda = .move h onward :: rest) :
    ∃ added, s.Raises home callback added ∧
      owed home callback (({ s with agenda := rest } : Session).move h onward).agenda =
        added ++ owed home callback rest := by
  cases hmoved : s.moved? h onward with
  | none =>
    refine ⟨[], raises_nothing hfirst (fun h => nomatch h), ?_⟩
    have hmoved' : ({ s with agenda := rest } : Session).moved? h onward = none := hmoved
    simp only [move, hmoved']
    rfl
  | some trail =>
    rw [agenda_move (s := { s with agenda := rest }) hmoved, owed_cons]
    by_cases hhome : home = some (.history h)
    · exact ⟨[trail.current], Raises.moved hfirst hmoved hhome, by rw [Task.owes, if_pos hhome]⟩
    · exact ⟨[], raises_nothing hfirst (fun h => nomatch h), by rw [Task.owes, if_neg hhome]⟩

/-- A write raises the call of the handler of its cell. -/
theorem exists_raises_write {task : Task} {rest : List Task} (hfirst : s.agenda = task :: rest) (hpoll : task ≠ .poll)
    (c : Nat) (value : Props) : ∃ added, s.Raises home callback added ∧
      owed home callback (({ s with agenda := rest } : Session).write c value).agenda =
        added ++ owed home callback rest := by
  cases hc : s.cells[c]? with
  | none =>
    refine ⟨[], raises_nothing hfirst hpoll, ?_⟩
    have hc' : ({ s with agenda := rest } : Session).cells[c]? = none := hc
    simp only [write, hc']
    rfl
  | some cell =>
    have hwritten : (({ s with agenda := rest } : Session).write c value).agenda =
        .call (.handler cell.handler) [] :: rest := by
      have hc' : ({ s with agenda := rest } : Session).cells[c]? = some cell := hc
      simp only [write, hc']
      rfl
    rw [hwritten, owed_cons]
    by_cases hcallback : .handler cell.handler = callback
    · exact ⟨[[]], Raises.written hc hcallback.symm, by rw [Task.owes, if_pos hcallback]⟩
    · exact ⟨[], raises_nothing hfirst hpoll, by rw [Task.owes, if_neg hcallback]⟩

/-- The value of a load leads to a call of the handler of its outlet, if it is applied. -/
theorem agenda_finish (s : Session) (load : Load) (value : Props) :
    (∃ outlet, s.outletFor? load = some load.outlet ∧ s.outlets[load.outlet]? = some outlet ∧
      (s.finish load value).agenda = .call (.handler outlet.handler) [] :: s.agenda) ∨
    (s.outletFor? load = none ∧ (s.finish load value).agenda = s.agenda) := by
  unfold finish outletFor?
  cases ho : s.outlets[load.outlet]? with
  | none => exact Or.inr ⟨rfl, rfl⟩
  | some outlet =>
    simp only [Option.bind_some]
    split
    · exact Or.inl ⟨outlet, rfl, rfl, rfl⟩
    · exact Or.inr ⟨rfl, rfl⟩

/-- A load that proceeds leads to a call of the handler of its outlet, if its value is there and is applied. -/
theorem agenda_proceed (s : Session) (l : Nat) :
    (∃ o outlet, s.appliesTo? l = some o ∧ s.outlets[o]? = some outlet ∧
      (s.proceed l).agenda = .call (.handler outlet.handler) [] :: s.agenda) ∨
    (s.appliesTo? l = none ∧ (s.proceed l).agenda = s.agenda) := by
  unfold proceed appliesTo?
  cases s.loads[l]? with
  | none => exact Or.inr ⟨rfl, rfl⟩
  | some load =>
    have hfinish : ∀ value, (∃ o outlet, s.outletFor? load = some o ∧ s.outlets[o]? = some outlet ∧
        (s.finish load value).agenda = .call (.handler outlet.handler) [] :: s.agenda) ∨
        (s.outletFor? load = none ∧ (s.finish load value).agenda = s.agenda) := fun value =>
      (agenda_finish s load value).imp_left (fun ⟨outlet, h⟩ => ⟨load.outlet, outlet, h⟩)
    simp only [Option.bind_some]
    cases load.source with
    | ready value => exact hfinish value
    | pending n =>
      simp only [valueFrom?]
      cases s.deliveries[n]?.bind (·.value) with
      | some value => exact hfinish value
      | none => exact Or.inr ⟨rfl, rfl⟩

/-- A poll applies the value of a load and calls for its outlet, or it calls nothing. -/
theorem agenda_poll {rest : List Task} (hfirst : s.agenda = .poll :: rest) :
    (∃ o outlet, s.appliedOutlet? = some o ∧ s.outlets[o]? = some outlet ∧
      (({ s with agenda := rest } : Session).poll).agenda = .call (.handler outlet.handler) [] :: .poll :: rest) ∨
    (s.appliedOutlet? = none ∧ ∃ left, (∀ task ∈ left, task = .poll) ∧
      (({ s with agenda := rest } : Session).poll).agenda = left ++ rest) := by
  unfold appliedOutlet? poll
  simp only [hfirst]
  cases s.pool.ready ++ s.pool.spawned with
  | nil => exact Or.inr ⟨rfl, [], fun _ ht => absurd ht List.not_mem_nil, rfl⟩
  | cons l later =>
    let polled : Session := ({ s with agenda := rest, pool := ⟨.running, later, []⟩ } : Session).first [.poll]
    rcases agenda_proceed polled l with ⟨o, outlet, happlies, ho, hagenda⟩ | ⟨happlies, hagenda⟩
    · exact Or.inl ⟨o, outlet, happlies, ho, hagenda⟩
    · exact Or.inr ⟨happlies, [.poll], fun _ ht => List.mem_singleton.1 ht, hagenda⟩

/-- A poll raises the call of the handler of the outlet that it applies a load to. -/
theorem exists_raises_poll {rest : List Task} (hfirst : s.agenda = .poll :: rest) :
    ∃ added, s.Raises home callback added ∧ owed home callback (({ s with agenda := rest } : Session).poll).agenda =
      added ++ owed home callback rest := by
  rcases agenda_poll hfirst with ⟨o, outlet, happlied, ho, hagenda⟩ | ⟨hnone, left, hleft, hagenda⟩
  · rw [hagenda, owed_cons]
    by_cases hcallback : .handler outlet.handler = callback
    · exact ⟨[[]], Raises.applied happlied ho hcallback.symm, by rw [Task.owes, if_pos hcallback]; rfl⟩
    · refine ⟨[], Raises.nothing ?_, by rw [Task.owes, if_neg hcallback]; rfl⟩
      rintro o' outlet' happlied' ho' rfl
      obtain rfl := Option.some.inj (happlied.symm.trans happlied')
      obtain rfl := Option.some.inj (ho.symm.trans ho')
      exact hcallback rfl
  · refine ⟨[], Raises.nothing ?_, ?_⟩
    · intro o outlet happlied
      rw [hnone] at happlied
      cases happlied
    · rw [hagenda, owed_append, owed_eq_nil (fun task ht => hleft task ht ▸ rfl)]

/-- Tasks that pass nothing on call nothing. What they lead to may owe calls, besides those that were owed. -/
theorem exists_raises_perform (home : Option Owner) (callback : Callback) {task : Task} {rest : List Task}
    (hfirst : s.agenda = task :: rest) (hpasses : task.passesOn = false) : ∃ added, s.Raises home callback added ∧ (s.calledWith? callback).toList ++
      owed home callback (({ s with agenda := rest } : Session).perform task).agenda =
        added ++ owed home callback s.agenda := by
  have hsilent : s.calledWith? callback = none := by
    rw [calledWith?, hfirst]
    cases task <;> first | rfl | cases hpasses
  have howed : owed home callback s.agenda = owed home callback rest := by
    rw [hfirst, owed_cons]
    cases task <;> first | rfl | cases hpasses
  rw [hsilent, howed]
  have hother : task ≠ .poll → (∀ h onward, task ≠ .move h onward) → (∀ c value, task ≠ .write c value) →
      (∀ c added, task ≠ .update c added) → ∃ added, s.Raises home callback added ∧
        owed home callback (({ s with agenda := rest } : Session).perform task).agenda =
          added ++ owed home callback rest := by
    intro hpoll hmove hwrite hupdate
    obtain ⟨new, hnew, hleads⟩ := leads_perform { s with agenda := rest } task
    refine ⟨_, exists_raises_of_leads hfirst hpasses hpoll hmove hwrite hupdate hleads, ?_⟩
    rw [hnew, owed_append]
  cases task with
  | poll => exact exists_raises_poll hfirst
  | move h onward => exact exists_raises_move hfirst
  | write c value => exact exists_raises_write hfirst (fun h => nomatch h) c value
  | update c added => exact exists_raises_write hfirst (fun h => nomatch h) c _
  | _ => exact hother (by simp) (by simp) (by simp) (by simp)

/-- A call that is owed is made or still owed after a step, and what the step adds is owed before all else. -/
theorem exists_raises_step (hat : s.IsAt callback home) (hstep : s.step? = some t) :
    ∃ added, s.Raises home callback added ∧
      (s.calledWith? callback).toList ++ owed home callback t.agenda = added ++ owed home callback s.agenda := by
  obtain ⟨task, rest, hfirst, rfl⟩ := (step?_eq_some_iff s t).1 hstep
  change ∃ added, _ ∧ _ ++ owed home callback (({ s with agenda := rest } : Session).perform task).agenda = _
  cases hpasses : task.passesOn with
  | true =>
    refine ⟨[], raises_nothing hfirst ?_, owed_perform_of_passesOn home hfirst hpasses (fun owner _ _ => hat owner)⟩
    rintro rfl
    cases hpasses
  | false => exact exists_raises_perform home callback hfirst hpasses

/-! ## Where a callback is along a run -/

/-- A callback that is registered has its seat there. -/
theorem KeepsTo.seat?_eq {place : Option Place} (h : s.KeepsTo callback place) {owner : Owner} {key : Nat}
    (hm : (key, callback) ∈ s.callbacks owner) : place.bind Place.seat? = some (owner, key) := by
  have hmem : (key, callback) ∈ Place.entries place callback owner :=
    (h.callbacks owner).subset (List.mem_filter.2 ⟨hm, decide_eq_true rfl⟩)
  rw [Place.entries] at hmem
  split at hmem
  · rename_i owner' key' hseat
    split at hmem
    · rename_i howner
      rw [hseat, howner, (Prod.mk.inj (List.mem_singleton.1 hmem)).1]
    · cases hmem
  · cases hmem

/-- What is registered is so at its place, and nowhere else. -/
theorem Placed.exists_seat (h : Placed s) {owner : Owner} {key : Nat} (hm : (key, callback) ∈ s.callbacks owner) :
    ∃ place, s.KeepsTo callback (some place) ∧ place.seat? = some (owner, key) := by
  obtain ⟨place, hplace, _⟩ := h callback
  obtain ⟨seat, rfl, hseat⟩ := Option.bind_eq_some_iff.1 (hplace.seat?_eq hm)
  exact ⟨seat, hplace, hseat⟩

/-- A callback that is registered at its place is registered there once. -/
theorem KeepsTo.isAt {place : Place} {owner : Owner} {key : Nat} (h : s.KeepsTo callback (some place))
    (hseat : place.seat? = some (owner, key)) (hm : (key, callback) ∈ s.callbacks owner) :
    s.IsAt callback (some owner) := by
  intro owner'
  have hsub := (h.callbacks owner').length_le
  rw [← List.countP_eq_length_filter] at hsub
  simp only [Place.entries, Option.bind_some, hseat] at hsub
  by_cases howner : owner = owner'
  · subst howner
    have hpos := (List.countP_pos_iff (p := fun entry : Nat × Callback => entry.2 = callback)).2
      ⟨_, hm, decide_eq_true rfl⟩
    rw [if_pos rfl] at hsub
    rw [if_pos rfl]
    exact Nat.le_antisymm hsub hpos
  · rw [if_neg howner] at hsub
    rw [if_neg (fun h => howner (Option.some.inj h))]
    exact Nat.le_zero.1 hsub

/-- A callback that is nowhere is registered with nobody. -/
theorem isAt_none_iff : s.IsAt callback none ↔ ∀ (owner : Owner) (key : Nat), (key, callback) ∉ s.callbacks owner := by
  simp only [IsAt, reduceCtorEq, if_false, List.countP_eq_zero, decide_eq_true_eq, Prod.forall]
  exact ⟨fun h owner key hm => h owner key callback hm rfl, fun h owner key c hm hc => h owner key (hc ▸ hm)⟩

/-- A callback whose registration is cancelled is registered nowhere any more. -/
theorem KeepsTo.isAt_none_cancel {place : Place} {owner : Owner} {key : Nat} (h : s.KeepsTo callback (some place))
    (hseat : place.seat? = some (owner, key)) : (s.cancel ⟨owner, key⟩).IsAt callback none := by
  rw [isAt_none_iff]
  intro owner' key' hm
  rw [callbacks_cancel] at hm
  split at hm
  · obtain ⟨hm, hne⟩ := List.mem_filter.1 hm
    obtain ⟨rfl, rfl⟩ := Prod.mk.inj (Option.some.inj (hseat.symm.trans (h.seat?_eq hm)))
    simp at hne
  · rename_i howner
    obtain ⟨rfl, rfl⟩ := Prod.mk.inj (Option.some.inj (hseat.symm.trans (h.seat?_eq hm)))
    exact howner rfl

/-- A callback that was known and is registered nowhere stays so. -/
theorem IsAt.renews_none (hs : s.IsAt callback none) (h : Renews s t) (hknown : callback.IsKnown s) :
    t.IsAt callback none := by
  rw [isAt_none_iff] at hs ⊢
  exact fun owner key hm => hs owner key (h.mem_callbacks hknown hm)

/-- A step that cancels a registration, whatever else it does, leaves the callback registered nowhere. -/
theorem KeepsTo.isAt_none_of_step {place : Place} {task : Task} {rest : List Task} {middle : Session}
    (subscription : Subscription) (h : s.KeepsTo callback (some place)) (hknown : callback.IsKnown s)
    (hseat : place.seat? = some (subscription.owner, subscription.key)) (hfirst : s.agenda = task :: rest)
    (hmiddle : Renews s middle)
    (hperformed : Renews (middle.cancel subscription) (({ s with agenda := rest } : Session).perform task)) :
    ∃ t, s.step? = some t ∧ Renews s t ∧ t.IsAt callback none := by
  have hstep : s.step? = some (({ s with agenda := rest } : Session).perform task).sweep :=
    (step?_eq_some_iff s _).2 ⟨task, rest, hfirst, rfl⟩
  have hmiddle' := h.of_known hmiddle hknown
  have hcancelled := (renews_cancel middle subscription).known _ (hmiddle.known _ hknown)
  exact ⟨_, hstep, renews_step hstep,
    (hmiddle'.isAt_none_cancel hseat).renews_none (hperformed.trans (renews_sweep _)) hcancelled⟩

/-- The session stood between the two ends of a run. -/
theorem RegularRun.between (h : RegularRun inMemory s us t) {v : Session} (hv : v ∈ us) : Renews s v ∧ Renews v t := by
  obtain ⟨later, older, hus⟩ := List.append_of_mem hv
  obtain ⟨v', holder, hstep, hlater⟩ := h.cut hus
  exact ⟨holder.openRun.renews, (renews_step hstep).trans hlater.openRun.renews⟩

/-- A callback that is registered at both ends of a run is so all along. -/
theorem RegularRun.mem_callbacks (h : RegularRun inMemory s us t) (hs : Placed s) {owner : Owner}
    {entry : Nat × Callback} (hms : entry ∈ s.callbacks owner) (hmt : entry ∈ t.callbacks owner) {v : Session}
    (hv : v ∈ us) : entry ∈ v.callbacks owner := by
  obtain ⟨hbefore, hafter⟩ := h.between hv
  exact hafter.mem_callbacks (hbefore.known _ (hs.isKnown hms)) hmt

/-- A callback that is registered at the beginning of a run and at its end was so all along. -/
theorem RegularRun.isAt (h : RegularRun inMemory s us t) (hs : Placed s) {owner : Owner} {entry : Nat × Callback}
    (hms : entry ∈ s.callbacks owner) (hmt : entry ∈ t.callbacks owner) {v : Session} (hv : v ∈ us) :
    v.IsAt entry.2 (some owner) := by
  have hmv := h.mem_callbacks hs hms hmt hv
  obtain ⟨place, hplace, hseat⟩ := (hs.renews (h.between hv).1).exists_seat hmv
  exact hplace.isAt hseat hmv

/-- A callback that is registered nowhere any more stays so. -/
theorem RegularRun.isAt_none (h : RegularRun inMemory s us t) (hknown : callback.IsKnown s) (hs : s.IsAt callback none)
    {v : Session} (hv : v ∈ us) : v.IsAt callback none := hs.renews_none (h.between hv).1 hknown

/-! ## Runs -/

/-- What comes between tasks owes nothing to callbacks of the histories in memory. -/
theorem owed_interrupt {histories : List History} {pool : Pool} {tasks : List Task}
    (htasks : ∀ task ∈ tasks, task.IsRequest inMemory) (hhome : ∀ h, home = some (.history h) → inMemory h) :
    owed home callback (s.interrupt histories pool tasks).agenda = owed home callback s.agenda := by
  have hnone : owed home callback tasks = [] := by
    refine owed_eq_nil (fun task ht => ?_)
    cases htasks task ht with
    | script | drop => rfl
    | announce hh path => exact if_neg (fun h => hh (hhome _ h))
  change owed home callback (tasks ++ s.agenda) = _
  rw [owed_append, hnone, List.nil_append]

/-- A step from outside owes nothing by itself. -/
theorem owed_begin (c : Command) (hidle : s.agenda = []) :
    owed home callback (s.begin c).agenda = owed home callback s.agenda := by
  rw [hidle]
  rfl

/-- Where nothing is added, the calls that were owed are those that were made and those that are owed still. -/
theorem RegularRun.callsOf_append_owed (h : RegularRun inMemory s us t)
    (hhome : ∀ h, home = some (.history h) → inMemory h) (hat : ∀ v ∈ us, v.IsAt callback home)
    (hquiet : ∀ v ∈ us, ∀ added, v.Raises home callback added → added = []) :
    callsOf callback us ++ owed home callback t.agenda = owed home callback s.agenda := by
  induction h with
  | start => rfl
  | @step us l t t' _ hstep ih =>
    have hbefore := ih (fun v hv => hat v (List.mem_append_right l hv)) (fun v hv => hquiet v (List.mem_append_right l hv))
    cases hstep with
    | own hown =>
      obtain ⟨added, hraises, heq⟩ := exists_raises_step (hat t (List.mem_cons_self ..)) hown
      obtain rfl := hquiet t (List.mem_cons_self ..) added hraises
      rw [callsOf_append, callsOf_singleton, List.append_assoc, heq, List.nil_append, hbefore]
    | told c hidle => rw [List.nil_append, owed_begin c hidle, hbefore]
    | outside histories hvaries hsame pool hpool tasks htasks => rw [List.nil_append, owed_interrupt htasks hhome, hbefore]

/-- A call that is owed is made, or it is owed still. -/
theorem RegularRun.callsOf_or_owed (h : RegularRun inMemory s us t) (hhome : ∀ h, home = some (.history h) → inMemory h)
    (hat : ∀ v ∈ us, v.IsAt callback home) (howed : owed home callback s.agenda ≠ []) :
    callsOf callback us ≠ [] ∨ owed home callback t.agenda ≠ [] := by
  induction h with
  | start => exact Or.inr howed
  | @step us l t t' _ hstep ih =>
    rcases ih (fun v hv => hat v (List.mem_append_right l hv)) with hcalled | howed'
    · refine Or.inl (fun hnone => hcalled ?_)
      rw [callsOf_append] at hnone
      exact (List.append_eq_nil_iff.1 hnone).1
    · cases hstep with
      | own hown =>
        obtain ⟨added, _, heq⟩ := exists_raises_step (hat t (List.mem_cons_self ..)) hown
        by_contra hlost
        obtain ⟨hcalls, hleft⟩ := not_or.1 hlost
        rw [not_not, callsOf_append, callsOf_singleton] at hcalls
        rw [not_not] at hleft
        rw [(List.append_eq_nil_iff.1 hcalls).2, hleft] at heq
        exact howed' (List.append_eq_nil_iff.1 heq.symm).2
      | told c hidle => exact Or.inr (owed_begin c hidle ▸ howed')
      | outside histories hvaries hsame pool hpool tasks htasks =>
        rw [owed_interrupt htasks hhome]
        exact Or.inr howed'

/-- Where two kinds of tasks add one call each, and all others none, there are as many calls as were owed or added. -/
theorem RegularRun.length_callsOf_of_step (h : RegularRun inMemory s us t)
    (hhome : ∀ h, home = some (.history h) → inMemory h) (p q : Session → Bool)
    (hsteps : ∀ v ∈ us, ∀ v', v.step? = some v' →
      (v.calledWith? callback).toList.length + (owed home callback v'.agenda).length =
        (if p v then 1 else 0) + (if q v then 1 else 0) + (owed home callback v.agenda).length) :
    (callsOf callback us).length + (owed home callback t.agenda).length =
      us.countP p + us.countP q + (owed home callback s.agenda).length := by
  induction h with
  | start => exact (Nat.zero_add _).trans (Nat.zero_add _).symm
  | @step us l t t' _ hstep ih =>
    have hbefore := ih (fun v hv => hsteps v (List.mem_append_right l hv))
    cases hstep with
    | own hown =>
      have hlength := hsteps t (List.mem_cons_self ..) t' hown
      rw [callsOf_append, callsOf_singleton, List.length_append, List.singleton_append, List.countP_cons, List.countP_cons]
      omega
    | told c hidle => rw [List.nil_append, owed_begin c hidle, hbefore]
    | outside histories hvaries hsame pool hpool tasks htasks => rw [List.nil_append, owed_interrupt htasks hhome, hbefore]

/-- Where only some of the tasks add calls, and one each, there are as many calls as were owed or added. -/
theorem RegularRun.length_callsOf (h : RegularRun inMemory s us t) (hhome : ∀ h, home = some (.history h) → inMemory h)
    (hat : ∀ v ∈ us, v.IsAt callback home) (p : Session → Bool)
    (hadds : ∀ v ∈ us, ∀ added, v.Raises home callback added → added.length = if p v then 1 else 0) :
    (callsOf callback us).length + (owed home callback t.agenda).length =
      us.countP p + (owed home callback s.agenda).length := by
  have hsteps : ∀ v ∈ us, ∀ v', v.step? = some v' →
      (v.calledWith? callback).toList.length + (owed home callback v'.agenda).length =
        (if p v then 1 else 0) + (if false then 1 else 0) + (owed home callback v.agenda).length := by
    intro v hv v' hstep
    obtain ⟨added, hraises, heq⟩ := exists_raises_step (hat v hv) hstep
    have hlength := congrArg List.length heq
    rw [List.length_append, List.length_append, hadds v hv added hraises] at hlength
    exact hlength
  have hcount := h.length_callsOf_of_step hhome p (fun _ => false) hsteps
  rwa [List.countP_false, Function.const_apply, Nat.add_zero] at hcount

end Session

end PathRouting
