import Mathlib.Data.List.Basic
import PathRouting.Proofs.OpenRuns

/-!
# What a task leaves as it is

Most tasks change neither what routers show and where they stand, nor resolutions, outlets and loads. Statements: each of
these quiet tasks keeps all of that, and whatever a task leads to comes before the tasks that were left.
-/

namespace PathRouting

/-- A change that a view does not see leaves the views of a list as they are. -/
theorem map_modify_of_forall {α β : Type} {f : α → α} {g : α → β} (h : ∀ a, g (f a) = g a) (l : List α) (i : Nat) :
    (l.modify i f).map g = l.map g := by
  apply List.ext_getElem?
  intro j
  rw [List.getElem?_map, List.getElem?_map, List.getElem?_modify]
  cases l[j]? with
  | none => rfl
  | some a =>
    rw [Option.map_eq_map, Option.map_some, Option.map_some]
    split
    · exact congrArg some (h a)
    · rfl

/-- A change that a view sees as another one is that change of the views. -/
theorem map_modify {α β : Type} {f : α → α} {f' : β → β} {g : α → β} (h : ∀ a, g (f a) = f' (g a)) (l : List α) (i : Nat) :
    (l.modify i f).map g = (l.map g).modify i f' := by
  apply List.ext_getElem?
  intro j
  rw [List.getElem?_map, List.getElem?_modify, List.getElem?_modify, List.getElem?_map]
  cases l[j]? with
  | none => rfl
  | some a =>
    rw [Option.map_eq_map, Option.map_some, Option.map_eq_map, Option.map_some, Option.map_some]
    split
    · exact congrArg some (h a)
    · rfl

/-- What is at a place after a change was changed, or was there. -/
theorem getElem?_modify_cases {α : Type} {l : List α} {f : α → α} {i j : Nat} {b : α} (h : (l.modify i f)[j]? = some b) :
    j = i ∧ (∃ a, l[j]? = some a ∧ b = f a) ∨ j ≠ i ∧ l[j]? = some b := by
  rw [List.getElem?_modify] at h
  obtain ⟨a, ha, hb⟩ := Option.map_eq_some_iff.1 h
  by_cases hij : i = j
  · rw [if_pos hij] at hb
    exact Or.inl ⟨hij.symm, a, ha, hb.symm⟩
  · rw [if_neg hij] at hb
    exact Or.inr ⟨fun hji => hij hji.symm, hb ▸ ha⟩

/-- What a router has but its observers. -/
def Router.desk (g : Router) : Router := { g with observers := .empty }

namespace Session

/-- What the routers have but their observers. -/
def desks (s : Session) : List Router := s.routers.map Router.desk

/-- The second session has the routers of the first, but for their observers, and its resolutions, outlets and loads, and
no outlet has got a name. -/
structure Keeps (s t : Session) : Prop where
  desks : t.desks = s.desks
  resolutions : t.resolutions = s.resolutions
  outlets : t.outlets = s.outlets
  loads : t.loads = s.loads
  names : ∀ entry ∈ t.names.outlets, entry ∈ s.names.outlets

theorem Keeps.refl (s : Session) : Keeps s s := ⟨rfl, rfl, rfl, rfl, fun _ h => h⟩

theorem Keeps.trans {s t u : Session} (h : Keeps s t) (h' : Keeps t u) : Keeps s u :=
  ⟨h'.desks.trans h.desks, h'.resolutions.trans h.resolutions, h'.outlets.trans h.outlets, h'.loads.trans h.loads,
    fun entry he => h.names entry (h'.names entry he)⟩

/-! ## Quiet tasks -/

/-- Who is registered is none of what is kept. -/
theorem keeps_withRegistry (s : Session) (owner : Owner) (f : Registry → Registry) : Keeps s (s.withRegistry owner f) := by
  cases owner with
  | history h => exact ⟨rfl, rfl, rfl, rfl, fun _ h => h⟩
  | bare b => exact ⟨rfl, rfl, rfl, rfl, fun _ h => h⟩
  | router r =>
    have hdesks : (s.withRegistry (.router r) f).desks = s.desks := by
      apply map_modify_of_forall
      intro g
      rfl
    exact ⟨hdesks, rfl, rfl, rfl, fun _ h => h⟩

theorem keeps_cancel (s : Session) (subscription : Subscription) : Keeps s (s.cancel subscription) :=
  keeps_withRegistry s _ _

/-- A new history leaves the routers and outlets as they are. -/
theorem keeps_openHistory (s : Session) (name : Text) (announces : Bool) (path : Text) :
    Keeps s (s.openHistory name announces path) := by
  unfold openHistory
  cases announces <;> exact ⟨rfl, rfl, rfl, rfl, fun _ h => h⟩

/-- A subscription changes who is registered, and nothing else that routers or outlets have. -/
theorem keeps_subscribe (s : Session) (name : Text) (owner : Owner) (handler : Handler) :
    Keeps s (s.subscribe name owner handler) := by
  unfold subscribe
  split
  · exact Keeps.refl s
  · have hhandler : Keeps s (s.addHandler handler) := ⟨rfl, rfl, rfl, rfl, fun _ h => h⟩
    have hadd := hhandler.trans (keeps_withRegistry _ owner (fun g => g.add (.handler s.handlers.length)))
    split
    · exact ⟨hadd.desks, hadd.resolutions, hadd.outlets, hadd.loads, hadd.names⟩
    · refine Keeps.trans ?_ (keeps_cancel _ _)
      exact ⟨hadd.desks, hadd.resolutions, hadd.outlets, hadd.loads, hadd.names⟩

theorem keeps_dropSubscription (s : Session) (name : Text) : Keeps s (s.dropSubscription name) := by
  unfold dropSubscription
  split
  · exact Keeps.refl s
  · have hforget : Keeps s (s.forgetSubscription name) := ⟨rfl, rfl, rfl, rfl, fun _ h => h⟩
    exact hforget.trans (keeps_cancel _ _)

/-- Dropping an outlet takes names away only. -/
theorem keeps_dropOutlet (s : Session) (name : Text) : Keeps s (s.dropOutlet name) := by
  have herase : Keeps s { s with names := { s.names with outlets := s.names.outlets.erase name } } :=
    ⟨rfl, rfl, rfl, rfl, fun _ h => (List.mem_filter.1 h).1⟩
  unfold dropOutlet
  split
  · exact Keeps.refl s
  · split
    · exact herase
    · exact herase.trans (keeps_cancel _ _)

/-- Whatever is dropped, routers, resolutions, outlets and loads stay, and outlets get no name. -/
theorem keeps_drop (s : Session) (kind : Kind) (name : Text) : Keeps s (s.drop kind name) := by
  cases kind with
  | outlet => exact keeps_dropOutlet s name
  | subscription => exact keeps_dropSubscription s name
  | _ => exact ⟨rfl, rfl, rfl, rfl, fun _ h => h⟩

/-- An entry is pushed to a history, and to nothing else. -/
theorem keeps_push (s : Session) (h : Nat) (path : Text) : Keeps s (s.push h path) := by
  unfold push
  split
  · exact Keeps.refl s
  · split
    · exact ⟨rfl, rfl, rfl, rfl, fun _ h => h⟩
    · exact ⟨rfl, rfl, rfl, rfl, fun _ h => h⟩

/-- A move changes where its history stands, and nothing else. -/
theorem keeps_move (s : Session) (h : Nat) (onward : Bool) : Keeps s (s.move h onward) := by
  unfold move
  split
  · exact Keeps.refl s
  · exact ⟨rfl, rfl, rfl, rfl, fun _ h => h⟩

/-- A round makes its next call, and does nothing by itself. -/
theorem keeps_round (s : Session) (owner : Owner) (rest : List (Nat × Callback)) (path : Text) :
    Keeps s (s.round owner rest path) := by
  cases rest with
  | nil => exact Keeps.refl s
  | cons entry later => exact ⟨rfl, rfl, rfl, rfl, fun _ h => h⟩

/-- A handler counts its runs, and asks for its script. -/
theorem keeps_react (s : Session) (index : Nat) (handler : Handler) (holds : Bool) :
    Keeps s (s.react index handler holds) := by
  unfold react
  split
  · exact ⟨rfl, rfl, rfl, rfl, fun _ h => h⟩
  · exact Keeps.refl s

theorem keeps_record (s : Session) (e : Event) : Keeps s (s.record e) := ⟨rfl, rfl, rfl, rfl, fun _ h => h⟩

/-- A handler reports that it is called, and asks for its script. -/
theorem keeps_callHandler (s : Session) (index : Nat) (path : Text) : Keeps s (s.callHandler index path) := by
  unfold callHandler
  split
  · exact Keeps.refl s
  · split
    · exact (keeps_record s _).trans (keeps_react _ _ _ _)
    · exact (keeps_record s _).trans (keeps_react _ _ _ _)
    · exact (keeps_record s _).trans (keeps_react _ _ _ _)
    · split
      · exact (keeps_record s _).trans (keeps_react _ _ _ _)
      · exact Keeps.refl s

/-- A callback leads to more tasks, and does nothing else by itself. -/
theorem keeps_call (s : Session) (callback : Callback) (path : Text) : Keeps s (s.call callback path) := by
  cases callback with
  | follow router =>
    unfold call
    simp only
    split
    · exact ⟨rfl, rfl, rfl, rfl, fun _ h => h⟩
    · exact Keeps.refl s
  | handler index => exact keeps_callHandler s index path

theorem keeps_script (s : Session) (commands : List Command) : Keeps s (s.script commands) := by
  cases commands with
  | nil => exact Keeps.refl s
  | cons c rest => exact ⟨rfl, rfl, rfl, rfl, fun _ h => h⟩

theorem keeps_respond (s : Session) (nested : Bool) (word : Option Text) (query : Except StepError Query) :
    Keeps s (s.respond nested word query) := by
  unfold respond
  cases nested <;> exact ⟨rfl, rfl, rfl, rfl, fun _ h => h⟩

/-- A value is delivered to the load that waits for it, and is not applied yet. -/
theorem keeps_deliver (s : Session) (n : Nat) (value : Props) : Keeps s (s.deliver n value) := by
  unfold deliver
  split
  · exact ⟨rfl, rfl, rfl, rfl, fun _ h => h⟩
  · simp only
    split
    · exact ⟨rfl, rfl, rfl, rfl, fun _ h => h⟩
    · exact ⟨rfl, rfl, rfl, rfl, fun _ h => h⟩

/-- The loads that are lost with the pool stay what they were. -/
theorem keeps_dropPool (s : Session) : Keeps s s.dropPool := by
  unfold dropPool
  split
  · exact Keeps.refl s
  · exact ⟨rfl, rfl, rfl, rfl, fun _ h => h⟩

/-- A cell is written, and nothing else. -/
theorem keeps_write (s : Session) (c : Nat) (value : Props) : Keeps s (s.write c value) := by
  unfold write
  split
  · exact Keeps.refl s
  · exact ⟨rfl, rfl, rfl, rfl, fun _ h => h⟩

end Session

/-- The tasks that make routers and outlets, or change what they show or where they stand. -/
def Task.isQuiet : Task → Bool
  | .openRouter _ _ _ => false
  | .openOutlet _ _ _ => false
  | .navigate _ _ => false
  | .resolve _ _ => false
  | .drain _ => false
  | .render _ => false
  | .poll => false
  | _ => true

namespace Session

/-- A quiet task leaves routers, resolutions, outlets and loads as they are. -/
theorem keeps_perform (s : Session) {task : Task} (hquiet : task.isQuiet = true) : Keeps s (s.perform task) := by
  cases task with
  | command nested c => exact ⟨rfl, rfl, rfl, rfl, fun _ h => h⟩
  | script rest => exact keeps_script s rest
  | answer nested word query => exact keeps_respond s nested word query
  | report events => exact ⟨rfl, rfl, rfl, rfl, fun _ h => h⟩
  | openHistory name announces path => exact keeps_openHistory s name announces path
  | openRegistry name => exact ⟨rfl, rfl, rfl, rfl, fun _ h => h⟩
  | openCell name value handler => exact ⟨rfl, rfl, rfl, rfl, fun _ h => h⟩
  | nameRouter name r => exact ⟨rfl, rfl, rfl, rfl, fun _ h => h⟩
  | nameWeak name r => exact ⟨rfl, rfl, rfl, rfl, fun _ h => h⟩
  | nameSnapshot name id => exact ⟨rfl, rfl, rfl, rfl, fun _ h => h⟩
  | nameScope name scope => exact ⟨rfl, rfl, rfl, rfl, fun _ h => h⟩
  | nameLink name link => exact ⟨rfl, rfl, rfl, rfl, fun _ h => h⟩
  | nameCell name c => exact ⟨rfl, rfl, rfl, rfl, fun _ h => h⟩
  | subscribe name owner handler => exact keeps_subscribe s name owner handler
  | detach name => exact ⟨rfl, rfl, rfl, rfl, fun _ h => h⟩
  | drop kind name => exact keeps_drop s kind name
  | push h path => exact keeps_push s h path
  | move h onward => exact keeps_move s h onward
  | notify owner path => exact ⟨rfl, rfl, rfl, rfl, fun _ h => h⟩
  | round owner rest path => exact keeps_round s owner rest path
  | call callback path => exact keeps_call s callback path
  | deliver n value => exact keeps_deliver s n value
  | dropPool => exact keeps_dropPool s
  | write c value => exact keeps_write s c value
  | update c added => exact keeps_write s c _
  | openRouter => simp [Task.isQuiet] at hquiet
  | openOutlet => simp [Task.isQuiet] at hquiet
  | navigate => simp [Task.isQuiet] at hquiet
  | resolve => simp [Task.isQuiet] at hquiet
  | drain => simp [Task.isQuiet] at hquiet
  | render => simp [Task.isQuiet] at hquiet
  | poll => simp [Task.isQuiet] at hquiet

/-! ## Tasks that change neither histories nor routers -/

/-- Rendering changes outlets and loads only. -/
theorem render_eq (s : Session) (o : Nat) : ∃ outlets loads deliveries pool journal, s.render o =
    { s with outlets := outlets, loads := loads, deliveries := deliveries, pool := pool, journal := journal } := by
  have hspawn : ∀ (u : Session) (load : Load), ∃ loads pool journal, u.spawn load =
      { u with loads := loads, pool := pool, journal := journal } := by
    intro u load
    unfold spawn
    split
    · exact ⟨_, _, _, rfl⟩
    · exact ⟨_, _, _, rfl⟩
  unfold render
  split
  · exact ⟨_, _, _, _, _, rfl⟩
  · split
    · exact ⟨_, _, _, _, _, rfl⟩
    · split
      · exact ⟨_, _, _, _, _, rfl⟩
      · split
        · exact ⟨_, _, _, _, _, rfl⟩
        · simp only
          split
          · exact ⟨_, _, _, _, _, rfl⟩
          · unfold beginLoad
            simp only
            split
            · obtain ⟨loads, pool, journal, heq⟩ := hspawn _ _
              exact ⟨_, _, _, _, _, heq⟩
            · obtain ⟨loads, pool, journal, heq⟩ := hspawn _ _
              exact ⟨_, _, _, _, _, heq⟩

/-- Running the pool changes outlets and loads, and what is to be done. -/
theorem poll_eq (s : Session) : ∃ outlets deliveries pool agenda journal, s.poll =
    { s with outlets := outlets, deliveries := deliveries, pool := pool, agenda := agenda, journal := journal } := by
  have hfinish : ∀ (u : Session) (load : Load) (value : Props), ∃ outlets agenda journal, u.finish load value =
      { u with outlets := outlets, agenda := agenda, journal := journal } := by
    intro u load value
    unfold finish
    split
    · exact ⟨_, _, _, rfl⟩
    · split <;> exact ⟨_, _, _, rfl⟩
  unfold poll
  split
  · exact ⟨_, _, _, _, _, rfl⟩
  · unfold proceed
    split
    · exact ⟨_, _, _, _, _, rfl⟩
    · split
      · obtain ⟨outlets, agenda, journal, heq⟩ := hfinish _ _ _
        exact ⟨_, _, _, _, _, heq⟩
      · split
        · obtain ⟨outlets, agenda, journal, heq⟩ := hfinish _ _ _
          exact ⟨_, _, _, _, _, heq⟩
        · exact ⟨_, _, _, _, _, rfl⟩

/-- A delivery changes deliveries and the pool. -/
theorem deliver_eq (s : Session) (n : Nat) (value : Props) : ∃ deliveries pool, s.deliver n value =
    { s with deliveries := deliveries, pool := pool } := by
  unfold deliver
  split
  · exact ⟨_, _, rfl⟩
  · simp only
    split <;> exact ⟨_, _, rfl⟩

/-- A call of a handler changes its count of runs, the tasks that are left, and what was reported. -/
theorem callHandler_eq (s : Session) (index : Nat) (path : Text) : ∃ handlers agenda journal, s.callHandler index path =
    { s with handlers := handlers, agenda := agenda, journal := journal } := by
  have hreact : ∀ (u : Session) (handler : Handler) (holds : Bool), ∃ handlers agenda, u.react index handler holds =
      { u with handlers := handlers, agenda := agenda } := by
    intro u handler holds
    unfold react
    split
    · exact ⟨_, _, rfl⟩
    · exact ⟨_, _, rfl⟩
  unfold callHandler
  split
  · exact ⟨_, _, _, rfl⟩
  · split
    · obtain ⟨_, _, heq⟩ := hreact _ _ _
      exact ⟨_, _, _, heq⟩
    · obtain ⟨_, _, heq⟩ := hreact _ _ _
      exact ⟨_, _, _, heq⟩
    · obtain ⟨_, _, heq⟩ := hreact _ _ _
      exact ⟨_, _, _, heq⟩
    · split
      · obtain ⟨_, _, heq⟩ := hreact _ _ _
        exact ⟨_, _, _, heq⟩
      · exact ⟨_, _, _, rfl⟩

/-- A write changes cells, and the tasks that are left. -/
theorem write_eq (s : Session) (c : Nat) (value : Props) : ∃ cells agenda, s.write c value =
    { s with cells := cells, agenda := agenda } := by
  unfold write
  split
  · exact ⟨_, _, rfl⟩
  · exact ⟨_, _, rfl⟩

/-! ## Tasks that navigate -/

/-- A push changes histories, and the tasks that are left. -/
theorem push_eq (s : Session) (h : Nat) (path : Text) : ∃ histories agenda, s.push h path =
    { s with histories := histories, agenda := agenda } := by
  unfold push
  split
  · exact ⟨_, _, rfl⟩
  · simp only
    split <;> exact ⟨_, _, rfl⟩

/-- A move changes histories, the tasks that are left, and what was reported. -/
theorem move_eq (s : Session) (h : Nat) (onward : Bool) : ∃ histories agenda events, s.move h onward =
    { s.recordLogs events with histories := histories, agenda := agenda } := by
  unfold move
  split
  · exact ⟨_, _, [], rfl⟩
  · exact ⟨_, _, _, rfl⟩

/-- A navigation changes routers, which know that it is in progress, the tasks that are left, and what was reported. -/
theorem navigate_eq (s : Session) (r : Nat) (path : Text) : ∃ routers agenda events, s.navigate r path =
    { s.recordLogs events with routers := routers, agenda := agenda } := by
  unfold navigate
  split
  · exact ⟨_, _, [], rfl⟩
  · split
    · exact ⟨_, _, _, rfl⟩
    · exact ⟨_, _, [], rfl⟩

/-- What becomes active changes routers and resolutions. -/
theorem activate_eq (s : Session) (r : Nat) (found : Option Match) : ∃ routers resolutions, s.activate r found =
    { s with routers := routers, resolutions := resolutions } := by
  cases found <;> exact ⟨_, _, rfl⟩

/-- A path that is resolved changes routers, resolutions, the tasks that are left, and what was reported. -/
theorem resolve_eq (s : Session) (r : Nat) (path : Text) : ∃ routers resolutions agenda events, s.resolve r path =
    { s.recordLogs events with routers := routers, resolutions := resolutions, agenda := agenda } := by
  unfold resolve
  split
  · exact ⟨_, _, _, [], rfl⟩
  · rename_i router _
    obtain ⟨routers, resolutions, heq⟩ := activate_eq
      (s.recordLogs [.routeResolved path (Route.resolve router.routes path).isSome]) r (Route.resolve router.routes path)
    simp only [heq]
    exact ⟨_, _, _, _, rfl⟩

/-- To take a navigation from the queue changes routers, and the tasks that are left. -/
theorem drain_eq (s : Session) (r : Nat) : ∃ routers agenda, s.drain r = { s with routers := routers, agenda := agenda } := by
  unfold drain
  split
  · exact ⟨_, _, rfl⟩
  · split <;> exact ⟨_, _, rfl⟩

end Session

/-- The tasks that change histories or routers, or take callbacks from them. -/
def Task.isOutward : Task → Bool
  | .openHistory _ _ _ => true
  | .openRouter _ _ _ => true
  | .openOutlet _ _ _ => true
  | .subscribe _ _ _ => true
  | .drop _ _ => true
  | .push _ _ => true
  | .move _ _ => true
  | .navigate _ _ => true
  | .resolve _ _ => true
  | .drain _ => true
  | _ => false

namespace Session

/-- The second session has the histories, routers and resolutions of the first, and no subscription has got a name. -/
structure StaysHome (s t : Session) : Prop where
  histories : t.histories = s.histories
  routers : t.routers = s.routers
  resolutions : t.resolutions = s.resolutions
  subscriptions : ∀ entry ∈ t.names.subscriptions, entry ∈ s.names.subscriptions

/-- A task that is not outward leaves histories and routers as they are. -/
theorem staysHome_perform (s : Session) {task : Task} (h : task.isOutward = false) : StaysHome s (s.perform task) := by
  cases task with
  | answer nested word query => cases nested <;> exact ⟨rfl, rfl, rfl, fun _ h => h⟩
  | script commands => cases commands <;> exact ⟨rfl, rfl, rfl, fun _ h => h⟩
  | round owner rest path => cases rest <;> exact ⟨rfl, rfl, rfl, fun _ h => h⟩
  | detach name => exact ⟨rfl, rfl, rfl, fun _ h => (List.mem_filter.1 h).1⟩
  | call callback path =>
    cases callback with
    | handler index =>
      obtain ⟨_, _, _, heq⟩ := callHandler_eq s index path
      rw [perform, call, heq]
      exact ⟨rfl, rfl, rfl, fun _ h => h⟩
    | follow r =>
      rw [perform, call]
      split <;> exact ⟨rfl, rfl, rfl, fun _ h => h⟩
  | render o =>
    obtain ⟨_, _, _, _, _, heq⟩ := render_eq s o
    rw [perform, heq]
    exact ⟨rfl, rfl, rfl, fun _ h => h⟩
  | poll =>
    obtain ⟨_, _, _, _, _, heq⟩ := poll_eq s
    rw [perform, heq]
    exact ⟨rfl, rfl, rfl, fun _ h => h⟩
  | deliver n value =>
    obtain ⟨_, _, heq⟩ := deliver_eq s n value
    rw [perform, heq]
    exact ⟨rfl, rfl, rfl, fun _ h => h⟩
  | dropPool =>
    rw [perform, dropPool]
    split <;> exact ⟨rfl, rfl, rfl, fun _ h => h⟩
  | write c value =>
    obtain ⟨_, _, heq⟩ := write_eq s c value
    rw [perform, heq]
    exact ⟨rfl, rfl, rfl, fun _ h => h⟩
  | update c added =>
    obtain ⟨_, _, heq⟩ := write_eq s c ((s.valueOf c).combine added)
    rw [perform, update, heq]
    exact ⟨rfl, rfl, rfl, fun _ h => h⟩
  | openHistory => cases h
  | openRouter => cases h
  | openOutlet => cases h
  | subscribe => cases h
  | drop => cases h
  | push => cases h
  | move => cases h
  | navigate => cases h
  | resolve => cases h
  | drain => cases h
  | _ => exact ⟨rfl, rfl, rfl, fun _ h => h⟩

/-! ## Steps -/

/-- A step does the first task and ends what nothing holds afterwards. -/
theorem step?_eq_some_iff (s t : Session) : s.step? = some t ↔
    ∃ task rest, s.agenda = task :: rest ∧ t = (({ s with agenda := rest } : Session).perform task).sweep := by
  unfold step?
  cases hs : s.agenda with
  | nil => simp
  | cons task rest =>
    simp only [Option.some.injEq, List.cons.injEq]
    constructor
    · rintro rfl
      exact ⟨task, rest, ⟨rfl, rfl⟩, rfl⟩
    · rintro ⟨_, _, ⟨rfl, rfl⟩, rfl⟩
      rfl

/-- What a step leads to is what its task leads to, without what is held no longer. -/
theorem eq_of_step? {s t : Session} {task : Task} {rest : List Task} (hfirst : s.agenda = task :: rest)
    (hstep : s.step? = some t) : t = (({ s with agenda := rest } : Session).perform task).sweep := by
  obtain ⟨task', rest', hfirst', rfl⟩ := (step?_eq_some_iff s t).1 hstep
  obtain ⟨rfl, rfl⟩ := List.cons.inj (hfirst.symm.trans hfirst')
  rfl

/-- Sweeping ends routers and changes nothing else about them. -/
theorem getElem?_routers_sweep (s : Session) (r : Nat) :
    s.sweep.routers[r]? = s.routers[r]?.map (fun router => { router with alive := router.alive && s.holdsRouter r }) :=
  List.getElem?_mapIdx

theorem keeps_interrupt (s : Session) (histories : List History) (pool : Pool) (tasks : List Task) :
    Keeps s (s.interrupt histories pool tasks) := ⟨rfl, rfl, rfl, rfl, fun _ h => h⟩

theorem keeps_begin (s : Session) (c : Command) : Keeps s (s.begin c) := ⟨rfl, rfl, rfl, rfl, fun _ h => h⟩

end Session

end PathRouting
