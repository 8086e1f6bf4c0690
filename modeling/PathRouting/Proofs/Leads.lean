import PathRouting.Proofs.Effects

/-!
# What tasks lead to

Statements about the stack of tasks: a task puts others before those that were left, and which these can be follows from
the task alone. The second half of a navigation in particular comes from its first half and from nothing else.
-/

namespace PathRouting

/-- The tasks that a step can stand for. The others come about only while these are done. -/
def Task.IsAsked : Task → Prop
  | .command _ _ => False
  | .script _ => False
  | .answer _ _ _ => False
  | .notify (.history _) _ => False
  | .notify (.router _) _ => False
  | .round _ _ _ => False
  | .call _ _ => False
  | .drain _ => False
  | _ => True

/-! ## Plans -/

/-- What comes out, unless a step is refused, has the property. -/
def Yields {α : Type} (x : Except StepError α) (p : α → Prop) : Prop := ∀ a, x = .ok a → p a

section

variable {α β : Type} {p : α → Prop}

/-- A result has what is asked of it. -/
theorem yields_ok {a : α} (h : p a) : Yields (.ok a) p := by
  rintro _ ⟨⟩
  exact h

/-- Nothing comes out of a step that is refused. -/
theorem yields_error (e : StepError) : Yields (.error e) p := by
  rintro a ⟨⟩

/-- What comes out of a step after another one has what the second always has. -/
theorem yields_bind {x : Except StepError β} {f : β → Except StepError α} (h : ∀ b, Yields (f b) p) :
    Yields (x >>= f) p := by
  intro a ha
  cases x with
  | error e => cases ha
  | ok b => exact h b a ha

end

/-- The plan stands for tasks that can be asked for. -/
def Plan.IsAsking (plan : Plan) : Prop := ∀ task ∈ plan.tasks, task.IsAsked

/-- The plan of one task stands for this task. -/
theorem yields_act {task : Task} (h : task.IsAsked) : Yields (.ok (.act task)) Plan.IsAsking :=
  yields_ok (fun _ ht => List.mem_singleton.1 ht ▸ h)

/-- The plan of an answer stands for no task. -/
theorem yields_reply (a : Answer) : Yields (.ok (.reply a)) Plan.IsAsking :=
  yields_ok (fun _ ht => absurd ht List.not_mem_nil)

namespace Session

/-- To drop something stands for that task alone. -/
theorem yields_planDrop (s : Session) (kind : Kind) (name : Text) : Yields (s.planDrop kind name) Plan.IsAsking := by
  unfold planDrop
  cases kind <;> exact yields_bind (fun _ => yields_act trivial)

/-- To make a router stands for the reports about its routes, and for the router. -/
theorem isAsking_planRouter (s : Session) (id history : Field Text) (routes : Field (List RouteSpec)) :
    (s.planRouter id history routes).IsAsking := by
  unfold planRouter
  cases routes.need "routes" with
  | error e => exact fun _ ht => absurd ht List.not_mem_nil
  | ok specs =>
    simp only
    split
    · exact fun _ ht => List.mem_singleton.1 ht ▸ trivial
    · rename_i task query hopened
      intro other ht
      rcases List.mem_cons.1 ht with rfl | ht
      · trivial
      · rw [List.mem_singleton.1 ht]
        refine yields_bind (p := fun opened : Task × Query => opened.1.IsAsked) ?_ _ hopened
        exact fun _ => yields_bind (fun _ => yields_bind (fun _ => yields_ok trivial))

/-- A plan stands for tasks that can be asked for. -/
theorem yields_planned (s : Session) (step : Step) : Yields (s.planned step) Plan.IsAsking := by
  cases step with
  | newRouter id history routes => exact yields_ok (isAsking_planRouter s id history routes)
  | drop kind id => exact yields_bind (fun _ => yields_bind (fun _ => yields_planDrop s _ _))
  | snap id router =>
    refine yields_bind (fun found => yields_bind (fun name => ?_))
    split
    · exact yields_reply _
    · exact yields_ok (fun _ ht => List.mem_singleton.1 ht ▸ trivial)
  | scopeRouter scope =>
    refine yields_bind (fun found => ?_)
    split <;> exact yields_reply _
  | applyLink link anchor href =>
    refine yields_bind (fun found => yields_bind (fun isAnchor => yields_bind (fun before => ?_)))
    split <;> exact yields_reply _
  | describe kind id =>
    refine yields_bind (fun kind => yields_bind (fun name => ?_))
    split
    · exact yields_reply _
    · exact yields_error _
  | _ =>
    unfold planned
    repeat refine yields_bind (fun _ => ?_)
    first
      | exact yields_error _
      | exact yields_act trivial
      | exact yields_reply _
      | exact yields_ok (by simp [Plan.IsAsking, Task.IsAsked])

/-- A step stands for tasks that can be asked for. -/
theorem isAsking_plan (s : Session) (step : Step) : (s.plan step).IsAsking := by
  unfold plan
  cases hplanned : s.planned step with
  | ok plan => exact yields_planned s step plan hplanned
  | error e => exact fun _ ht => absurd ht List.not_mem_nil

/-! ## Tasks that lead to nothing -/

theorem agenda_withRegistry (s : Session) (owner : Owner) (f : Registry → Registry) :
    (s.withRegistry owner f).agenda = s.agenda := by
  cases owner <;> rfl

/-- What becomes active leads to no task. -/
theorem agenda_activate (s : Session) (r : Nat) (found : Option Match) : (s.activate r found).agenda = s.agenda := by
  cases found <;> rfl

/-- A router that is made leads to no task. -/
theorem agenda_openRouter (s : Session) (name : Text) (h : Nat) (routes : List Route) :
    (s.openRouter name h routes).agenda = s.agenda := by
  unfold openRouter
  split
  · rfl
  · exact (agenda_withRegistry _ _ _).trans (agenda_activate _ _ _)

/-- A subscription leads to no task. -/
theorem agenda_subscribe (s : Session) (name : Text) (owner : Owner) (handler : Handler) :
    (s.subscribe name owner handler).agenda = s.agenda := by
  unfold subscribe
  split
  · rfl
  · have hadded : ((s.addHandler handler).withRegistry owner (fun g => g.add (.handler s.handlers.length))).agenda =
        s.agenda := agenda_withRegistry _ _ _
    split
    · exact hadded
    · exact (agenda_withRegistry _ _ _).trans hadded

/-- An outlet that is dropped leads to no task. -/
theorem agenda_dropOutlet (s : Session) (name : Text) : (s.dropOutlet name).agenda = s.agenda := by
  unfold dropOutlet
  split
  · rfl
  · simp only
    split
    · rfl
    · exact agenda_withRegistry _ _ _

/-- An outlet that is made leads to no task. -/
theorem agenda_openOutlet (s : Session) (name : Text) (r : Nat) (handler : Handler) :
    (s.openOutlet name r handler).agenda = s.agenda := by
  unfold openOutlet
  split
  · rfl
  · exact agenda_dropOutlet _ _

/-- Whatever is dropped, no task comes of it. -/
theorem agenda_drop (s : Session) (kind : Kind) (name : Text) : (s.drop kind name).agenda = s.agenda := by
  cases kind with
  | outlet => exact agenda_dropOutlet s name
  | subscription =>
    change (s.dropSubscription name).agenda = s.agenda
    unfold dropSubscription
    split
    · rfl
    · exact agenda_withRegistry _ _ _
  | _ => rfl

/-! ## Tasks that lead to others -/

/-- What a task can lead to in a session. -/
inductive Leads (s : Session) : Task → List Task → Prop
  | nothing (task : Task) : Leads s task []
  | command (nested : Bool) (c : Command) :
      Leads s (.command nested c) ((s.plan c.step).tasks ++ [.answer nested c.word (s.plan c.step).query])
  | script (c : Command) (rest : List Command) : Leads s (.script (c :: rest)) [.command true c, .script rest]
  | announced (h : Nat) (path : Text) : Leads s (.push h path) [.notify (.history h) path]
  | moved (h : Nat) (onward : Bool) (path : Text) : Leads s (.move h onward) [.notify (.history h) path]
  | notified (owner : Owner) (path : Text) : Leads s (.notify owner path) [.round owner (s.callbacks owner) path]
  | called (owner : Owner) (entry : Nat × Callback) (later : List (Nat × Callback)) (path : Text) :
      Leads s (.round owner (entry :: later) path) [.call entry.2 path, .round owner later path]
  | followed (r : Nat) (path : Text) : Leads s (.call (.follow r) path) [.resolve r path]
  | reacted (index : Nat) (path : Text) (commands : List Command) :
      Leads s (.call (.handler index) path) [.script commands]
  | navigated {r : Nat} {router : Router} (path : Text) (hrouter : s.routers[r]? = some router)
      (hidle : router.navigating = false) :
      Leads s (.navigate r path) [.resolve r path, .push router.history path, .drain r]
  | resolved (r : Nat) (path : Text) : Leads s (.resolve r path) [.notify (.router r) path]
  | drained {r : Nat} {router : Router} {path : Text} {later : List Text} (hrouter : s.routers[r]? = some router)
      (hqueue : router.queue = path :: later) :
      Leads s (.drain r) [.resolve r path, .push router.history path, .drain r]
  | polled : Leads s .poll [.poll]
  | loaded (index : Nat) : Leads s .poll [.call (.handler index) [], .poll]
  | written (c index : Nat) (value : Props) : Leads s (.write c value) [.call (.handler index) []]
  | updated (c index : Nat) (added : Props) : Leads s (.update c added) [.call (.handler index) []]

/-- A push leads to a notification if its history announces what is pushed. -/
theorem leads_push (s : Session) (h : Nat) (path : Text) :
    ∃ new, (s.push h path).agenda = new ++ s.agenda ∧ Leads s (.push h path) new := by
  unfold push
  split
  · exact ⟨[], rfl, Leads.nothing _⟩
  · simp only
    split
    · exact ⟨_, rfl, Leads.announced h path⟩
    · exact ⟨[], rfl, Leads.nothing _⟩

/-- A move leads to a notification if there is an entry to come to. -/
theorem leads_move (s : Session) (h : Nat) (onward : Bool) :
    ∃ new, (s.move h onward).agenda = new ++ s.agenda ∧ Leads s (.move h onward) new := by
  unfold move
  split
  · exact ⟨[], rfl, Leads.nothing _⟩
  · exact ⟨_, rfl, Leads.moved h onward _⟩

/-- A navigation leads to a resolution, a push and the queued ones, unless it is queued itself. -/
theorem leads_navigate (s : Session) (r : Nat) (path : Text) :
    ∃ new, (s.navigate r path).agenda = new ++ s.agenda ∧ Leads s (.navigate r path) new := by
  unfold navigate
  split
  · exact ⟨[], rfl, Leads.nothing _⟩
  · rename_i router hrouter
    cases hnavigating : router.navigating with
    | true => exact ⟨[], rfl, Leads.nothing _⟩
    | false => exact ⟨_, rfl, Leads.navigated path hrouter hnavigating⟩

/-- A resolution leads to a notification of the observers. -/
theorem leads_resolve (s : Session) (r : Nat) (path : Text) :
    ∃ new, (s.resolve r path).agenda = new ++ s.agenda ∧ Leads s (.resolve r path) new := by
  unfold resolve
  split
  · exact ⟨[], rfl, Leads.nothing _⟩
  · refine ⟨_, ?_, Leads.resolved r path⟩
    exact congrArg ([Task.notify (.router r) path] ++ ·) (agenda_activate _ _ _)

/-- What comes after a navigation is the next one that was queued, if there is one. -/
theorem leads_drain (s : Session) (r : Nat) :
    ∃ new, (s.drain r).agenda = new ++ s.agenda ∧ Leads s (.drain r) new := by
  unfold drain
  split
  · exact ⟨[], rfl, Leads.nothing _⟩
  · rename_i router hrouter
    cases hqueue : router.queue with
    | nil => exact ⟨[], rfl, Leads.nothing _⟩
    | cons path later => exact ⟨_, rfl, Leads.drained hrouter hqueue⟩

/-- A handler leads to its script. -/
theorem leads_callHandler (s : Session) (index : Nat) (path : Text) :
    ∃ new, (s.callHandler index path).agenda = new ++ s.agenda ∧ Leads s (.call (.handler index) path) new := by
  have hreact : ∀ (u : Session) (handler : Handler) (holds : Bool), u.agenda = s.agenda →
      ∃ new, (u.react index handler holds).agenda = new ++ s.agenda ∧ Leads s (.call (.handler index) path) new := by
    intro u handler holds hu
    unfold react
    split
    · exact ⟨[.script handler.script], congrArg (Task.script handler.script :: ·) hu, Leads.reacted index path _⟩
    · exact ⟨[], hu, Leads.nothing _⟩
  unfold callHandler
  split
  · exact ⟨[], rfl, Leads.nothing _⟩
  · split
    · exact hreact _ _ _ rfl
    · exact hreact _ _ _ rfl
    · exact hreact _ _ _ rfl
    · split
      · exact hreact _ _ _ rfl
      · exact ⟨[], rfl, Leads.nothing _⟩

/-- A callback leads to a resolution, if it is the listener of a router, or to a script. -/
theorem leads_call (s : Session) (callback : Callback) (path : Text) :
    ∃ new, (s.call callback path).agenda = new ++ s.agenda ∧ Leads s (.call callback path) new := by
  cases callback with
  | handler index => exact leads_callHandler s index path
  | follow r =>
    unfold call
    simp only
    split
    · exact ⟨_, rfl, Leads.followed r path⟩
    · exact ⟨[], rfl, Leads.nothing _⟩

/-- A poll leads to the call of a handler and to another poll, as long as loads can proceed. -/
theorem leads_poll (s : Session) : ∃ new, s.poll.agenda = new ++ s.agenda ∧ Leads s .poll new := by
  have hfinish : ∀ (u : Session) (load : Load) (value : Props), u.agenda = .poll :: s.agenda →
      ∃ new, (u.finish load value).agenda = new ++ s.agenda ∧ Leads s .poll new := by
    intro u load value hu
    unfold finish
    split
    · exact ⟨_, hu, Leads.polled⟩
    · rename_i outlet _
      split
      · exact ⟨[.call (.handler outlet.handler) [], .poll], congrArg (Task.call (.handler outlet.handler) [] :: ·) hu,
          Leads.loaded outlet.handler⟩
      · exact ⟨[.poll], hu, Leads.polled⟩
  unfold poll
  split
  · exact ⟨[], rfl, Leads.nothing _⟩
  · unfold proceed
    split
    · exact ⟨_, rfl, Leads.polled⟩
    · split
      · exact hfinish _ _ _ rfl
      · split
        · exact hfinish _ _ _ rfl
        · exact ⟨_, rfl, Leads.polled⟩

/-- A write leads to a call of the handler of its cell, if the cell is there. -/
theorem agenda_write (s : Session) (c : Nat) (value : Props) : (s.write c value).agenda = s.agenda ∨
    ∃ index, (s.write c value).agenda = .call (.handler index) [] :: s.agenda := by
  unfold write
  split
  · exact Or.inl rfl
  · exact Or.inr ⟨_, rfl⟩

/-- A task puts what it leads to before the tasks that were left. -/
theorem leads_perform (s : Session) (task : Task) :
    ∃ new, (s.perform task).agenda = new ++ s.agenda ∧ Leads s task new := by
  cases task with
  | command nested c => exact ⟨_, rfl, Leads.command nested c⟩
  | script commands =>
    cases commands with
    | nil => exact ⟨[], rfl, Leads.nothing _⟩
    | cons c rest => exact ⟨_, rfl, Leads.script c rest⟩
  | answer nested word query =>
    refine ⟨[], ?_, Leads.nothing _⟩
    cases nested <;> rfl
  | openHistory name announces path =>
    refine ⟨[], ?_, Leads.nothing _⟩
    cases announces <;> rfl
  | openRouter name h routes => exact ⟨[], agenda_openRouter s name h routes, Leads.nothing _⟩
  | openOutlet name r handler => exact ⟨[], agenda_openOutlet s name r handler, Leads.nothing _⟩
  | subscribe name owner handler => exact ⟨[], agenda_subscribe s name owner handler, Leads.nothing _⟩
  | drop kind name => exact ⟨[], agenda_drop s kind name, Leads.nothing _⟩
  | push h path => exact leads_push s h path
  | move h onward => exact leads_move s h onward
  | notify owner path => exact ⟨_, rfl, Leads.notified owner path⟩
  | round owner rest path =>
    cases rest with
    | nil => exact ⟨[], rfl, Leads.nothing _⟩
    | cons entry later => exact ⟨_, rfl, Leads.called owner entry later path⟩
  | call callback path => exact leads_call s callback path
  | navigate r path => exact leads_navigate s r path
  | resolve r path => exact leads_resolve s r path
  | drain r => exact leads_drain s r
  | render o =>
    obtain ⟨_, _, _, _, _, heq⟩ := render_eq s o
    refine ⟨[], ?_, Leads.nothing _⟩
    rw [perform, heq]
    rfl
  | deliver n value =>
    obtain ⟨_, _, heq⟩ := deliver_eq s n value
    refine ⟨[], ?_, Leads.nothing _⟩
    rw [perform, heq]
    rfl
  | poll => exact leads_poll s
  | dropPool =>
    refine ⟨[], ?_, Leads.nothing _⟩
    change s.dropPool.agenda = s.agenda
    unfold dropPool
    split <;> rfl
  | write c value =>
    rcases agenda_write s c value with hnone | ⟨index, hsome⟩
    · exact ⟨[], hnone, Leads.nothing _⟩
    · exact ⟨[.call (.handler index) []], hsome, Leads.written c index value⟩
  | update c added =>
    rcases agenda_write s c ((s.valueOf c).combine added) with hnone | ⟨index, hsome⟩
    · exact ⟨[], hnone, Leads.nothing _⟩
    · exact ⟨[.call (.handler index) []], hsome, Leads.updated c index added⟩
  | _ => exact ⟨[], rfl, Leads.nothing _⟩

end Session

end PathRouting
