import PathRouting.Proofs.LookUps
import PathRouting.Proofs.Reentrance
import PathRouting.Proofs.RegularRuns
import PathRouting.Proofs.Rendering
import PathRouting.Proofs.Renewals
import PathRouting.Proofs.Tidiness

/-!
# Who holds a router

A router is held by its names, by scopes, outlets and links that have names, and by the calls that are in progress.
Statements: what a step stands for holds only routers that a name holds; whatever is done, a router that is held then was
held before, or was alive, or is new; so along every regular run a router lives exactly as long as something holds it.
-/

namespace PathRouting

namespace Session

variable {s t : Session} {us : List Session} {r : Nat} {inMemory : Nat → Prop}

/-- A name holds the router: one of its own, or that of a scope which provides it or stands below one that does, of an
outlet or of a link. -/
inductive IsNamed (s : Session) (r : Nat) : Prop
  | handle {name : Text} (h : (name, r) ∈ s.names.routers)
  | scope {name : Text} {scope : Scope} (h : (name, scope) ∈ s.names.scopes) (hr : r ∈ scope.routers)
  | outlet {name : Text} {o : Nat} {outlet : Outlet} (h : (name, o) ∈ s.names.outlets) (ho : s.outlets[o]? = some outlet)
      (hr : outlet.router = r)
  | link {name : Text} {link : Link} (h : (name, link) ∈ s.names.links) (hr : link.router = r)

/-- Something holds the router: a name, or a call that is in progress. -/
def IsHeld (s : Session) (r : Nat) : Prop := s.IsNamed r ∨ ∃ task ∈ s.agenda, r ∈ task.routers

/-- Whether something holds a router can be found out. -/
theorem holdsRouter_iff : s.holdsRouter r = true ↔ s.IsHeld r := by
  simp only [holdsRouter, Directory.holds, Bool.or_eq_true, List.any_eq_true, Prod.exists, beq_iff_eq,
    List.contains_iff_mem, Option.any_eq_true]
  constructor
  · rintro ((((⟨name, _, h, rfl⟩ | ⟨name, scope, h, hr⟩) | ⟨name, o, h, outlet, ho, hr⟩) | ⟨name, link, h, hr⟩) | hcall)
    · exact Or.inl (.handle h)
    · exact Or.inl (.scope h hr)
    · exact Or.inl (.outlet h ho hr)
    · exact Or.inl (.link h hr)
    · exact Or.inr hcall
  · rintro (hnamed | hcall)
    · cases hnamed with
      | handle h => exact Or.inl (Or.inl (Or.inl (Or.inl ⟨_, _, h, rfl⟩)))
      | scope h hr => exact Or.inl (Or.inl (Or.inl (Or.inr ⟨_, _, h, hr⟩)))
      | outlet h ho hr => exact Or.inl (Or.inl (Or.inr ⟨_, _, h, _, ho, hr⟩))
      | link h hr => exact Or.inl (Or.inr ⟨_, _, h, hr⟩)
    · exact Or.inr hcall

end Session

/-! ## Plans -/

/-- The tasks and the question of a plan hold only such routers. -/
structure Plan.HoldsOnly (p : Nat → Prop) (plan : Plan) : Prop where
  tasks : ∀ task ∈ plan.tasks, ∀ r ∈ task.routers, p r
  query : ∀ query, plan.query = .ok query → ∀ r ∈ query.routers, p r

section

variable {p : Nat → Prop}

/-- An answer holds no router. -/
theorem Plan.holdsOnly_reply (a : Answer) : (Plan.reply a).HoldsOnly p where
  tasks := fun _ ht => absurd ht List.not_mem_nil
  query := by
    rintro query ⟨⟩ r hr
    cases hr

/-- The plan of one task holds what the task does. -/
theorem Plan.holdsOnly_act {task : Task} (h : ∀ r ∈ task.routers, p r) : (Plan.act task).HoldsOnly p where
  tasks := fun _ ht => List.mem_singleton.1 ht ▸ h
  query := by
    rintro query ⟨⟩ r hr
    cases hr

/-- Tasks and a query that hold no router make a plan that holds none. -/
theorem Plan.holdsOnly_of_free {tasks : List Task} {query : Query} (htasks : ∀ task ∈ tasks, task.routers = [])
    (hquery : query.routers = []) : (⟨tasks, .ok query⟩ : Plan).HoldsOnly p where
  tasks := by
    intro task ht r hr
    rw [htasks task ht] at hr
    cases hr
  query := by
    rintro query' ⟨⟩ r hr
    rw [hquery] at hr
    cases hr

end

/-- The router that a scope provides is one that it holds. -/
theorem Scope.mem_routers_of_router? {scope : Scope} {r : Nat} (h : scope.router? = some r) : r ∈ scope.routers := by
  induction scope with
  | root => cases h
  | child parent ih => exact ih h
  | provide parent r' _ =>
    obtain rfl := Option.some.inj h
    exact List.mem_cons_self ..

namespace Session

/-- A consumer gets a router that its scope holds. -/
theorem yields_needProvided (scope : Scope) (consumer : Text) :
    Yields (needProvided scope consumer) (fun r => r ∈ scope.routers) := by
  unfold needProvided
  split
  · rename_i r hr
    exact yields_ok (Scope.mem_routers_of_router? hr)
  · exact yields_error _

/-- A router that is looked up is held by a name. -/
theorem yields_lookUpRouter_isNamed (s : Session) (f : Field Text) :
    Yields (s.lookUpRouter f) (fun found => s.IsNamed found.1) := by
  intro found hfound
  obtain ⟨-, name, hname⟩ := yields_lookUpRouter s f found hfound
  exact .handle (Directory.mem_of_get? hname)

/-- The routers of a scope that is looked up are held by the name of the scope. -/
theorem yields_lookUpScope (s : Session) (f : Field Text) :
    Yields (s.lookUpScope f) (fun scope => ∀ r ∈ scope.routers, s.IsNamed r) := by
  intro scope hscope r hr
  obtain ⟨name, hname⟩ := yields_lookUp s.names.scopes f "scope" scope hscope
  exact .scope (Directory.mem_of_get? hname) hr

/-- The router of a link that is looked up is held by the name of the link. -/
theorem yields_lookUpLink (s : Session) (f : Field Text) : Yields (s.lookUpLink f) (fun link => s.IsNamed link.router) := by
  intro link hlink
  obtain ⟨name, hname⟩ := yields_lookUp s.names.links f "link" link hlink
  exact .link (Directory.mem_of_get? hname) rfl

/-- To drop something holds no router meanwhile. -/
theorem yields_holdsOnly_planDrop (s : Session) (kind : Kind) (name : Text) {p : Nat → Prop} :
    Yields (s.planDrop kind name) (Plan.HoldsOnly p) := by
  unfold planDrop
  cases kind <;>
    exact yields_bind (fun _ => yields_ok (Plan.holdsOnly_act (fun _ hr => absurd hr List.not_mem_nil)))

/-- A router is held by the answer of the step that makes it, and by no task of that step. -/
theorem holds_planRouter (s : Session) (id history : Field Text) (routes : Field (List RouteSpec)) :
    (∀ task ∈ (s.planRouter id history routes).tasks, task.routers = []) ∧
      ∀ query, (s.planRouter id history routes).query = .ok query → query = .activeOf s.routers.length := by
  unfold planRouter
  cases routes.need "routes" with
  | error e => exact ⟨fun _ ht => absurd ht List.not_mem_nil, fun _ hquery => absurd hquery (by simp [Plan.refuse])⟩
  | ok specs =>
    simp only
    split
    · exact ⟨fun task ht => List.mem_singleton.1 ht ▸ rfl, fun _ hquery => absurd hquery (by simp)⟩
    · rename_i task query hopened
      have hfree : task.routers = [] ∧ query = .activeOf s.routers.length := by
        refine yields_bind (p := fun opened : Task × Query => opened.1.routers = [] ∧
          opened.2 = .activeOf s.routers.length) ?_ _ hopened
        exact fun _ => yields_bind (fun _ => yields_bind (fun _ => yields_ok ⟨rfl, rfl⟩))
      refine ⟨fun other ht => ?_, fun query' hquery => (Except.ok.inj hquery).symm.trans hfree.2⟩
      rcases List.mem_cons.1 ht with rfl | ht
      · rfl
      · rw [List.mem_singleton.1 ht, hfree.1]

/-- A step that makes no router holds only routers that are named. -/
theorem yields_holdsOnly_isNamed (s : Session) {step : Step}
    (hstep : ∀ id history routes, step ≠ .newRouter id history routes) :
    Yields (s.planned step) (Plan.HoldsOnly s.IsNamed) := by
  have hone : ∀ {r}, s.IsNamed r → ∀ r' ∈ [r], s.IsNamed r' := fun h r' hr' => List.mem_singleton.1 hr' ▸ h
  cases step with
  | navigate router path =>
    refine (yields_lookUpRouter_isNamed s router).bind (fun found hfound => yields_bind (fun path => yields_ok ⟨?_, ?_⟩))
    · exact fun task ht => List.mem_singleton.1 ht ▸ hone hfound
    · rintro query ⟨⟩
      exact hone hfound
  | setRoute router path =>
    refine (yields_lookUpRouter_isNamed s router).bind (fun found hfound => yields_bind (fun path => yields_ok ⟨?_, ?_⟩))
    · exact fun task ht => List.mem_singleton.1 ht ▸ hone hfound
    · rintro query ⟨⟩
      exact hone hfound
  | cloneRouter id router =>
    refine (yields_lookUpRouter_isNamed s router).bind (fun found hfound => yields_bind (fun name => ?_))
    exact yields_ok (Plan.holdsOnly_act (hone hfound))
  | subscribe id router reaction =>
    refine (yields_lookUpRouter_isNamed s router).bind (fun found hfound => yields_bind (fun name => yields_bind ?_))
    exact fun handler => yields_ok (Plan.holdsOnly_act (hone hfound))
  | provide id scope router =>
    refine (yields_lookUpScope s scope).bind (fun parent hparent => (yields_lookUpRouter_isNamed s router).bind ?_)
    refine fun found hfound => yields_bind (fun name => yields_ok (Plan.holdsOnly_act (fun r hr => ?_)))
    rcases List.mem_cons.1 hr with rfl | hr
    · exact hfound
    · exact hparent r hr
  | newChild id scope =>
    refine (yields_lookUpScope s scope).bind (fun parent hparent => yields_bind (fun name => ?_))
    exact yields_ok (Plan.holdsOnly_act hparent)
  | cloneScope id scope =>
    refine (yields_lookUpScope s scope).bind (fun parent hparent => yields_bind (fun name => ?_))
    exact yields_ok (Plan.holdsOnly_act hparent)
  | newLink id scope path =>
    refine (yields_lookUpScope s scope).bind (fun found hfound => yields_bind (fun name => yields_bind (fun path => ?_)))
    refine (yields_needProvided found _).bind (fun r hr => yields_ok (Plan.holdsOnly_act ?_))
    exact hone (hfound r hr)
  | click link =>
    refine (yields_lookUpLink s link).bind (fun found hfound => yields_ok ⟨fun task ht => ?_, ?_⟩)
    · rcases List.mem_cons.1 ht with rfl | ht
      · exact fun r hr => absurd hr List.not_mem_nil
      · exact List.mem_singleton.1 ht ▸ hone hfound
    · rintro query ⟨⟩ r hr
      cases hr
  | newOutlet id scope reaction =>
    refine (yields_lookUpScope s scope).bind (fun found hfound => yields_bind (fun _ => yields_bind (fun name => ?_)))
    refine yields_bind (fun handler => (yields_needProvided found _).bind (fun r hr => ?_))
    exact yields_ok (Plan.holdsOnly_act (hone (hfound r hr)))
  | newRouter id history routes => exact absurd rfl (hstep id history routes)
  | drop kind id => exact yields_bind (fun _ => yields_bind (fun _ => yields_holdsOnly_planDrop s _ _))
  | snap id router =>
    refine yields_bind (fun found => yields_bind (fun name => ?_))
    split
    · exact yields_ok (Plan.holdsOnly_reply _)
    · exact yields_ok (Plan.holdsOnly_of_free (by simp [Task.routers]) rfl)
  | scopeRouter scope =>
    refine yields_bind (fun found => ?_)
    split <;> exact yields_ok (Plan.holdsOnly_reply _)
  | applyLink link anchor href =>
    refine yields_bind (fun found => yields_bind (fun isAnchor => yields_bind (fun before => ?_)))
    split <;> exact yields_ok (Plan.holdsOnly_reply _)
  | describe kind id =>
    refine yields_bind (fun kind => yields_bind (fun name => ?_))
    split
    · exact yields_ok (Plan.holdsOnly_reply _)
    · exact yields_error _
  | _ =>
    unfold planned
    repeat refine yields_bind (fun _ => ?_)
    first
      | exact yields_error _
      | exact yields_ok (Plan.holdsOnly_reply _)
      | exact yields_ok (Plan.holdsOnly_act (fun _ hr => absurd hr List.not_mem_nil))
      | exact yields_ok (Plan.holdsOnly_of_free (by simp [Task.routers]) rfl)

/-- A step holds only routers that are named, and its answer the router that it makes. -/
theorem holdsOnly_plan (s : Session) (step : Step) :
    (∀ task ∈ (s.plan step).tasks, ∀ r ∈ task.routers, s.IsNamed r) ∧
      ∀ query, (s.plan step).query = .ok query → ∀ r ∈ query.routers, s.IsNamed r ∨ r = s.routers.length := by
  unfold plan
  cases hplanned : s.planned step with
  | error e => exact ⟨fun _ ht => absurd ht List.not_mem_nil, fun _ hquery => absurd hquery (by simp [Plan.refuse])⟩
  | ok plan =>
    by_cases hstep : ∃ id history routes, step = .newRouter id history routes
    · obtain ⟨id, history, routes, rfl⟩ := hstep
      obtain rfl := Except.ok.inj hplanned
      obtain ⟨htasks, hquery⟩ := holds_planRouter s id history routes
      refine ⟨fun task ht r hr => ?_, fun query hquery' r hr => ?_⟩
      · rw [htasks task ht] at hr
        cases hr
      · rw [hquery query hquery'] at hr
        exact Or.inr (List.mem_singleton.1 hr)
    · have hholds := yields_holdsOnly_isNamed s (fun id history routes heq => hstep ⟨id, history, routes, heq⟩) plan hplanned
      exact ⟨hholds.tasks, fun query hquery r hr => Or.inl (hholds.query query hquery r hr)⟩

/-! ## Names -/

theorem names_withRegistry (s : Session) (owner : Owner) (f : Registry → Registry) :
    (s.withRegistry owner f).names = s.names := by
  cases owner <;> rfl

end Session

/-- The task answers a step. -/
def Task.isAnswer : Task → Bool
  | .answer _ _ _ => true
  | _ => false

/-- The tasks that give names or take them away. -/
def Task.isNaming : Task → Bool
  | .openHistory _ _ _ => true
  | .openRegistry _ => true
  | .openRouter _ _ _ => true
  | .openOutlet _ _ _ => true
  | .openCell _ _ _ => true
  | .nameRouter _ _ => true
  | .nameWeak _ _ => true
  | .nameSnapshot _ _ => true
  | .nameScope _ _ => true
  | .nameLink _ _ => true
  | .nameCell _ _ => true
  | .subscribe _ _ _ => true
  | .detach _ => true
  | .drop _ _ => true
  | _ => false

/-- The tasks that make cells or write them. -/
def Task.isWriting : Task → Bool
  | .openCell _ _ _ => true
  | .write _ _ => true
  | .update _ _ => true
  | _ => false

namespace Session

variable {s t : Session} {us : List Session} {r : Nat} {inMemory : Nat → Prop}

/-- All other tasks leave the names and the registries that stand alone as they are, and the cells unless they write one. -/
theorem fixtures_perform (s : Session) {task : Task} (h : task.isNaming = false) :
    (s.perform task).names = s.names ∧ (s.perform task).registries = s.registries ∧
      (task.isWriting = false → (s.perform task).cells = s.cells) := by
  cases task with
  | command | report | notify => exact ⟨rfl, rfl, fun _ => rfl⟩
  | script commands => cases commands <;> exact ⟨rfl, rfl, fun _ => rfl⟩
  | answer nested word query => cases nested <;> exact ⟨rfl, rfl, fun _ => rfl⟩
  | push k path =>
    obtain ⟨_, _, heq⟩ := push_eq s k path
    rw [perform, heq]
    exact ⟨rfl, rfl, fun _ => rfl⟩
  | move k onward =>
    obtain ⟨_, _, _, heq⟩ := move_eq s k onward
    rw [perform, heq]
    exact ⟨rfl, rfl, fun _ => rfl⟩
  | round owner rest path => cases rest <;> exact ⟨rfl, rfl, fun _ => rfl⟩
  | call callback path =>
    cases callback with
    | handler index =>
      obtain ⟨_, _, _, heq⟩ := callHandler_eq s index path
      rw [perform, call, heq]
      exact ⟨rfl, rfl, fun _ => rfl⟩
    | follow r =>
      rw [perform, call]
      split <;> exact ⟨rfl, rfl, fun _ => rfl⟩
  | navigate r path =>
    obtain ⟨_, _, _, heq⟩ := navigate_eq s r path
    rw [perform, heq]
    exact ⟨rfl, rfl, fun _ => rfl⟩
  | resolve r path =>
    obtain ⟨_, _, _, _, heq⟩ := resolve_eq s r path
    rw [perform, heq]
    exact ⟨rfl, rfl, fun _ => rfl⟩
  | drain r =>
    obtain ⟨_, _, heq⟩ := drain_eq s r
    rw [perform, heq]
    exact ⟨rfl, rfl, fun _ => rfl⟩
  | render o =>
    obtain ⟨_, _, _, _, _, heq⟩ := render_eq s o
    rw [perform, heq]
    exact ⟨rfl, rfl, fun _ => rfl⟩
  | deliver n value =>
    obtain ⟨_, _, heq⟩ := deliver_eq s n value
    rw [perform, heq]
    exact ⟨rfl, rfl, fun _ => rfl⟩
  | poll =>
    obtain ⟨_, _, _, _, _, heq⟩ := poll_eq s
    rw [perform, heq]
    exact ⟨rfl, rfl, fun _ => rfl⟩
  | dropPool =>
    rw [perform, dropPool]
    split <;> exact ⟨rfl, rfl, fun _ => rfl⟩
  | write c value =>
    obtain ⟨_, _, heq⟩ := write_eq s c value
    rw [perform, heq]
    exact ⟨rfl, rfl, fun hwriting => by cases hwriting⟩
  | update c added =>
    obtain ⟨_, _, heq⟩ := write_eq s c ((s.valueOf c).combine added)
    rw [perform, update, heq]
    exact ⟨rfl, rfl, fun hwriting => by cases hwriting⟩
  | _ => cases h

/-- A task that names nothing leaves the names as they are. -/
theorem names_perform (s : Session) {task : Task} (h : task.isNaming = false) : (s.perform task).names = s.names :=
  (fixtures_perform s h).1

/-- A router is named as it was before, except by the names of routers, scopes, outlets and links that are new. -/
theorem IsNamed.before (h : t.IsNamed r) (hr : Renews s t)
    (hexists : ∀ entry ∈ s.names.outlets, ∃ outlet, s.outlets[entry.2]? = some outlet) {p : Prop}
    (hrouters : ∀ entry ∈ t.names.routers, entry ∈ s.names.routers ∨ (entry.2 = r → p))
    (hscopes : ∀ entry ∈ t.names.scopes, entry ∈ s.names.scopes ∨ (r ∈ entry.2.routers → p))
    (houtlets : ∀ entry ∈ t.names.outlets, entry ∈ s.names.outlets ∨
      ∀ outlet, t.outlets[entry.2]? = some outlet → outlet.router = r → p)
    (hlinks : ∀ entry ∈ t.names.links, entry ∈ s.names.links ∨ (entry.2.router = r → p)) : s.IsNamed r ∨ p := by
  cases h with
  | handle h => exact (hrouters _ h).imp .handle (fun hp => hp rfl)
  | scope h hr => exact (hscopes _ h).imp (fun h => .scope h hr) (fun hp => hp hr)
  | outlet h ho hrouter =>
    refine (houtlets _ h).imp (fun h => ?_) (fun hp => hp _ ho hrouter)
    obtain ⟨old, hold⟩ := hexists _ h
    exact .outlet h hold ((Outlet.eq_of_seat_eq (hr.seat_eq hold ho)).1 ▸ hrouter)
  | link h hr => exact (hlinks _ h).imp (fun h => .link h hr) (fun hp => hp hr)

/-- An outlet that is dropped loses its name, if it had one. -/
theorem names_dropOutlet (s : Session) (name : Text) :
    (s.dropOutlet name).names = s.names ∨
      (s.dropOutlet name).names = { s.names with outlets := s.names.outlets.erase name } := by
  unfold dropOutlet
  split
  · exact Or.inl rfl
  · simp only
    split
    · exact Or.inr rfl
    · exact Or.inr (names_withRegistry _ _ _)

/-- A subscription changes the names of subscriptions only. -/
theorem subscribe_names (s : Session) (name : Text) (owner : Owner) (handler : Handler) :
    ∃ subscriptions, (s.subscribe name owner handler).names = { s.names with subscriptions := subscriptions } := by
  unfold subscribe
  split
  · exact ⟨_, rfl⟩
  · have hadded : ((s.addHandler handler).withRegistry owner (fun g => g.add (.handler s.handlers.length))).names =
        s.names := names_withRegistry _ _ _
    simp only [hadded]
    split
    · exact ⟨_, rfl⟩
    · exact ⟨_, names_withRegistry _ _ _⟩

/-- A subscription that is dropped loses its name, if it had one. -/
theorem dropSubscription_names (s : Session) (name : Text) :
    (s.dropSubscription name).names = s.names ∨
      (s.dropSubscription name).names = { s.names with subscriptions := s.names.subscriptions.erase name } := by
  unfold dropSubscription
  split
  · exact Or.inl rfl
  · exact Or.inr (names_withRegistry _ _ _)

/-- A router that is made gets its name, if its history is there. -/
theorem openRouter_names (s : Session) (name : Text) (h : Nat) (routes : List Route) :
    (s.openRouter name h routes).names = s.names ∨
      (s.openRouter name h routes).names = { s.names with routers := s.names.routers.put name s.routers.length } := by
  cases hhistory : s.histories[h]? with
  | none =>
    refine Or.inl ?_
    simp only [openRouter, hhistory]
  | some history =>
    obtain ⟨logs, journal, heq⟩ := openRouter_eq hhistory name routes
    rw [heq]
    exact Or.inr rfl

/-- An outlet that is made has its router and its name, and other outlets have lost this name at most. -/
theorem openOutlet_names {observers : Registry} (hregistry : s.registry? (.router r) = some observers) (name : Text)
    (handler : Handler) : ∃ outlet, outlet.router = r ∧
      (s.openOutlet name r handler).outlets[s.outlets.length]? = some outlet ∧
      ∃ outlets, outlets ⊆ s.names.outlets ∧
        (s.openOutlet name r handler).names = { s.names with outlets := outlets.put name s.outlets.length } := by
  let made : Session := s.addOutlet r observers.nextKey handler
  refine ⟨⟨r, observers.nextKey, none, none, s.handlers.length⟩, rfl, ?_, ?_⟩
  · rw [openOutlet_eq hregistry]
    change (made.dropOutlet name).outlets[s.outlets.length]? = _
    rw [(keeps_dropOutlet made name).outlets]
    exact List.getElem?_concat_length
  · rw [openOutlet_eq hregistry]
    rcases names_dropOutlet made name with hnames | hnames
    · exact ⟨s.names.outlets, List.Subset.refl _, congrArg (fun names : Names =>
        { names with outlets := names.outlets.put name s.outlets.length }) hnames⟩
    · exact ⟨s.names.outlets.erase name, Directory.erase_subset _ _, congrArg (fun names : Names =>
        { names with outlets := names.outlets.put name s.outlets.length }) hnames⟩

/-- What a task makes of the names: it leaves all of them as they are, but those of one kind. -/
inductive Renames (s : Session) : Task → Names → Prop
  | same (task : Task) : Renames s task s.names
  | openMemory (name path : Text) (d : Directory Nat) :
      Renames s (.openHistory name false path) { s.names with histories := d }
  | openEcho (name path : Text) (d : Directory Nat) : Renames s (.openHistory name true path) { s.names with echoes := d }
  | openRegistry (name : Text) (d : Directory Nat) : Renames s (.openRegistry name) { s.names with registries := d }
  | openRouter (name : Text) (h : Nat) (routes : List Route) :
      Renames s (.openRouter name h routes) { s.names with routers := s.names.routers.put name s.routers.length }
  | openOutlet (name : Text) (r : Nat) (handler : Handler) (d : Directory Nat) :
      Renames s (.openOutlet name r handler) { s.names with outlets := d }
  | openCell (name : Text) (value : Props) (handler : Handler) :
      Renames s (.openCell name value handler) { s.names with cells := s.names.cells.put name s.cells.length }
  | nameRouter (name : Text) (r : Nat) :
      Renames s (.nameRouter name r) { s.names with routers := s.names.routers.put name r }
  | nameWeak (name : Text) (r : Nat) : Renames s (.nameWeak name r) { s.names with weak := s.names.weak.put name r }
  | nameSnapshot (name : Text) (id : Nat) :
      Renames s (.nameSnapshot name id) { s.names with snapshots := s.names.snapshots.put name id }
  | nameScope (name : Text) (scope : Scope) :
      Renames s (.nameScope name scope) { s.names with scopes := s.names.scopes.put name scope }
  | nameLink (name : Text) (link : Link) :
      Renames s (.nameLink name link) { s.names with links := s.names.links.put name link }
  | nameCell (name : Text) (c : Nat) : Renames s (.nameCell name c) { s.names with cells := s.names.cells.put name c }
  | subscribe (name : Text) (owner : Owner) (handler : Handler) (d : Directory Subscription) :
      Renames s (.subscribe name owner handler) { s.names with subscriptions := d }
  | detach (name : Text) :
      Renames s (.detach name) { s.names with subscriptions := s.names.subscriptions.erase name }
  | dropMemory (name : Text) : Renames s (.drop .memory name) { s.names with histories := s.names.histories.erase name }
  | dropEcho (name : Text) : Renames s (.drop .echo name) { s.names with echoes := s.names.echoes.erase name }
  | dropListeners (name : Text) :
      Renames s (.drop .listeners name) { s.names with registries := s.names.registries.erase name }
  | dropRouter (name : Text) : Renames s (.drop .router name) { s.names with routers := s.names.routers.erase name }
  | dropScope (name : Text) : Renames s (.drop .scope name) { s.names with scopes := s.names.scopes.erase name }
  | dropOutlet (name : Text) : Renames s (.drop .outlet name) { s.names with outlets := s.names.outlets.erase name }
  | dropLink (name : Text) : Renames s (.drop .link name) { s.names with links := s.names.links.erase name }
  | dropSubscription (name : Text) :
      Renames s (.drop .subscription name) { s.names with subscriptions := s.names.subscriptions.erase name }
  | dropCell (name : Text) : Renames s (.drop .state name) { s.names with cells := s.names.cells.erase name }
  | dropSnapshot (name : Text) :
      Renames s (.drop .snapshot name) { s.names with snapshots := s.names.snapshots.erase name }

/-- Every task changes the names of one kind at most, as it says. -/
theorem renames_perform (s : Session) (task : Task) : s.Renames task (s.perform task).names := by
  cases hnaming : task.isNaming with
  | false =>
    rw [names_perform s hnaming]
    exact .same task
  | true =>
    cases task with
    | openHistory name announces path =>
      cases announces with
      | false => exact .openMemory name path _
      | true => exact .openEcho name path _
    | openRegistry name => exact .openRegistry name _
    | openRouter name h routes =>
      rcases openRouter_names s name h routes with hnames | hnames <;> rw [perform, hnames]
      · exact .same _
      · exact .openRouter name h routes
    | openOutlet name r handler =>
      cases hregistry : s.registry? (.router r) with
      | none =>
        have hsame : s.perform (.openOutlet name r handler) = s := by simp only [perform, openOutlet, hregistry]
        rw [hsame]
        exact .same _
      | some observers =>
        obtain ⟨_, _, _, _, _, hnames⟩ := openOutlet_names hregistry name handler
        rw [perform, hnames]
        exact .openOutlet name r handler _
    | openCell name value handler => exact .openCell name value handler
    | nameRouter name r => exact .nameRouter name r
    | nameWeak name r => exact .nameWeak name r
    | nameSnapshot name id => exact .nameSnapshot name id
    | nameScope name scope => exact .nameScope name scope
    | nameLink name link => exact .nameLink name link
    | nameCell name c => exact .nameCell name c
    | subscribe name owner handler =>
      obtain ⟨_, hnames⟩ := subscribe_names s name owner handler
      rw [perform, hnames]
      exact .subscribe name owner handler _
    | detach name => exact .detach name
    | drop kind name =>
      cases kind with
      | memory => exact .dropMemory name
      | echo => exact .dropEcho name
      | listeners => exact .dropListeners name
      | router => exact .dropRouter name
      | scope => exact .dropScope name
      | outlet =>
        rcases names_dropOutlet s name with hnames | hnames <;> rw [perform, drop, hnames]
        · exact .same _
        · exact .dropOutlet name
      | link => exact .dropLink name
      | subscription =>
        rcases dropSubscription_names s name with hnames | hnames <;> rw [perform, drop, hnames]
        · exact .same _
        · exact .dropSubscription name
      | state => exact .dropCell name
      | snapshot => exact .dropSnapshot name
    | _ => cases hnaming

/-- There is one router more when one is made. -/
theorem length_routers_openRouter {h : Nat} {history : History} (hhistory : s.histories[h]? = some history) (name : Text)
    (routes : List Route) : (s.openRouter name h routes).routers.length = s.routers.length + 1 := by
  obtain ⟨logs, journal, heq⟩ := openRouter_eq hhistory name routes
  rw [heq]
  exact (length_routers_activate _ _ _).trans (List.length_append ..)

/-- A router that a name holds after a task was held by one before, or by the task, or was made by it. -/
theorem isNamed_perform (hs : Settled us s) (task : Task) (h : (s.perform task).IsNamed r) :
    s.IsNamed r ∨ r ∈ task.routers ∨ (r = s.routers.length ∧ r < (s.perform task).routers.length) := by
  have hexists : ∀ entry ∈ s.names.outlets, ∃ outlet, s.outlets[entry.2]? = some outlet :=
    fun entry he => (hs.named entry he).imp fun _ h => h.1
  have hbefore := h.before (p := r ∈ task.routers ∨ (r = s.routers.length ∧ r < (s.perform task).routers.length))
    (renews_perform s task) hexists
  have hsubset : (s.perform task).names.routers ⊆ s.names.routers → (s.perform task).names.scopes ⊆ s.names.scopes →
      (s.perform task).names.outlets ⊆ s.names.outlets → (s.perform task).names.links ⊆ s.names.links →
      s.IsNamed r ∨ r ∈ task.routers ∨ (r = s.routers.length ∧ r < (s.perform task).routers.length) :=
    fun hrouters hscopes houtlets hlinks =>
    hbefore (fun _ he => Or.inl (hrouters he)) (fun _ he => Or.inl (hscopes he)) (fun _ he => Or.inl (houtlets he))
      (fun _ he => Or.inl (hlinks he))
  have hrefl : ∀ {α : Type} (d : Directory α), d ⊆ d := fun d => List.Subset.refl d
  cases hnaming : task.isNaming with
  | false =>
    rw [names_perform s hnaming] at hsubset
    exact hsubset (hrefl _) (hrefl _) (hrefl _) (hrefl _)
  | true =>
    cases task with
    | openHistory name announces path => cases announces <;> exact hsubset (hrefl _) (hrefl _) (hrefl _) (hrefl _)
    | subscribe name owner handler =>
      obtain ⟨subscriptions, hnames⟩ := subscribe_names s name owner handler
      rw [perform, hnames] at hsubset
      exact hsubset (hrefl _) (hrefl _) (hrefl _) (hrefl _)
    | openRouter name k routes =>
      cases hhistory : s.histories[k]? with
      | none =>
        have hsame : s.perform (.openRouter name k routes) = s := by simp only [perform, openRouter, hhistory]
        exact Or.inl (hsame ▸ h)
      | some history =>
        have hnew : s.routers.length < (s.perform (.openRouter name k routes)).routers.length :=
          Nat.lt_of_succ_le (Nat.le_of_eq (length_routers_openRouter hhistory name routes).symm)
        obtain ⟨logs, journal, heq⟩ := openRouter_eq hhistory name routes
        have hnames : (s.perform (.openRouter name k routes)).names =
            { s.names with routers := s.names.routers.put name s.routers.length } := by rw [perform, heq]
        rw [hnames] at hbefore
        refine hbefore (fun entry he => ?_) (fun _ he => Or.inl he) (fun _ he => Or.inl he) (fun _ he => Or.inl he)
        refine (Directory.mem_put he).imp_right ?_
        rintro rfl rfl
        exact Or.inr ⟨rfl, hnew⟩
    | openOutlet name r' handler =>
      cases hregistry : s.registry? (.router r') with
      | none =>
        have hsame : s.perform (.openOutlet name r' handler) = s := by simp only [perform, openOutlet, hregistry]
        exact Or.inl (hsame ▸ h)
      | some observers =>
        obtain ⟨outlet, rfl, ho, outlets, hkept, hnames⟩ := openOutlet_names hregistry name handler
        rw [perform, hnames] at hbefore
        refine hbefore (fun _ he => Or.inl he) (fun _ he => Or.inl he) (fun entry he => ?_) (fun _ he => Or.inl he)
        refine (Directory.mem_put he).imp (fun he => hkept he) ?_
        rintro rfl outlet' ho' hr
        rw [ho] at ho'
        exact Or.inl (List.mem_singleton.2 (by rw [← hr, Option.some.inj ho']))
    | nameRouter name r' =>
      refine hbefore (fun entry he => ?_) (fun _ he => Or.inl he) (fun _ he => Or.inl he) (fun _ he => Or.inl he)
      refine (Directory.mem_put he).imp_right ?_
      rintro rfl rfl
      exact Or.inl (List.mem_singleton_self _)
    | nameScope name scope =>
      refine hbefore (fun _ he => Or.inl he) (fun entry he => ?_) (fun _ he => Or.inl he) (fun _ he => Or.inl he)
      refine (Directory.mem_put he).imp_right ?_
      rintro rfl hr
      exact Or.inl hr
    | nameLink name link =>
      refine hbefore (fun _ he => Or.inl he) (fun _ he => Or.inl he) (fun _ he => Or.inl he) (fun entry he => ?_)
      refine (Directory.mem_put he).imp_right ?_
      rintro rfl rfl
      exact Or.inl (List.mem_singleton_self _)
    | drop kind name =>
      cases kind with
      | router => exact hsubset (Directory.erase_subset _ _) (hrefl _) (hrefl _) (hrefl _)
      | scope => exact hsubset (hrefl _) (Directory.erase_subset _ _) (hrefl _) (hrefl _)
      | link => exact hsubset (hrefl _) (hrefl _) (hrefl _) (Directory.erase_subset _ _)
      | outlet =>
        rcases names_dropOutlet s name with hnames | hnames
        · rw [perform, drop, hnames] at hsubset
          exact hsubset (hrefl _) (hrefl _) (hrefl _) (hrefl _)
        · rw [perform, drop, hnames] at hsubset
          exact hsubset (hrefl _) (hrefl _) (Directory.erase_subset _ _) (hrefl _)
      | subscription =>
        rcases dropSubscription_names s name with hnames | hnames <;>
        · rw [perform, drop, hnames] at hsubset
          exact hsubset (hrefl _) (hrefl _) (hrefl _) (hrefl _)
      | _ => exact hsubset (hrefl _) (hrefl _) (hrefl _) (hrefl _)
    | _ => first | exact hsubset (hrefl _) (hrefl _) (hrefl _) (hrefl _) | cases hnaming

/-! ## Tasks -/

/-- What a task leads to holds only routers that it held or that are named, but for the listener of a router, which then
holds it, and for the answer of a step that makes a router. -/
theorem Leads.routers {task : Task} {new : List Task} (h : Leads s task new) (hcall : ∀ path, task ≠ .call (.follow r) path) :
    ∀ other ∈ new, r ∈ other.routers →
      s.IsNamed r ∨ r ∈ task.routers ∨ (r = s.routers.length ∧ other.isAnswer = true) := by
  have hfree : ∀ tasks : List Task, (∀ other ∈ tasks, other.routers ⊆ task.routers) → ∀ other ∈ tasks, r ∈ other.routers →
      s.IsNamed r ∨ r ∈ task.routers ∨ (r = s.routers.length ∧ other.isAnswer = true) :=
    fun tasks hsub other ht hr => Or.inr (Or.inl (hsub other ht hr))
  cases h with
  | nothing => exact fun _ ht => absurd ht List.not_mem_nil
  | command nested c =>
    intro other ht hr
    obtain ⟨htasks, hquery⟩ := holdsOnly_plan s c.step
    rcases List.mem_append.1 ht with ht | ht
    · exact Or.inl (htasks other ht r hr)
    · rw [List.mem_singleton.1 ht] at hr
      cases hplanned : (s.plan c.step).query with
      | error e =>
        rw [hplanned] at hr
        cases hr
      | ok query =>
        rw [hplanned] at hr
        refine (hquery query hplanned r hr).imp_right (fun heq => Or.inr ⟨heq, ?_⟩)
        rw [List.mem_singleton.1 ht]
        rfl
  | notified owner path => cases owner <;> exact hfree _ (by simp [Task.routers])
  | called owner entry later path => cases owner <;> exact hfree _ (by simp [Task.routers])
  | followed r' path =>
    intro other ht hr
    rw [List.mem_singleton.1 ht, Task.routers, List.mem_singleton] at hr
    exact absurd (by rw [hr]) (hcall path)
  | _ => exact hfree _ (by simp [Task.routers])

/-- A router that there is after a task was there before, or it is new and lives. -/
theorem lt_or_isAlive_perform (s : Session) (task : Task) (hr : r < (s.perform task).routers.length) :
    r < s.routers.length ∨ (s.perform task).isAlive r = true := by
  have hsame : (s.perform task).faces = s.faces → r < s.routers.length := by
    intro hfaces
    have hlength := congrArg List.length hfaces
    rw [faces, faces, List.length_map, List.length_map] at hlength
    omega
  cases hsteering : task.isSteering with
  | false => exact Or.inl (hsame (by rw [faces_eq_desks, faces_eq_desks, (desks_perform s hsteering).1]))
  | true =>
    cases task with
    | navigate r' path => exact Or.inl (hsame (faces_navigate s r' path).1)
    | drain r' => exact Or.inl (hsame (faces_drain s r').1)
    | resolve r' path =>
      refine Or.inl ?_
      change r < (s.resolve r' path).routers.length at hr
      unfold resolve at hr
      split at hr
      · exact hr
      · simp only [first, length_routers_activate] at hr
        exact hr
    | openRouter name h routes =>
      cases hhistory : s.histories[h]? with
      | none =>
        rw [perform, openRouter] at hr
        simp only [hhistory] at hr
        exact Or.inl hr
      | some history =>
        have hlives : (s.openRouter name h routes).isAlive s.routers.length = true := (shows_openRouter hhistory).2.1
        rcases Nat.lt_or_ge r s.routers.length with hlt | hge
        · exact Or.inl hlt
        · change r < (s.openRouter name h routes).routers.length at hr
          rw [length_routers_openRouter hhistory] at hr
          obtain rfl : r = s.routers.length := by omega
          exact Or.inr hlives
    | _ => cases hsteering

/-! ## Runs -/

/-- What ends held no router. -/
theorem isHeld_sweep : s.sweep.IsHeld r ↔ s.IsHeld r := by
  rw [← holdsRouter_iff, ← holdsRouter_iff]
  rfl

/-- Whether a name holds a router depends on names and on the outlets. -/
theorem IsNamed.congr (h : t.IsNamed r) (hnames : t.names = s.names) (houtlets : t.outlets = s.outlets) : s.IsNamed r := by
  cases h with
  | handle h => exact .handle (hnames ▸ h)
  | scope h hr => exact .scope (hnames ▸ h) hr
  | outlet h ho hr => exact .outlet (hnames ▸ h) (houtlets ▸ ho) hr
  | link h hr => exact .link (hnames ▸ h) hr

/-- A router that was there and is held after a task was held before or lived. -/
theorem isHeld_or_isAlive {task : Task} {rest : List Task} (hs : Settled us s) (hfirst : s.agenda = task :: rest)
    (hr : r < s.routers.length) (h : (({ s with agenda := rest } : Session).perform task).IsHeld r) :
    s.IsHeld r ∨ s.isAlive r = true := by
  have hpopped : Settled us { s with agenda := rest } := hs.keeps ⟨rfl, rfl, rfl, rfl, fun _ h => h⟩
  have hbefore : ({ s with agenda := rest } : Session).IsNamed r ∨ r ∈ task.routers ∨ r = s.routers.length → s.IsHeld r := by
    rintro (hnamed | hheld | rfl)
    · exact Or.inl (hnamed.congr rfl rfl)
    · exact Or.inr ⟨task, by rw [hfirst]; exact List.mem_cons_self .., hheld⟩
    · exact absurd hr (Nat.lt_irrefl _)
  have hrest : ∀ other ∈ rest, r ∈ other.routers → s.IsHeld r := fun other ht hheld =>
    Or.inr ⟨other, by rw [hfirst]; exact List.mem_cons_of_mem _ ht, hheld⟩
  rcases h with hnamed | ⟨other, ht, hheld⟩
  · exact Or.inl (hbefore ((isNamed_perform hpopped task hnamed).imp_right (Or.imp_right And.left)))
  · by_cases hcall : ∃ path, task = .call (.follow r) path
    · obtain ⟨path, rfl⟩ := hcall
      cases halive : s.isAlive r with
      | true => exact Or.inr rfl
      | false =>
        have hsame : ({ s with agenda := rest } : Session).perform (.call (.follow r) path) = { s with agenda := rest } := by
          have halive' : ({ s with agenda := rest } : Session).isAlive r = false := halive
          simp only [perform, call, halive', Bool.false_eq_true, if_false]
        rw [hsame] at ht
        exact Or.inl (hrest other ht hheld)
    · obtain ⟨new, hagenda, hleads⟩ := leads_perform { s with agenda := rest } task
      rw [hagenda] at ht
      rcases List.mem_append.1 ht with ht | ht
      · have hroutes := hleads.routers (fun path heq => hcall ⟨path, heq⟩) other ht hheld
        exact Or.inl (hbefore (hroutes.imp_right (Or.imp_right And.left)))
      · exact Or.inl (hrest other ht hheld)

/-- Along every regular run a router lives exactly as long as something holds it. -/
theorem RegularRun.isAlive_iff_isHeld (h : RegularRun inMemory Session.empty us t) (hr : r < t.routers.length) :
    t.isAlive r = true ↔ t.IsHeld r := by
  refine ⟨fun halive => holdsRouter_iff.1 (h.openRun.isTidy.routers r halive), fun hheld => ?_⟩
  induction h with
  | start => exact absurd hr (Nat.not_lt_zero r)
  | @step us l t t' hbefore hstep ih =>
    cases hstep with
    | own hown =>
      obtain ⟨task, rest, hfirst, rfl⟩ := (step?_eq_some_iff t t').1 hown
      have hheld' := isHeld_sweep.1 hheld
      rw [isAlive_sweep, holdsRouter_iff.2 hheld', Bool.and_true]
      have hlength : (({ t with agenda := rest } : Session).perform task).sweep.routers.length =
          (({ t with agenda := rest } : Session).perform task).routers.length := List.length_mapIdx
      rcases lt_or_isAlive_perform { t with agenda := rest } task (hlength ▸ hr) with hlt | hnew
      · rw [isAlive_perform _ _ hlt]
        exact (isHeld_or_isAlive hbefore.openRun.settled hfirst hlt hheld').elim (ih hlt) id
      · exact hnew
    | told c hidle =>
      refine ih hr ?_
      rcases hheld with hnamed | ⟨task, ht, hheld⟩
      · exact Or.inl (hnamed.congr rfl rfl)
      · rw [List.mem_singleton.1 ht] at hheld
        cases hheld
    | outside histories hvaries hsame pool hpool tasks htasks =>
      refine ih hr ?_
      rcases hheld with hnamed | ⟨task, ht, hheld⟩
      · exact Or.inl (hnamed.congr rfl rfl)
      · rcases List.mem_append.1 ht with ht | ht
        · cases htasks task ht <;> cases hheld
        · exact Or.inr ⟨task, ht, hheld⟩

/-- A router that ended is held by nothing. -/
theorem RegularRun.not_isHeld (h : RegularRun inMemory Session.empty us t) (hr : r < t.routers.length)
    (hgone : t.isAlive r = false) : ¬t.IsHeld r := by
  rw [← h.isAlive_iff_isHeld hr, hgone]
  exact Bool.false_ne_true

/-! ## What is held is there -/

/-- The routers that names hold are there, and so are those that tasks hold, but for the router that a step makes and
answers for. -/
structure HoldsKnown (s : Session) : Prop where
  named : ∀ r, s.IsNamed r → r < s.routers.length
  tasks : ∀ task ∈ s.agenda, task.isAnswer = false → ∀ r ∈ task.routers, r < s.routers.length

/-- A router that lives is there. -/
theorem lt_of_isAlive (h : s.isAlive r = true) : r < s.routers.length := by
  rw [isAlive] at h
  split at h
  · rename_i router hrouter
    exact (List.getElem?_eq_some_iff.1 hrouter).1
  · cases h

/-- A step holds routers that were there, or that it makes. -/
theorem HoldsKnown.step (h : s.HoldsKnown) (hs : Settled us s) (hstep : s.step? = some t) : t.HoldsKnown := by
  obtain ⟨task, rest, hfirst, rfl⟩ := (step?_eq_some_iff s t).1 hstep
  have hmono : ∀ r, r < s.routers.length → r < (({ s with agenda := rest } : Session).perform task).sweep.routers.length :=
    fun r hr => (renews_step hstep).known (.follow r) hr
  have hlength : (({ s with agenda := rest } : Session).perform task).sweep.routers.length =
      (({ s with agenda := rest } : Session).perform task).routers.length := List.length_mapIdx
  have htask : task.isAnswer = false → ∀ r ∈ task.routers, r < s.routers.length :=
    h.tasks task (by rw [hfirst]; exact List.mem_cons_self ..)
  refine ⟨fun r hr => ?_, fun other ht hanswer r hr => ?_⟩
  · have hnamed : (({ s with agenda := rest } : Session).perform task).IsNamed r := hr.congr rfl rfl
    cases hanswer : task.isAnswer with
    | true =>
      cases task with
      | answer nested word query =>
        refine hmono r (h.named r ?_)
        cases nested <;> exact hnamed.congr rfl rfl
      | _ => cases hanswer
    | false =>
      have hpopped : Settled us { s with agenda := rest } := hs.keeps ⟨rfl, rfl, rfl, rfl, fun _ h => h⟩
      rcases isNamed_perform hpopped task hnamed with hold | hheld | ⟨-, hnew⟩
      · exact hmono r (h.named r (hold.congr rfl rfl))
      · exact hmono r (htask hanswer r hheld)
      · exact hlength ▸ hnew
  · obtain ⟨new, hagenda, hleads⟩ := leads_perform { s with agenda := rest } task
    have ht' : other ∈ new ++ rest := hagenda ▸ ht
    rcases List.mem_append.1 ht' with hnew | hold
    · by_cases hcall : ∃ path, task = .call (.follow r) path
      · obtain ⟨path, rfl⟩ := hcall
        refine hmono r (lt_of_isAlive (s := { s with agenda := rest }) ?_)
        cases halive : ({ s with agenda := rest } : Session).isAlive r with
        | true => rfl
        | false =>
          simp only [perform, call, halive, Bool.false_eq_true, if_false, List.self_eq_append_left] at hagenda
          rw [hagenda] at hnew
          cases hnew
      · rcases hleads.routers (fun path heq => hcall ⟨path, heq⟩) other hnew hr with hnamed | hheld | ⟨-, hyes⟩
        · exact hmono r (h.named r (hnamed.congr rfl rfl))
        · refine hmono r (htask ?_ r hheld)
          cases hleads with
          | nothing => cases hnew
          | _ => rfl
        · rw [hanswer] at hyes
          cases hyes
    · exact hmono r (h.tasks other (by rw [hfirst]; exact List.mem_cons_of_mem _ hold) hanswer r hr)

/-- Along every regular run what is held is there. -/
theorem RegularRun.holdsKnown (h : RegularRun inMemory Session.empty us t) : t.HoldsKnown := by
  induction h with
  | start => exact ⟨fun r hr => by cases hr <;> simp_all [Session.empty, Names.empty], fun _ ht => absurd ht List.not_mem_nil⟩
  | @step us l t t' hbefore hstep ih =>
    cases hstep with
    | own hown => exact ih.step hbefore.openRun.settled hown
    | told c hidle =>
      refine ⟨fun r hr => ih.named r (hr.congr rfl rfl), fun task ht _ r hr => ?_⟩
      rw [List.mem_singleton.1 ht] at hr
      cases hr
    | outside histories hvaries hsame pool hpool tasks htasks =>
      refine ⟨fun r hr => ih.named r (hr.congr rfl rfl), fun task ht hanswer r hr => ?_⟩
      rcases List.mem_append.1 ht with ht | ht
      · cases htasks task ht <;> cases hr
      · exact ih.tasks task ht hanswer r hr

/-- So a name holds a router that lives. -/
theorem RegularRun.isAlive_of_isNamed (h : RegularRun inMemory Session.empty us t) (hr : t.IsNamed r) :
    t.isAlive r = true := (h.isAlive_iff_isHeld (h.holdsKnown.named r hr)).2 (Or.inl hr)

/-- So does a task, unless it answers. -/
theorem RegularRun.isAlive_of_mem_routers (h : RegularRun inMemory Session.empty us t) {task : Task} (ht : task ∈ t.agenda)
    (hanswer : task.isAnswer = false) (hr : r ∈ task.routers) : t.isAlive r = true :=
  (h.isAlive_iff_isHeld (h.holdsKnown.tasks task ht hanswer r hr)).2 (Or.inr ⟨task, ht, hr⟩)

end Session

end PathRouting
