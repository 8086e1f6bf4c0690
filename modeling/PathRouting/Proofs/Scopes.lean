import PathRouting.Proofs.ObserverKeys

/-!
# Scopes and the routers that they provide

A scope resolves to the router of the nearest scope on its way to the root that provides one. Statements: this is what every
step with the name of a scope works on; a name stands for its scope until it is given to another one or taken away, and all
routers of its scope live meanwhile; an outlet that is made observes the router; and a step that is refused changes nothing.
-/

namespace PathRouting

namespace Scope

/-- The scope and those above it, up to the root, each with the router that it provides, if it provides one. -/
def way : Scope → List (Option Nat)
  | root => [none]
  | child parent => none :: parent.way
  | provide parent router => some router :: parent.way

/-- The router is that of the nearest scope on the way to the root that provides one. -/
def IsNearest (scope : Scope) (r : Nat) : Prop :=
  ∃ before after, scope.way = before ++ some r :: after ∧ ∀ provided ∈ before, provided = none

variable {scope : Scope} {r : Nat}

/-- The router of a scope is the first on its way to the root. -/
theorem router?_eq_findSome? (scope : Scope) : scope.router? = scope.way.findSome? id := by
  induction scope with
  | root => rfl
  | child parent ih => exact ih
  | provide parent router _ => rfl

/-- A scope resolves to the router of the nearest scope that provides one. -/
theorem router?_eq_some_iff : scope.router? = some r ↔ scope.IsNearest r := by
  rw [router?_eq_findSome?, List.findSome?_eq_some_iff]
  constructor
  · rintro ⟨before, provided, after, hway, rfl, hnone⟩
    exact ⟨before, after, hway, hnone⟩
  · rintro ⟨before, after, hway, hnone⟩
    exact ⟨before, some r, after, hway, rfl, hnone⟩

/-- A scope provides no router if none is nearest to it. -/
theorem router?_eq_none_iff : scope.router? = none ↔ ∀ r, ¬scope.IsNearest r := by
  simp only [Option.eq_none_iff_forall_ne_some, Ne, router?_eq_some_iff]

end Scope

namespace Session

variable {s t : Session} {us : List Session} {name : Text} {scope : Scope} {r : Nat} {inMemory : Nat → Prop}

/-! ## Steps with the name of a scope -/

/-- The name of a scope leads to a router that lives: it is what the step that asks for a router answers, what an outlet is
made of, and what a link navigates. -/
structure Provides (s : Session) (name : Text) (r : Nat) : Prop where
  alive : s.isAlive r = true
  router : s.plan (.scopeRouter (.given name)) = .reply (s.providerAnswer r)
  use : ∀ consumer, s.plan (.useRouter (.given name) (.given consumer)) = .reply (s.providerAnswer r)
  outlet : ∀ id reaction handler, s.pool.phase = .idle → handlerOf id .invalidated reaction = .ok handler →
    s.plan (.newOutlet (.given id) (.given name) reaction) = .act (.openOutlet id r handler)
  link : ∀ id path, s.plan (.newLink (.given id) (.given name) (.given path)) = .act (.nameLink id ⟨r, path⟩)

/-- The name of a scope leads to no router, and what needs one is refused with its own name. -/
structure ProvidesNone (s : Session) (name : Text) : Prop where
  router : s.plan (.scopeRouter (.given name)) = .reply .nothing
  use : ∀ consumer, s.plan (.useRouter (.given name) (.given consumer)) = .refuse (.missingContext consumer)
  outlet : ∀ id reaction handler, s.pool.phase = .idle → handlerOf id .invalidated reaction = .ok handler →
    s.plan (.newOutlet (.given id) (.given name) reaction) = .refuse (.missingContext (Text.ofString "RouterOutlet"))
  link : ∀ id path, s.plan (.newLink (.given id) (.given name) (.given path)) =
    .refuse (.missingContext (Text.ofString "RouterLink"))

/-- The name of a scope can be used to make others: a child, one more name for it, and a child that provides a router. -/
structure Grows (s : Session) (name : Text) (scope : Scope) : Prop where
  child : ∀ id, s.plan (.newChild (.given id) (.given name)) = .act (.nameScope id (.child scope))
  clone : ∀ id, s.plan (.cloneScope (.given id) (.given name)) = .act (.nameScope id scope)
  provide : ∀ id router r found, s.lookUpRouter router = .ok (r, found) →
    s.plan (.provide (.given id) (.given name) router) = .act (.nameScope id (.provide scope r))

/-- A name that is bound to a scope is looked up as it. -/
theorem lookUpScope_given (h : s.names.scopes.get? name = some scope) : s.lookUpScope (.given name) = .ok scope := by
  have hfind : s.names.scopes.find name = .ok scope := by rw [Directory.find, h]
  exact hfind

/-- A scope that has a name can be used and grown. -/
theorem grows_of_get? (h : s.names.scopes.get? name = some scope) : s.Grows name scope where
  child := fun id => by
    rw [plan, planned, lookUpScope_given h]
    rfl
  clone := fun id => by
    rw [plan, planned, lookUpScope_given h]
    rfl
  provide := fun id router r found hfound => by
    rw [plan, planned, lookUpScope_given h, hfound]
    rfl

/-- An idle pool is to be had. -/
theorem needPool_of_idle (h : s.pool.phase = .idle) : s.needPool = .ok () := if_pos h

/-- A scope with a router on its way provides it to outlets and links. -/
theorem provides_of_router? (h : s.names.scopes.get? name = some scope) (hr : scope.router? = some r)
    (halive : s.isAlive r = true) : s.Provides name r where
  alive := halive
  router := by
    rw [plan, planned, lookUpScope_given h]
    simp only [bind, Except.bind, hr, pure, Except.pure]
  use := fun consumer => by
    rw [plan, planned, lookUpScope_given h]
    simp only [bind, Except.bind, Field.need, needProvided, hr, pure, Except.pure]
  outlet := fun id reaction handler hpool hhandler => by
    rw [plan, planned, lookUpScope_given h, needPool_of_idle hpool]
    simp only [bind, Except.bind, Field.need, hhandler, needProvided, hr, pure, Except.pure]
  link := fun id path => by
    rw [plan, planned, lookUpScope_given h]
    simp only [bind, Except.bind, Field.need, needProvided, hr, pure, Except.pure]

/-- A scope without a router on its way refuses outlets and links. -/
theorem providesNone_of_router? (h : s.names.scopes.get? name = some scope) (hr : scope.router? = none) :
    s.ProvidesNone name where
  router := by
    rw [plan, planned, lookUpScope_given h]
    simp only [bind, Except.bind, hr, pure, Except.pure]
  use := fun consumer => by
    rw [plan, planned, lookUpScope_given h]
    simp only [bind, Except.bind, Field.need, needProvided, hr]
  outlet := fun id reaction handler hpool hhandler => by
    rw [plan, planned, lookUpScope_given h, needPool_of_idle hpool]
    simp only [bind, Except.bind, Field.need, hhandler, needProvided, hr]
  link := fun id path => by
    rw [plan, planned, lookUpScope_given h]
    simp only [bind, Except.bind, Field.need, needProvided, hr]

end Session

/-- The task gives the name to a scope, or takes it away. -/
def Task.rebindsScope (name : Text) : Task → Bool
  | .nameScope other _ => other == name
  | .drop .scope other => other == name
  | _ => false

namespace Session

variable {s t : Session} {us : List Session} {name : Text} {scope : Scope} {r : Nat} {inMemory : Nat → Prop}

/-! ## Names of scopes -/

/-- The first task gives the name to a scope, or takes it away. -/
def RebindsScope (s : Session) (name : Text) : Prop := s.agenda.head?.any (Task.rebindsScope name) = true

instance (s : Session) (name : Text) : Decidable (s.RebindsScope name) := inferInstanceAs (Decidable (_ = true))

/-- All other tasks leave what the name stands for as it is. -/
theorem get?_scopes_perform (s : Session) {task : Task} (h : task.rebindsScope name = false) :
    (s.perform task).names.scopes.get? name = s.names.scopes.get? name := by
  have hrenames := renames_perform s task
  generalize (s.perform task).names = names at hrenames ⊢
  cases hrenames with
  | nameScope other scope => exact Directory.get?_put _ (Ne.symm (beq_eq_false_iff_ne.1 h)) scope
  | dropScope other => exact Directory.get?_erase _ (Ne.symm (beq_eq_false_iff_ne.1 h))
  | _ => rfl

/-- A name stands for its scope until it is given to another one or taken away. -/
theorem RegularRun.get?_scopes (h : RegularRun inMemory s us t) (hnot : ∀ u ∈ us, ¬u.RebindsScope name) :
    t.names.scopes.get? name = s.names.scopes.get? name := by
  induction h with
  | start => rfl
  | @step us l t t' _ hstep ih =>
    have hsame := ih (fun u hu => hnot u (List.mem_append_right _ hu))
    cases hstep with
    | own hown =>
      obtain ⟨task, rest, hfirst, rfl⟩ := (step?_eq_some_iff t t').1 hown
      have hother := hnot t (List.mem_append_left _ (List.mem_singleton_self t))
      rw [RebindsScope, hfirst, Bool.not_eq_true] at hother
      exact (get?_scopes_perform { t with agenda := rest } hother).trans hsame
    | told c hidle => exact hsame
    | outside histories hvaries hsame' pool hpool tasks htasks => exact hsame

/-! ## Outlets and refusals -/

/-- A router that is alive has a registry. -/
theorem exists_registry?_of_isAlive (h : s.isAlive r = true) : ∃ observers, s.registry? (.router r) = some observers := by
  rw [isAlive] at h
  cases hrouter : s.routers[r]? with
  | none =>
    rw [hrouter] at h
    cases h
  | some router =>
    simp only [hrouter] at h
    exact ⟨router.observers, by simp only [hrouter, registry?, h, if_true]⟩

/-- What observes a router that lives is called in its rounds. -/
theorem Observes.mem_callbacks {key : Nat} {callback : Callback} (h : s.Observes r key callback)
    (halive : s.isAlive r = true) : (key, callback) ∈ s.callbacks (.router r) := by
  obtain ⟨panel, hpanel, hmem⟩ := h
  obtain ⟨observers, hregistry⟩ := exists_registry?_of_isAlive halive
  obtain rfl := Option.some.inj (hpanel.symm.trans (panel_of_registry hregistry))
  rw [callbacks, hregistry]
  exact hmem

/-- An outlet that is about to be made is made, and observes its router. -/
theorem RegularRun.observes_openOutlet (h : RegularRun inMemory Session.empty us t) {id : Text} {handler : Handler}
    {rest : List Task} (hfirst : t.agenda = .openOutlet id r handler :: rest) :
    ∃ v outlet, t.step? = some v ∧ v.names.outlets.get? id = some t.outlets.length ∧
      v.outlets[t.outlets.length]? = some outlet ∧ outlet.router = r ∧
      (outlet.observerKey, .handler outlet.handler) ∈ v.callbacks (.router r) := by
  have hmem : .openOutlet id r handler ∈ t.agenda := hfirst ▸ List.mem_cons_self ..
  have halive : t.isAlive r = true := h.isAlive_of_mem_routers hmem rfl (List.mem_singleton_self r)
  obtain ⟨observers, hregistry⟩ := exists_registry?_of_isAlive halive
  have hstep := (step?_eq_some_iff t _).2 ⟨_, rest, hfirst, rfl⟩
  have hopens : t.OpensOutlet t.outlets.length := ⟨id, r, handler, rest, observers, hfirst, hregistry, rfl⟩
  obtain ⟨_, outlet, houtlet, -, hwatches⟩ := hopens.exists_watches h.openRun.settled h.openRun.numbered hstep
  have hregistry' : registry? { t with agenda := rest } (.router r) = some observers := hregistry
  obtain ⟨made, hrouter, hmade, outlets, -, hnames⟩ := openOutlet_names hregistry' id handler
  obtain rfl : made = outlet := Option.some.inj (hmade.symm.trans houtlet)
  have hnamed : (({ t with agenda := rest } : Session).openOutlet id r handler).sweep.names.outlets.get? id =
      some t.outlets.length := by
    change (({ t with agenda := rest } : Session).openOutlet id r handler).names.outlets.get? id = _
    rw [hnames]
    exact Directory.get?_put_self ..
  refine ⟨_, made, hstep, hnamed, houtlet, hrouter, ?_⟩
  rw [hrouter] at hwatches
  exact hwatches.observes.mem_callbacks ((h.step (.own hstep)).isAlive_of_isNamed
    (.outlet (Directory.mem_of_get? hnamed) houtlet hrouter))

/-- A step that is refused does nothing but answer. -/
theorem steps_of_refuse (h : s.IsTidy) {nested : Bool} {c : Command} {rest : List Task} {e : StepError}
    (hfirst : s.agenda = .command nested c :: rest) (hplan : s.plan c.step = .refuse e) :
    s.step? = some { s with agenda := .answer nested c.word (.error e) :: rest } ∧
      ({ s with agenda := .answer nested c.word (.error e) :: rest } : Session).step? =
        some (({ s with agenda := rest } : Session).respond nested c.word (.error e)) := by
  have hpopped : IsTidy { s with agenda := rest } := h.popped hfirst ⟨rfl, rfl, rfl⟩
  have hplan' : ({ s with agenda := rest } : Session).plan c.step = .refuse e := hplan
  have hasked : IsTidy { s with agenda := .answer nested c.word (.error e) :: rest } :=
    hpopped.mono rfl rfl (fun _ g hg => ⟨g, hg, rfl, rfl⟩) rfl rfl (fun task ht => Or.inr (List.mem_cons_of_mem _ ht))
  have hanswered : IsTidy (({ s with agenda := rest } : Session).respond nested c.word (.error e)) := by
    cases nested <;>
      exact hpopped.mono rfl rfl (fun _ g hg => ⟨g, hg, rfl, rfl⟩) rfl rfl (fun task ht => Or.inr ht)
  refine ⟨(step?_eq_some_iff s _).2 ⟨_, rest, hfirst, ?_⟩, (step?_eq_some_iff _ _).2 ⟨_, rest, rfl, hanswered.sweep_eq.symm⟩⟩
  rw [perform, command, hplan']
  exact hasked.sweep_eq.symm

/-- An answer leaves all callbacks as they are. -/
theorem callbacks_respond (s : Session) (agenda : List Task) (nested : Bool) (word : Option Text)
    (query : Except StepError Query) (owner : Owner) :
    (({ s with agenda := agenda } : Session).respond nested word query).callbacks owner = s.callbacks owner := by
  cases nested <;> cases owner <;> rfl

/-- A root `a`, a child `b` of it that provides the router `r`, and a child `c` of that. -/
def scopesMade : Session :=
  (((finishTasks 9 routerAsked).doStep 9 (.mk none (.newRoot (given "a")))).doStep 9
    (.mk none (.provide (given "b") (given "a") (given "r")))).doStep 9 (.mk none (.newChild (given "c") (given "b")))

/-- The scopes of the example are made in a run. -/
theorem exists_regularRun_scopesMade : ∃ us, RegularRun (fun _ => True) empty us scopesMade := by
  have hhistory : ∃ us, RegularRun (fun _ => True) empty us historyAtRoot :=
    exists_regularRun_doStep ⟨[], RegularRun.start⟩ rfl 9 _
  obtain ⟨us, hus⟩ := hhistory
  have hmade : ∃ us, RegularRun (fun _ => True) empty us (finishTasks 9 routerAsked) :=
    ⟨_, ((hus.step (RegularStep.told makeRouter rfl)).goOn 2).goOn 9⟩
  exact exists_regularRun_doStep (exists_regularRun_doStep (exists_regularRun_doStep hmade rfl 9 _) rfl 9 _) rfl 9 _

/-- The name of the router is taken away. -/
def routerUnnamed : Command := .mk none (.drop (.given .router) (given "r"))

end Session

end PathRouting
