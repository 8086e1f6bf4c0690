import PathRouting.Proofs.Recency

/-!
# Calls of loaders

The loader of a route is called when an outlet begins to show a match of it. Statements: nothing but rendering an outlet
calls a loader, and it is that of the match which is then active; what an outlet shows changes in renderings only, and so
an outlet calls the loader for each resolution once at most.
-/

namespace PathRouting

/-- The event reports the call of a loader. -/
def Event.isLoading : Event → Bool
  | .loading _ _ _ => true
  | _ => false

/-- The tasks that start loads, let them proceed, or drop them. -/
def Task.isLoading : Task → Bool
  | .render _ => true
  | .deliver _ _ => true
  | .poll => true
  | .dropPool => true
  | _ => false

namespace Session

variable {s t u : Session} {us vs : List Session} {o id r : Nat} {outlet : Outlet}

/-- The calls of loaders that were reported, the latest first. -/
def loadings (s : Session) : List Event := s.journal.filter Event.isLoading

/-- The outlet and the resolution that the first task calls a loader for. -/
def callsLoader? (s : Session) : Option (Nat × Nat) :=
  match s.agenda with
  | .render o :: _ => s.outlets[o]?.bind (fun outlet => (s.activeResolution? outlet.router).bind (fun id =>
      if outlet.shown = some id then none else (s.loaderOf? id).map (fun _ => (o, id))))
  | _ => none

/-- A loader is called in a render that comes upon an active resolution which the outlet does not show yet. -/
theorem callsLoader?_eq_some_iff : s.callsLoader? = some (o, id) ↔ ∃ rest outlet, s.agenda = .render o :: rest ∧
    s.outlets[o]? = some outlet ∧ s.activeResolution? outlet.router = some id ∧ outlet.shown ≠ some id ∧
      (s.loaderOf? id).isSome := by
  constructor
  · intro h
    unfold callsLoader? at h
    split at h
    · rename_i o' rest hfirst
      obtain ⟨outlet, ho, h⟩ := Option.bind_eq_some_iff.1 h
      obtain ⟨id', hactive, h⟩ := Option.bind_eq_some_iff.1 h
      split at h
      · cases h
      · rename_i hshown
        obtain ⟨loader, hloader, heq⟩ := Option.map_eq_some_iff.1 h
        obtain ⟨rfl, rfl⟩ := Prod.mk.inj heq
        exact ⟨rest, outlet, hfirst, ho, hactive, hshown, by rw [hloader]; rfl⟩
    · cases h
  · rintro ⟨rest, outlet, hfirst, ho, hactive, hshown, hloader⟩
    obtain ⟨loader, hloader⟩ := Option.isSome_iff_exists.1 hloader
    simp only [callsLoader?, hfirst, ho, Option.bind_some, hactive, if_neg hshown, hloader, Option.map_some]

/-! ## Tasks that leave loads alone -/

/-- The second session has the loads, deliveries and pool of the first, and no call of a loader was reported. -/
structure KeepsLoads (s t : Session) : Prop where
  loads : t.loads = s.loads
  deliveries : t.deliveries = s.deliveries
  pool : t.pool = s.pool
  loadings : t.loadings = s.loadings

theorem KeepsLoads.refl (s : Session) : KeepsLoads s s := ⟨rfl, rfl, rfl, rfl⟩

/-- What is kept twice is kept. -/
theorem KeepsLoads.trans (h : KeepsLoads s t) (h' : KeepsLoads t u) : KeepsLoads s u :=
  ⟨h'.loads.trans h.loads, h'.deliveries.trans h.deliveries, h'.pool.trans h.pool, h'.loadings.trans h.loadings⟩

/-- A report that is no call of a loader changes nothing about those. -/
theorem loadings_record {e : Event} (he : e.isLoading = false) (s : Session) : (s.record e).loadings = s.loadings := by
  simp [loadings, record, he]

/-- What is logged is no call of a loader. -/
theorem loadings_recordLogs (s : Session) (events : List LogEvent) : (s.recordLogs events).loadings = s.loadings := by
  have hlogs : (events.reverse.map Event.log).filter Event.isLoading = [] := by
    rw [List.filter_eq_nil_iff]
    intro e he
    obtain ⟨_, _, rfl⟩ := List.mem_map.1 he
    exact Bool.false_ne_true
  rw [loadings, recordLogs, List.filter_append, hlogs]
  rfl

/-- A report that is no call of a loader keeps outlets, loads and calls of loaders. -/
theorem keepsLoads_record {e : Event} (he : e.isLoading = false) (s : Session) : KeepsLoads s (s.record e) :=
  ⟨rfl, rfl, rfl, loadings_record he s⟩

/-- What is logged keeps outlets, loads and calls of loaders. -/
theorem keepsLoads_recordLogs (s : Session) (events : List LogEvent) : KeepsLoads s (s.recordLogs events) :=
  ⟨rfl, rfl, rfl, loadings_recordLogs s events⟩

/-- Who is registered makes no difference to loads. -/
theorem keepsLoads_withRegistry (s : Session) (owner : Owner) (f : Registry → Registry) :
    KeepsLoads s (s.withRegistry owner f) := by
  cases owner <;> exact ⟨rfl, rfl, rfl, rfl⟩

theorem keepsLoads_cancel (s : Session) (subscription : Subscription) : KeepsLoads s (s.cancel subscription) :=
  keepsLoads_withRegistry s _ _

/-- What becomes active makes no difference to the loads there are. -/
theorem keepsLoads_activate (s : Session) (r : Nat) (found : Option Match) : KeepsLoads s (s.activate r found) := by
  cases found <;> exact ⟨rfl, rfl, rfl, rfl⟩

/-- An outlet that is dropped keeps its loads. -/
theorem keepsLoads_dropOutlet (s : Session) (name : Text) : KeepsLoads s (s.dropOutlet name) := by
  unfold dropOutlet
  split
  · exact KeepsLoads.refl s
  · simp only
    split
    · exact ⟨rfl, rfl, rfl, rfl⟩
    · refine KeepsLoads.trans ?_ (keepsLoads_cancel _ _)
      exact ⟨rfl, rfl, rfl, rfl⟩

/-- Whatever is dropped, loads stay. -/
theorem keepsLoads_drop (s : Session) (kind : Kind) (name : Text) : KeepsLoads s (s.drop kind name) := by
  cases kind with
  | outlet => exact keepsLoads_dropOutlet s name
  | subscription =>
    change KeepsLoads s (s.dropSubscription name)
    unfold dropSubscription
    split
    · exact KeepsLoads.refl s
    · refine KeepsLoads.trans ?_ (keepsLoads_cancel _ _)
      exact ⟨rfl, rfl, rfl, rfl⟩
  | _ => exact ⟨rfl, rfl, rfl, rfl⟩

/-- A subscription makes no difference to loads. -/
theorem keepsLoads_subscribe (s : Session) (name : Text) (owner : Owner) (handler : Handler) :
    KeepsLoads s (s.subscribe name owner handler) := by
  have hhandler : KeepsLoads s (s.addHandler handler) := ⟨rfl, rfl, rfl, rfl⟩
  have hadded := hhandler.trans (keepsLoads_withRegistry _ owner (fun g => g.add (.handler s.handlers.length)))
  unfold subscribe
  split
  · exact KeepsLoads.refl s
  · simp only
    split
    · exact ⟨hadded.loads, hadded.deliveries, hadded.pool, hadded.loadings⟩
    · refine KeepsLoads.trans ?_ (keepsLoads_cancel _ _)
      exact ⟨hadded.loads, hadded.deliveries, hadded.pool, hadded.loadings⟩

/-- A new outlet has no loads yet. -/
theorem keepsLoads_openOutlet (s : Session) (name : Text) (r : Nat) (handler : Handler) :
    KeepsLoads s (s.openOutlet name r handler) := by
  cases hregistry : s.registry? (.router r) with
  | none =>
    simp only [openOutlet, hregistry]
    exact KeepsLoads.refl s
  | some observers =>
    have hmade : KeepsLoads s (s.addOutlet r observers.nextKey handler) := ⟨rfl, rfl, rfl, rfl⟩
    have hfreed := hmade.trans (keepsLoads_dropOutlet _ name)
    rw [openOutlet_eq hregistry]
    exact ⟨hfreed.loads, hfreed.deliveries, hfreed.pool, hfreed.loadings⟩

/-- A new router has been resolved, and nothing was loaded for it. -/
theorem keepsLoads_openRouter (s : Session) (name : Text) (h : Nat) (routes : List Route) :
    KeepsLoads s (s.openRouter name h routes) := by
  unfold openRouter
  split
  · exact KeepsLoads.refl s
  · rename_i history _
    let made : Router := ⟨routes, h, none, .empty, false, [], true⟩
    have hadded : KeepsLoads s { s with routers := s.routers ++ [made] } := ⟨rfl, rfl, rfl, rfl⟩
    have hlogged := hadded.trans (keepsLoads_recordLogs _
      (routes.mapIdx (fun i route => LogEvent.routeCompiled i route.pattern.display) ++
        [.routeResolved history.trail.current (Route.resolve routes history.trail.current).isSome]))
    have hactive := hlogged.trans (keepsLoads_activate _ s.routers.length (Route.resolve routes history.trail.current))
    have hlistening := hactive.trans (keepsLoads_withRegistry _ (.history h) (fun g => g.add (.follow s.routers.length)))
    refine KeepsLoads.trans ?_ (keepsLoads_recordLogs _ [.routerReady routes.length])
    exact ⟨hlistening.loads, hlistening.deliveries, hlistening.pool, hlistening.loadings⟩

/-- A callback that is called makes no difference to loads by itself. -/
theorem keepsLoads_call (s : Session) (callback : Callback) (path : Text) : KeepsLoads s (s.call callback path) := by
  have hreact : ∀ (u : Session) (index : Nat) (handler : Handler) (holds : Bool),
      KeepsLoads u (u.react index handler holds) := by
    intro u index handler holds
    unfold react
    split <;> exact ⟨rfl, rfl, rfl, rfl⟩
  cases callback with
  | follow r =>
    unfold call
    simp only
    split <;> exact ⟨rfl, rfl, rfl, rfl⟩
  | handler index =>
    change KeepsLoads s (s.callHandler index path)
    unfold callHandler
    split
    · exact KeepsLoads.refl s
    · split
      · exact (keepsLoads_record (by rfl) s).trans (hreact _ _ _ _)
      · exact (keepsLoads_record (by rfl) s).trans (hreact _ _ _ _)
      · exact (keepsLoads_record (by rfl) s).trans (hreact _ _ _ _)
      · split
        · exact (keepsLoads_record (by rfl) s).trans (hreact _ _ _ _)
        · exact KeepsLoads.refl s

/-- All other tasks leave loads alone and call no loader. -/
theorem keepsLoads_perform (s : Session) {task : Task} (h : task.isLoading = false) : KeepsLoads s (s.perform task) := by
  cases task with
  | script commands => cases commands <;> exact ⟨rfl, rfl, rfl, rfl⟩
  | answer nested word query =>
    cases nested with
    | false => exact ⟨rfl, rfl, rfl, rfl⟩
    | true => exact keepsLoads_record (by rfl) s
  | report events => exact keepsLoads_recordLogs s events
  | openHistory name announces path => cases announces <;> exact ⟨rfl, rfl, rfl, rfl⟩
  | openRouter name k routes => exact keepsLoads_openRouter s name k routes
  | openOutlet name r handler => exact keepsLoads_openOutlet s name r handler
  | subscribe name owner handler => exact keepsLoads_subscribe s name owner handler
  | drop kind name => exact keepsLoads_drop s kind name
  | push k path =>
    obtain ⟨_, _, heq⟩ := push_eq s k path
    rw [perform, heq]
    exact ⟨rfl, rfl, rfl, rfl⟩
  | move k onward =>
    obtain ⟨_, _, events, heq⟩ := move_eq s k onward
    rw [perform, heq]
    exact (keepsLoads_recordLogs s events).trans ⟨rfl, rfl, rfl, rfl⟩
  | round owner rest path => cases rest <;> exact ⟨rfl, rfl, rfl, rfl⟩
  | call callback path => exact keepsLoads_call s callback path
  | navigate r path =>
    obtain ⟨_, _, events, heq⟩ := navigate_eq s r path
    rw [perform, heq]
    exact (keepsLoads_recordLogs s events).trans ⟨rfl, rfl, rfl, rfl⟩
  | resolve r path =>
    obtain ⟨_, _, _, events, heq⟩ := resolve_eq s r path
    rw [perform, heq]
    exact (keepsLoads_recordLogs s events).trans ⟨rfl, rfl, rfl, rfl⟩
  | drain r =>
    obtain ⟨_, _, heq⟩ := drain_eq s r
    rw [perform, heq]
    exact ⟨rfl, rfl, rfl, rfl⟩
  | write c value =>
    obtain ⟨_, _, heq⟩ := write_eq s c value
    rw [perform, heq]
    exact ⟨rfl, rfl, rfl, rfl⟩
  | update c added =>
    obtain ⟨_, _, heq⟩ := write_eq s c ((s.valueOf c).combine added)
    rw [perform, update, heq]
    exact ⟨rfl, rfl, rfl, rfl⟩
  | render | deliver | poll | dropPool => cases h
  | _ => exact ⟨rfl, rfl, rfl, rfl⟩

/-! ## Rendering -/

/-- A load that is spawned leaves the outlets as they are. -/
theorem outlets_spawn (s : Session) (load : Load) : (s.spawn load).outlets = s.outlets := by
  unfold spawn
  split <;> rfl

/-- Spawning a load is no call of a loader. -/
theorem loadings_spawn (s : Session) (load : Load) : (s.spawn load).loadings = s.loadings := by
  unfold spawn
  split
  · exact loadings_recordLogs s _
  · rfl

/-- An outlet whose load begins shows nothing until the load ends. -/
theorem outlets_beginLoad (s : Session) (o id : Nat) (found : Match) (loader : Loader) :
    (s.beginLoad o id found loader).outlets = s.outlets.modify o (fun g => { g with slot := none }) := by
  unfold beginLoad
  simp only
  split <;> exact outlets_spawn _ _

/-- The call of a loader is reported. -/
theorem loadings_beginLoad (s : Session) (o id : Nat) (found : Match) (loader : Loader) :
    ∃ pending, (s.beginLoad o id found loader).loadings = .loading found.route found.params pending :: s.loadings := by
  unfold beginLoad
  simp only
  split
  · exact ⟨none, loadings_spawn _ _⟩
  · exact ⟨some s.deliveries.length, loadings_spawn _ _⟩

/-- A poll calls no loader. -/
theorem loadings_poll (s : Session) : s.poll.loadings = s.loadings := by
  have hfinish : ∀ (u : Session) (load : Load) (value : Props), (u.finish load value).loadings = u.loadings := by
    intro u load value
    unfold finish
    split
    · rfl
    · split
      · rfl
      · exact loadings_recordLogs u _
  unfold poll
  split
  · rfl
  · unfold proceed
    split
    · rfl
    · split
      · exact hfinish _ _ _
      · split
        · exact hfinish _ _ _
        · rfl

/-- What rendering an outlet does: nothing, or it begins to show the active resolution, and calls the loader if there is
one. -/
theorem render_cases (s : Session) (o : Nat) : s.render o = s ∨ ∃ outlet id resolution, s.outlets[o]? = some outlet ∧
    s.activeResolution? outlet.router = some id ∧ outlet.shown ≠ some id ∧ s.resolutions[id]? = some resolution ∧
    (s.loaderOf? id = none ∧ s.render o = (s.withOutlet o (fun g => { g with shown := some id })).withOutlet o
        (fun g => { g with slot := some (.ofParams resolution.found.params) }) ∨
      ∃ loader, s.loaderOf? id = some loader ∧
        s.render o = (s.withOutlet o (fun g => { g with shown := some id })).beginLoad o id resolution.found loader) := by
  unfold render
  split
  · exact Or.inl rfl
  · rename_i outlet ho
    split
    · exact Or.inl rfl
    · rename_i id hactive
      split
      · exact Or.inl rfl
      · rename_i hshown
        split
        · exact Or.inl rfl
        · rename_i resolution hresolution
          have hloader : s.loaderOf? id = (s.routeOf? resolution).bind (·.loader) := by
            rw [loaderOf?, hresolution]
            rfl
          refine Or.inr ⟨outlet, id, resolution, ho, hactive, hshown, hresolution, ?_⟩
          rw [hloader]
          simp only
          split
          · rename_i hnone
            exact Or.inl ⟨hnone, rfl⟩
          · rename_i loader hsome
            exact Or.inr ⟨loader, hsome, rfl⟩

/-- Where no loader is to be called none is. -/
theorem loadings_of_not_callsLoader (hnone : s.callsLoader? = none) (hstep : s.step? = some t) : t.loadings = s.loadings := by
  obtain ⟨task, rest, hfirst, rfl⟩ := (step?_eq_some_iff s t).1 hstep
  change (({ s with agenda := rest } : Session).perform task).loadings = _
  cases hloading : task.isLoading with
  | false => exact (keepsLoads_perform { s with agenda := rest } hloading).loadings
  | true =>
    cases task with
    | render o =>
      rcases render_cases { s with agenda := rest } o with hsame | ⟨outlet, id, resolution, ho, hactive, hshown, _,
        ⟨_, heq⟩ | ⟨loader, hloader, _⟩⟩
      · rw [perform, hsame]
        rfl
      · rw [perform, heq]
        rfl
      · have hcalls : s.callsLoader? = some (o, id) := callsLoader?_eq_some_iff.2
          ⟨rest, outlet, hfirst, ho, hactive, hshown, Option.isSome_iff_exists.2 ⟨loader, hloader⟩⟩
        rw [hnone] at hcalls
        cases hcalls
    | deliver n value =>
      obtain ⟨_, _, heq⟩ := deliver_eq { s with agenda := rest } n value
      rw [perform, heq]
      rfl
    | dropPool =>
      rw [perform, dropPool]
      split <;> rfl
    | poll => exact loadings_poll { s with agenda := rest }
    | _ => cases hloading

/-- Nothing but rendering an outlet calls a loader: that of the match which is active on the router of the outlet. -/
theorem loadings_of_callsLoader (hcalls : s.callsLoader? = some (o, id)) (hstep : s.step? = some t) :
    ∃ rest outlet resolution pending, s.agenda = .render o :: rest ∧ s.outlets[o]? = some outlet ∧
      s.activeResolution? outlet.router = some id ∧ s.resolutions[id]? = some resolution ∧
      t.loadings = .loading resolution.found.route resolution.found.params pending :: s.loadings := by
  obtain ⟨rest, outlet, hfirst, ho, hactive, hshown, hloader⟩ := callsLoader?_eq_some_iff.1 hcalls
  obtain ⟨loader, hloader⟩ := Option.isSome_iff_exists.1 hloader
  obtain ⟨resolution, hresolution, hroute⟩ := Option.bind_eq_some_iff.1 hloader
  obtain rfl := eq_of_step? hfirst hstep
  let popped : Session := { s with agenda := rest }
  have hbegun : popped.render o =
      (popped.withOutlet o (fun g => { g with shown := some id })).beginLoad o id resolution.found loader := by
    have ho' : popped.outlets[o]? = some outlet := ho
    have hactive' : popped.activeResolution? outlet.router = some id := hactive
    have hresolution' : popped.resolutions[id]? = some resolution := hresolution
    have hroute' : (popped.routeOf? resolution).bind (·.loader) = some loader := hroute
    simp only [render, ho', hactive', if_neg hshown, hresolution', hroute']
  obtain ⟨pending, hloadings⟩ := loadings_beginLoad (popped.withOutlet o (fun g => { g with shown := some id })) o id
    resolution.found loader
  refine ⟨rest, outlet, resolution, pending, hfirst, ho, hactive, hresolution, ?_⟩
  change (popped.render o).loadings = _
  rw [hbegun]
  exact hloadings

/-! ## What becomes of outlets -/

/-- The value of a load that applies is put into the slot of its outlet. -/
theorem outlets_poll (s : Session) : s.poll.outlets = s.outlets ∨
    ∃ o value, s.poll.outlets = s.outlets.modify o (fun g => { g with slot := some value }) := by
  have hfinish : ∀ (u : Session) (load : Load) (value : Props), (u.finish load value).outlets = u.outlets ∨
      ∃ o v, (u.finish load value).outlets = u.outlets.modify o (fun g => { g with slot := some v }) := by
    intro u load value
    unfold finish
    split
    · exact Or.inl rfl
    · split
      · exact Or.inr ⟨load.outlet, value, rfl⟩
      · exact Or.inl rfl
  unfold poll
  split
  · exact Or.inl rfl
  · unfold proceed
    split
    · exact Or.inl rfl
    · split
      · exact hfinish _ _ _
      · split
        · exact hfinish _ _ _
        · exact Or.inl rfl

/-- An outlet that is rendered shows the active resolution, with a slot of its own for it. -/
theorem outlets_render (s : Session) (o : Nat) : (s.render o).outlets = s.outlets ∨
    ∃ outlet id slot, s.outlets[o]? = some outlet ∧ s.activeResolution? outlet.router = some id ∧
      (s.render o).outlets = s.outlets.modify o (fun g => { g with shown := some id, slot := slot }) := by
  rcases render_cases s o with hsame | ⟨outlet, id, resolution, ho, hactive, _, _, ⟨_, heq⟩ | ⟨loader, _, heq⟩⟩
  · exact Or.inl (by rw [hsame])
  · refine Or.inr ⟨outlet, id, some (.ofParams resolution.found.params), ho, hactive, ?_⟩
    rw [heq]
    exact List.modify_modify_eq ..
  · refine Or.inr ⟨outlet, id, none, ho, hactive, ?_⟩
    rw [heq, outlets_beginLoad]
    exact List.modify_modify_eq ..

/-- A new outlet comes behind those that are there. -/
theorem outlets_openOutlet (s : Session) (name : Text) (r : Nat) (handler : Handler) :
    s.outlets <+: (s.openOutlet name r handler).outlets := by
  cases hregistry : s.registry? (.router r) with
  | none => simp only [openOutlet, hregistry, List.prefix_rfl]
  | some observers =>
    rw [openOutlet_eq hregistry]
    change s.outlets <+: ((s.addOutlet r observers.nextKey handler).dropOutlet name).outlets
    rw [(keeps_dropOutlet _ name).outlets]
    exact List.prefix_append _ _

end Session

/-- The tasks that make outlets, and those that change them. -/
def Task.isPresenting : Task → Bool
  | .openOutlet _ _ _ => true
  | .render _ => true
  | .poll => true
  | _ => false

namespace Session

variable {s t u : Session} {us vs : List Session} {o id r : Nat} {outlet : Outlet}

/-- All other tasks leave the outlets as they are. -/
theorem outlets_perform (s : Session) {task : Task} (h : task.isPresenting = false) :
    (s.perform task).outlets = s.outlets := by
  cases hquiet : task.isQuiet with
  | true => exact (keeps_perform s hquiet).outlets
  | false =>
    cases task with
    | openRouter name k routes =>
      cases hhistory : s.histories[k]? with
      | none => simp only [perform, openRouter, hhistory]
      | some history =>
        obtain ⟨_, _, heq⟩ := openRouter_eq hhistory name routes
        rw [perform, heq]
        exact (activate_parts _ _ _).2.2.1
    | navigate r path => exact (alike_navigate s r path).outlets
    | resolve r path =>
      obtain ⟨_, _, _, _, heq⟩ := resolve_eq s r path
      rw [perform, heq]
      rfl
    | drain r => exact (alike_drain s r).outlets
    | openOutlet | render | poll => cases h
    | _ => cases hquiet

/-! ## What outlets show -/

/-- What the outlets show: their routers, and the resolutions that they last began to show. -/
def showings (s : Session) : List (Nat × Option Nat) := s.outlets.map (fun g => (g.router, g.shown))

/-- Rendering an outlet changes what it shows, if anything, to the active resolution. -/
theorem showings_render (s : Session) (o : Nat) : (s.render o).showings = s.showings ∨
    ∃ outlet id, s.outlets[o]? = some outlet ∧ s.activeResolution? outlet.router = some id ∧
      (s.render o).showings = s.showings.modify o (fun g => (g.1, some id)) := by
  rcases outlets_render s o with hsame | ⟨outlet, id, slot, ho, hactive, heq⟩
  · exact Or.inl (by rw [showings, showings, hsame])
  · refine Or.inr ⟨outlet, id, ho, hactive, ?_⟩
    rw [showings, heq]
    exact map_modify (f := fun g : Outlet => { g with shown := some id, slot := slot })
      (g := fun g : Outlet => (g.router, g.shown)) (fun _ => rfl) s.outlets o

/-- Only renderings change what outlets show. -/
theorem showings_perform (s : Session) {task : Task} (h : ∀ o, task ≠ .render o) :
    s.showings <+: (s.perform task).showings := by
  have hsame : ∀ outlets : List Outlet, outlets.map (fun g => (g.router, g.shown)) = s.showings → s.showings <+:
      outlets.map (fun g => (g.router, g.shown)) := by
    intro outlets heq
    simp only [heq, List.prefix_rfl]
  cases hpresenting : task.isPresenting with
  | false => exact hsame _ (by rw [outlets_perform s hpresenting]; rfl)
  | true =>
    cases task with
    | openOutlet name r handler => exact List.IsPrefix.map _ (outlets_openOutlet s name r handler)
    | render o => exact absurd rfl (h o)
    | poll =>
      refine hsame _ ?_
      rcases outlets_poll s with heq | ⟨o, value, heq⟩
      · exact congrArg (List.map _) heq
      · rw [perform, heq]
        exact map_modify_of_forall (f := fun g : Outlet => { g with slot := some value }) (fun _ => rfl) s.outlets o
    | _ => cases hpresenting

/-- What an outlet shows after a step it showed before, or it is the active resolution. -/
theorem showings_step (hstep : s.step? = some t) {shown : Option Nat} (ho : s.showings[o]? = some (r, shown)) :
    t.showings[o]? = some (r, shown) ∨ ∃ id, s.activeResolution? r = some id ∧ t.showings[o]? = some (r, some id) := by
  obtain ⟨task, rest, hfirst, rfl⟩ := (step?_eq_some_iff s t).1 hstep
  change (({ s with agenda := rest } : Session).perform task).showings[o]? = _ ∨ ∃ id, _ ∧
    (({ s with agenda := rest } : Session).perform task).showings[o]? = _
  by_cases hrender : ∃ o', task = .render o'
  · obtain ⟨o', rfl⟩ := hrender
    rcases showings_render { s with agenda := rest } o' with hsame | ⟨outlet, id, ho', hactive, hshown⟩
    · rw [perform, hsame]
      exact Or.inl ho
    · rw [perform, hshown, List.getElem?_modify]
      change ((fun a => _) <$> s.showings[o]?) = _ ∨ ∃ id, _ ∧ ((fun a => _) <$> s.showings[o]?) = _
      rw [ho]
      by_cases hoo : o' = o
      · subst hoo
        have hr : r = outlet.router := by
          have hget : s.showings[o']? = some (outlet.router, outlet.shown) := by
            rw [showings, List.getElem?_map]
            exact congrArg (Option.map _) ho'
          exact congrArg Prod.fst (Option.some.inj (ho.symm.trans hget))
        exact Or.inr ⟨id, hr ▸ hactive, by simp⟩
      · exact Or.inl (by simp [hoo])
  · have hother : ∀ o', task ≠ .render o' := fun o' heq => hrender ⟨o', heq⟩
    obtain ⟨new, hnew⟩ := showings_perform { s with agenda := rest } hother
    refine Or.inl ?_
    rw [← hnew]
    exact getElem?_append_of_some ho new

/-! ## Runs -/

/-- If the resolution is active on the router of the outlet, the outlet shows it, and it was there before. -/
def ShowsIfActive (s : Session) (o id : Nat) : Prop :=
  ∃ r shown, s.showings[o]? = some (r, shown) ∧ r < s.routers.length ∧ id < s.resolutions.length ∧
    (s.activeResolution? r = some id → shown = some id)

/-- An outlet goes on to show a resolution if that is active, since what becomes active is a new one, or none. -/
theorem ShowsIfActive.step (h : s.ShowsIfActive o id) (hstep : s.step? = some t) : t.ShowsIfActive o id := by
  obtain ⟨r, shown, ho, hr, hid, hshown⟩ := h
  have hr' : r < t.routers.length := (renews_step hstep).known (.follow r) hr
  have hid' : id < t.resolutions.length := Nat.lt_of_lt_of_le hid (resolutions_step hstep).length_le
  cases hresolves : s.resolves r with
  | true =>
    obtain ⟨found, hfound⟩ := activeResolution?_step_of_resolves hresolves hr hstep
    have hother : t.activeResolution? r ≠ some id := by
      rw [hfound]
      intro hsame
      obtain ⟨_, _, rfl⟩ := Option.map_eq_some_iff.1 hsame
      exact Nat.lt_irrefl _ hid
    rcases showings_step hstep ho with ho' | ⟨_, _, ho'⟩
    · exact ⟨r, shown, ho', hr', hid', fun hactive => absurd hactive hother⟩
    · exact ⟨r, _, ho', hr', hid', fun hactive => absurd hactive hother⟩
  | false =>
    have hsame := activeResolution?_step hr hresolves hstep
    rcases showings_step hstep ho with ho' | ⟨id', hactive', ho'⟩
    · exact ⟨r, shown, ho', hr', hid', fun hactive => hshown (hsame ▸ hactive)⟩
    · exact ⟨r, _, ho', hr', hid', fun hactive => hactive' ▸ hsame ▸ hactive⟩

/-- Once it has called a loader for a resolution an outlet shows this. -/
theorem showsIfActive_of_callsLoader (hs : Settled us s) (h : s.callsLoader? = some (o, id)) (hstep : s.step? = some t) :
    t.ShowsIfActive o id := by
  obtain ⟨rest, outlet, hfirst, ho, hactive, -, -⟩ := callsLoader?_eq_some_iff.1 h
  obtain ⟨found, hfound⟩ := hs.active _ id hactive
  have hr := (hs.outlets o outlet ho).1
  have hid : id < s.resolutions.length := (List.getElem?_eq_some_iff.1 hfound).1
  have hpopped : Settled us { s with agenda := rest } := hs.keeps ⟨rfl, rfl, rfl, rfl, fun _ h => h⟩
  obtain ⟨outlet', ho', hrouter, hshown⟩ := hpopped.shown_render ho hactive
  refine ⟨outlet.router, some id, ?_, (renews_step hstep).known (.follow _) hr,
    Nat.lt_of_lt_of_le hid (resolutions_step hstep).length_le, fun _ => rfl⟩
  obtain rfl := eq_of_step? hfirst hstep
  change ((render _ o).outlets.map _)[o]? = _
  rw [List.getElem?_map, ho', Option.map_some, hrouter, hshown]

/-- No loader is called for what an outlet shows already. -/
theorem ShowsIfActive.callsLoader?_ne (h : s.ShowsIfActive o id) : s.callsLoader? ≠ some (o, id) := by
  obtain ⟨r, shown, ho, _, _, hshown⟩ := h
  intro hcalls
  obtain ⟨rest, outlet, hfirst, ho', hactive, hne, -⟩ := callsLoader?_eq_some_iff.1 hcalls
  rw [showings, List.getElem?_map, ho'] at ho
  obtain ⟨rfl, rfl⟩ := Prod.mk.inj (Option.some.inj ho)
  exact hne (hshown hactive)

/-- Along every run an outlet that has called the loader for a resolution shows this for as long as it is active. -/
theorem OpenRun.showsIfActive (h : OpenRun Session.empty us t) (hu : u ∈ us) (hcalls : u.callsLoader? = some (o, id)) :
    t.ShowsIfActive o id := by
  induction h with
  | start => cases hu
  | @step us l t t' hbefore hstep ih =>
    cases hstep with
    | own hown =>
      rcases List.mem_cons.1 hu with rfl | hu
      · exact showsIfActive_of_callsLoader hbefore.settled hcalls hown
      · exact (ih hu).step hown
    | told c hidle => exact ih hu
    | outside histories hvaries pool hpool tasks htasks => exact ih hu

/-- Along every run an outlet calls the loader for a resolution once at most. -/
theorem OpenRun.countP_callsLoader (h : OpenRun Session.empty us t) (o id : Nat) :
    us.countP (fun u => u.callsLoader? = some (o, id)) ≤ 1 := by
  induction h with
  | start => exact Nat.zero_le 1
  | @step us l t t' hbefore hstep ih =>
    cases hstep with
    | own hown =>
      rw [List.singleton_append]
      by_cases hcalls : t.callsLoader? = some (o, id)
      · have hnone : us.countP (fun u => u.callsLoader? = some (o, id)) = 0 := by
          rw [List.countP_eq_zero]
          intro u hu hcalled
          exact (hbefore.showsIfActive hu (of_decide_eq_true hcalled)).callsLoader?_ne hcalls
        exact Nat.le_of_eq (by rw [List.countP_cons, hnone, decide_eq_true hcalls, if_pos rfl])
      · rw [List.countP_cons, decide_eq_false hcalls, if_neg Bool.false_ne_true]
        exact ih
    | told c hidle => exact ih
    | outside histories hvaries pool hpool tasks htasks => exact ih

end Session

end PathRouting
