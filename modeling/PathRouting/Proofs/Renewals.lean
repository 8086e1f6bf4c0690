import PathRouting.Proofs.Places

/-!
# Callbacks stay where they are

Whatever a session does next renews it: a task never moves a callback to another place and never brings one back, and each
new handler and router gets its place when it is made. Statements: so it is for every task, for every step and in every run,
in which each callback is therefore registered at its place at most, and a callback that is registered was so ever since it
was known.
-/

namespace PathRouting

namespace Session

variable {s t : Session} {callback : Callback}

/-! ## Tasks that make nothing new -/

/-- A subscription that is cancelled takes a callback from its place, and brings none anywhere. -/
theorem renews_cancel (s : Session) (subscription : Subscription) : Renews s (s.cancel subscription) := by
  have hcallbacks : ∀ owner, ((s.cancel subscription).callbacks owner).Sublist (s.callbacks owner) := by
    intro owner
    rw [callbacks_cancel]
    split
    · exact List.filter_sublist
    · exact List.Sublist.refl _
  obtain ⟨owner, key⟩ := subscription
  cases owner with
  | router r => exact Renews.of_sublist hcallbacks rfl (List.length_modify ..) rfl rfl
  | _ => exact Renews.of_sublist hcallbacks rfl rfl rfl rfl

/-- Routers that end take their listeners from their places, and nothing else moves. -/
theorem renews_sweep (s : Session) : Renews s s.sweep :=
  Renews.of_sublist (callbacks_sweep s) rfl (List.length_mapIdx ..) rfl rfl

/-- A router that is observed as before and lives as before has the same callbacks, and so have all others. -/
theorem callbacks_withRouter {f : Router → Router} (hf : ∀ g, (f g).observers = g.observers ∧ (f g).alive = g.alive)
    (s : Session) (r : Nat) (owner : Owner) : (s.withRouter r f).callbacks owner = s.callbacks owner := by
  have hviews := map_modify_of_forall (g := fun g : Router => (g.observers, g.alive))
    (fun g => Prod.ext (hf g).1 (hf g).2) s.routers r
  exact callbacks_congr (s := s) (t := s.withRouter r f) rfl rfl hviews owner

/-- A router that is observed as before and lives as before leaves every callback at its place. -/
theorem renews_withRouter {f : Router → Router} (hf : ∀ g, (f g).observers = g.observers ∧ (f g).alive = g.alive)
    (s : Session) (r : Nat) : Renews s (s.withRouter r f) := by
  refine Renews.of_sublist (fun owner => ?_) rfl (List.length_modify ..) rfl rfl
  rw [callbacks_withRouter hf s r owner]

/-- A history that is listened to as before and lives as before leaves every callback at its place. -/
theorem renews_withHistory {f : History → History} (hf : ∀ g, (f g).listeners = g.listeners ∧ (f g).alive = g.alive)
    (s : Session) (h : Nat) : Renews s (s.withHistory h f) := by
  have hviews := map_modify_of_forall (g := fun g : History => (g.listeners, g.alive))
    (fun g => Prod.ext (hf g).1 (hf g).2) s.histories h
  refine Renews.of_sublist (fun owner => ?_) rfl rfl rfl rfl
  rw [callbacks_congr (s := s) (t := s.withHistory h f) hviews rfl rfl owner]

/-- An outlet that keeps its seat leaves every callback at its place. -/
theorem renews_withOutlet {f : Outlet → Outlet} (hf : ∀ g, (f g).seat = g.seat) (s : Session) (o : Nat) :
    Renews s (s.withOutlet o f) :=
  Renews.of_sublist (fun _ => List.Sublist.refl _) rfl rfl rfl (map_modify_of_forall hf s.outlets o)

/-- Resolutions change nothing about who is registered, and who there is. -/
theorem callbacks_activate (s : Session) (r : Nat) (found : Option Match) (owner : Owner) :
    (s.activate r found).callbacks owner = s.callbacks owner := by
  cases found with
  | none => exact callbacks_withRouter (f := fun g => { g with active := none }) (fun _ => ⟨rfl, rfl⟩) s r owner
  | some m =>
    exact callbacks_withRouter (f := fun g => { g with active := some s.resolutions.length }) (fun _ => ⟨rfl, rfl⟩)
      { s with resolutions := s.resolutions ++ [⟨r, m⟩] } r owner

/-- What becomes active changes neither handlers, cells and outlets nor who listens to a history. -/
theorem activate_parts (s : Session) (r : Nat) (found : Option Match) :
    (s.activate r found).handlers = s.handlers ∧ (s.activate r found).cells = s.cells ∧
      (s.activate r found).outlets = s.outlets ∧
      ∀ h, registry? (s.activate r found) (.history h) = s.registry? (.history h) := by
  cases found <;> exact ⟨rfl, rfl, rfl, fun _ => rfl⟩

/-- What becomes active makes no router. -/
theorem length_routers_activate (s : Session) (r : Nat) (found : Option Match) :
    (s.activate r found).routers.length = s.routers.length := by
  cases found <;> exact List.length_modify ..

/-- What becomes active moves no callback. -/
theorem renews_activate (s : Session) (r : Nat) (found : Option Match) : Renews s (s.activate r found) := by
  have hcallbacks : ∀ owner, ((s.activate r found).callbacks owner).Sublist (s.callbacks owner) := by
    intro owner
    rw [callbacks_activate]
  have hrouters := length_routers_activate s r found
  cases found <;> exact Renews.of_sublist hcallbacks rfl hrouters rfl rfl

/-- The callback of an outlet that is dropped goes from the observers, and stays that of the outlet. -/
theorem renews_dropOutlet (s : Session) (name : Text) : Renews s (s.dropOutlet name) := by
  unfold dropOutlet
  split
  · exact renews_refl s
  · have herased : Renews s { s with names := { s.names with outlets := s.names.outlets.erase name } } :=
      Renews.of_wiring rfl
    simp only
    split
    · exact herased
    · exact herased.trans (renews_cancel _ _)

/-- Whatever is dropped, callbacks are taken away at most. -/
theorem renews_drop (s : Session) (kind : Kind) (name : Text) : Renews s (s.drop kind name) := by
  cases kind with
  | outlet => exact renews_dropOutlet s name
  | subscription =>
    change Renews s (s.dropSubscription name)
    unfold dropSubscription
    split
    · exact renews_refl s
    · have hforgotten : Renews s (s.forgetSubscription name) := Renews.of_wiring rfl
      exact hforgotten.trans (renews_cancel _ _)
  | _ => exact Renews.of_wiring rfl

/-- A new history has no listeners yet. -/
theorem renews_openHistory (s : Session) (name : Text) (announces : Bool) (path : Text) :
    Renews s (s.openHistory name announces path) := by
  have hcallbacks : ∀ owner, (s.openHistory name announces path).callbacks owner = s.callbacks owner := by
    intro owner
    cases owner with
    | history h =>
      rw [callbacks_history, callbacks_history]
      exact entries_append_singleton rfl s.histories h
    | bare b => rfl
    | router r => rfl
  cases announces <;> exact Renews.of_eq hcallbacks rfl rfl rfl rfl

/-- A new registry has no callbacks yet. -/
theorem renews_openRegistry (s : Session) (name : Text) : Renews s (s.openRegistry name) := by
  refine Renews.of_eq ?_ rfl rfl rfl rfl
  intro owner
  cases owner with
  | bare b =>
    rw [callbacks_bare, callbacks_bare]
    exact entries_append_singleton rfl s.registries b
  | history h => rfl
  | router r => rfl

/-- An entry that is pushed moves no callback. -/
theorem renews_push (s : Session) (h : Nat) (path : Text) : Renews s (s.push h path) := by
  have hpushed := renews_withHistory (f := fun g => { g with trail := g.trail.push path }) (fun _ => ⟨rfl, rfl⟩) s h
  unfold push
  split
  · exact renews_refl s
  · simp only
    split
    · exact hpushed.trans (Renews.of_wiring rfl)
    · exact hpushed

/-- A move of a history moves no callback. -/
theorem renews_move (s : Session) (h : Nat) (onward : Bool) : Renews s (s.move h onward) := by
  unfold move
  split
  · exact renews_refl s
  · rename_i trail _
    have hmoved := renews_withHistory (f := fun g => { g with trail := trail }) (fun _ => ⟨rfl, rfl⟩) s h
    exact hmoved.trans (Renews.of_wiring rfl)

/-- A path that is resolved moves no callback. -/
theorem renews_resolve (s : Session) (r : Nat) (path : Text) : Renews s (s.resolve r path) := by
  unfold resolve
  split
  · exact renews_refl s
  · rename_i router _
    have hlogged : Renews s (s.recordLogs [.routeResolved path (Route.resolve router.routes path).isSome]) :=
      Renews.of_wiring rfl
    exact (hlogged.trans (renews_activate _ r _)).trans (Renews.of_wiring rfl)

/-- A navigation moves no callback, whether it begins or is queued. -/
theorem renews_navigate (s : Session) (r : Nat) (path : Text) : Renews s (s.navigate r path) := by
  unfold navigate
  split
  · exact renews_refl s
  · split
    · have hlogged : Renews s (s.recordLogs [.navigationQueued path]) := Renews.of_wiring rfl
      exact hlogged.trans (renews_withRouter (f := fun g => { g with queue := g.queue ++ [path] }) (fun _ => ⟨rfl, rfl⟩)
        _ r)
    · have hbegun := renews_withRouter (f := fun g => { g with navigating := true }) (fun _ => ⟨rfl, rfl⟩) s r
      exact hbegun.trans (Renews.of_wiring rfl)

/-- A navigation that was queued moves no callback as it begins. -/
theorem renews_drain (s : Session) (r : Nat) : Renews s (s.drain r) := by
  unfold drain
  split
  · exact renews_refl s
  · split
    · exact renews_withRouter (f := fun g => { g with navigating := false }) (fun _ => ⟨rfl, rfl⟩) s r
    · rename_i later _
      have hgone := renews_withRouter (f := fun g => { g with queue := later }) (fun _ => ⟨rfl, rfl⟩) s r
      exact hgone.trans (Renews.of_wiring rfl)

/-- A handler that is called counts the runs of its script, and stays where it is. -/
theorem renews_callHandler (s : Session) (index : Nat) (path : Text) : Renews s (s.callHandler index path) := by
  have hreact : ∀ (e : Event) (handler : Handler) (holds : Bool), Renews s ((s.record e).react index handler holds) := by
    intro e handler holds
    unfold react
    split
    · exact Renews.of_eq (fun _ => rfl) (List.length_modify ..) rfl rfl rfl
    · exact Renews.of_wiring rfl
  unfold callHandler
  split
  · exact renews_refl s
  · split
    · exact hreact _ _ _
    · exact hreact _ _ _
    · exact hreact _ _ _
    · split
      · exact hreact _ _ _
      · exact renews_refl s

/-- A callback that is called stays where it is. -/
theorem renews_call (s : Session) (callback : Callback) (path : Text) : Renews s (s.call callback path) := by
  cases callback with
  | handler index => exact renews_callHandler s index path
  | follow r =>
    unfold call
    simp only
    split
    · exact Renews.of_wiring rfl
    · exact renews_refl s

/-- A load that begins is no callback. -/
theorem renews_spawn (s : Session) (load : Load) : Renews s (s.spawn load) := by
  unfold spawn
  split <;> exact Renews.of_wiring rfl

/-- An outlet keeps its seat when it is rendered. -/
theorem renews_render (s : Session) (o : Nat) : Renews s (s.render o) := by
  unfold render
  split
  · exact renews_refl s
  · split
    · exact renews_refl s
    · rename_i id _
      split
      · exact renews_refl s
      · split
        · exact renews_refl s
        · rename_i resolution _
          have hshowing := renews_withOutlet (f := fun g => { g with shown := some id }) (fun _ => rfl) s o
          simp only
          split
          · exact hshowing.trans (renews_withOutlet
              (f := fun g => { g with slot := some (.ofParams resolution.found.params) }) (fun _ => rfl) _ o)
          · have hemptied := hshowing.trans (renews_withOutlet (f := fun g => { g with slot := none }) (fun _ => rfl) _ o)
            unfold beginLoad
            simp only
            split
            · refine Renews.trans ?_ (renews_spawn _ _)
              exact hemptied.trans (Renews.of_wiring rfl)
            · refine Renews.trans ?_ (renews_spawn _ _)
              exact hemptied.trans (Renews.of_wiring rfl)

/-- An outlet keeps its seat when the value of a load is applied to it. -/
theorem renews_poll (s : Session) : Renews s s.poll := by
  have hfinish : ∀ (u : Session) (load : Load) (value : Props), Renews u (u.finish load value) := by
    intro u load value
    unfold finish
    split
    · exact renews_refl u
    · split
      · have happlied := renews_withOutlet (f := fun g => { g with slot := some value }) (fun _ => rfl) u load.outlet
        exact happlied.trans (Renews.of_wiring rfl)
      · exact Renews.of_wiring rfl
  unfold poll
  split
  · exact Renews.of_wiring rfl
  · rename_i id later _
    have htaken : Renews s (({ s with pool := ⟨.running, later, []⟩ } : Session).first [.poll]) :=
      Renews.of_wiring rfl
    refine htaken.trans ?_
    unfold proceed
    split
    · exact renews_refl _
    · split
      · exact hfinish _ _ _
      · split
        · exact hfinish _ _ _
        · exact Renews.of_wiring rfl

/-- A cell keeps its handler when it is written. -/
theorem renews_write (s : Session) (c : Nat) (value : Props) : Renews s (s.write c value) := by
  unfold write
  split
  · exact renews_refl s
  · exact Renews.of_sublist (fun _ => List.Sublist.refl _) rfl rfl
      (map_modify_of_forall (f := fun g : Cell => { g with value := value }) (fun _ => rfl) s.cells c) rfl

/-! ## Tasks that make something new -/

/-- If just one handler was made, it is the only new callback. -/
theorem isNew_iff_of_handler (hhandlers : t.handlers.length = s.handlers.length + 1)
    (hrouters : t.routers.length = s.routers.length) :
    IsNew s t callback ↔ callback = .handler s.handlers.length := by
  cases callback with
  | handler index =>
    simp only [IsNew, Callback.IsKnown, hhandlers, Callback.handler.injEq]
    omega
  | follow r => simp [IsNew, Callback.IsKnown, hrouters]

/-- If just one router was made, its listener is the only new callback. -/
theorem isNew_iff_of_follow (hhandlers : t.handlers.length = s.handlers.length)
    (hrouters : t.routers.length = s.routers.length + 1) :
    IsNew s t callback ↔ callback = .follow s.routers.length := by
  cases callback with
  | handler index => simp [IsNew, Callback.IsKnown, hhandlers]
  | follow r =>
    simp only [IsNew, Callback.IsKnown, hrouters, Callback.follow.injEq]
    omega

/-- Where one callback is new, the others are as they were and it has got its place, all is in order. -/
theorem Renews.of_new (callback : Callback) (owner : Owner) (key : Nat)
    (hhandlers : s.handlers.length ≤ t.handlers.length) (hrouters : s.routers.length ≤ t.routers.length)
    (hnew : ∀ other, IsNew s t other ↔ other = callback)
    (hcallbacks : ∀ owner', (t.callbacks owner').Sublist
      (s.callbacks owner' ++ if owner' = owner then [(key, callback)] else []))
    (hcells : ∀ (c : Nat) (cell : Cell), t.cells[c]? = some cell → s.cells[c]? = some cell ∨
      callback = .handler cell.handler)
    (houtlets : ∀ (o : Nat) (outlet : Outlet), t.outlets[o]? = some outlet → s.outlets[o]? = some outlet ∨
      callback = .handler outlet.handler)
    (hseats : s.outlets.map Outlet.seat <+: t.outlets.map Outlet.seat)
    (hplace : s.KeepsTo callback none → ∃ place, t.KeepsTo callback (some place)) : Renews s t := by
  have hcallback : IsNew s t callback := (hnew callback).2 rfl
  refine ⟨?_, ?_, ?_, ?_, hseats, ?_⟩
  · intro other hother
    cases other with
    | handler index => exact Nat.lt_of_lt_of_le hother hhandlers
    | follow r => exact Nat.lt_of_lt_of_le hother hrouters
  · intro owner'
    refine ⟨_, hcallbacks owner', ?_⟩
    intro entry he
    split at he
    · rw [List.mem_singleton.1 he]
      exact hcallback
    · cases he
  · intro c cell hc
    exact (hcells c cell hc).imp (fun hs => ⟨cell, hs, rfl⟩) (fun hhandler => (hnew _).2 hhandler.symm)
  · intro o outlet ho
    exact (houtlets o outlet ho).imp (fun hs => ⟨outlet, hs, rfl⟩) (fun hhandler => (hnew _).2 hhandler.symm)
  · intro other hother hnone
    obtain rfl := (hnew other).1 hother
    exact hplace hnone

/-- A callback that was nowhere is registered where it was added, and at most there. -/
theorem KeepsTo.sublist_entries (h : s.KeepsTo callback none) {seat : Place} {owner : Owner} {key : Nat}
    (hseat : seat.seat? = some (owner, key)) (hcallbacks : ∀ owner', (t.callbacks owner').Sublist
      (s.callbacks owner' ++ if owner' = owner then [(key, callback)] else [])) (owner' : Owner) :
    ((t.callbacks owner').filter (fun entry => entry.2 = callback)).Sublist
      (Place.entries (some seat) callback owner') := by
  have hfilter := (hcallbacks owner').filter (fun entry => entry.2 = callback)
  have hnone : (s.callbacks owner').filter (fun entry => entry.2 = callback) = [] :=
    List.sublist_nil.1 (h.callbacks owner')
  rw [List.filter_append, hnone, List.nil_append] at hfilter
  refine hfilter.trans ?_
  simp only [Place.entries, Option.bind_some, hseat, eq_comm (a := owner')]
  exact List.filter_sublist

/-- The session with a new handler registered with an owner. -/
def enrol (s : Session) (owner : Owner) (handler : Handler) : Session :=
  (s.addHandler handler).withRegistry owner (fun g => g.add (.handler s.handlers.length))

/-- To register a handler makes the handler, and no router. -/
theorem enrol_lengths (s : Session) (owner : Owner) (handler : Handler) :
    (s.enrol owner handler).handlers.length = s.handlers.length + 1 ∧
      (s.enrol owner handler).routers.length = s.routers.length := by
  cases owner with
  | router r => exact ⟨List.length_append, List.length_modify ..⟩
  | _ => exact ⟨List.length_append, rfl⟩

/-- To register a handler changes neither cells nor outlets. -/
theorem enrol_cells_outlets (s : Session) (owner : Owner) (handler : Handler) :
    (s.enrol owner handler).cells = s.cells ∧ (s.enrol owner handler).outlets = s.outlets := by
  cases owner <;> exact ⟨rfl, rfl⟩

/-- A handler that is registered comes last with its owner, under the next key, and nobody else gets a callback. -/
theorem callbacks_enrol {owner : Owner} {registry : Registry} (hregistry : s.registry? owner = some registry)
    (handler : Handler) (owner' : Owner) : (s.enrol owner handler).callbacks owner' =
      s.callbacks owner' ++ if owner' = owner then [(registry.nextKey, .handler s.handlers.length)] else [] := by
  have hregistry' : registry? (s.addHandler handler) owner = some registry := by
    cases owner <;> exact hregistry
  have hcallbacks : (s.addHandler handler).callbacks owner' = s.callbacks owner' := by
    cases owner' <;> rfl
  rw [enrol, callbacks_add, hregistry', hcallbacks]
  rfl

/-- A new handler that is registered with an owner has its place there. -/
theorem keepsTo_enrol (h : s.KeepsTo (.handler s.handlers.length) none) {owner : Owner} {registry : Registry}
    (hregistry : s.registry? owner = some registry) (handler : Handler) :
    (s.enrol owner handler).KeepsTo (.handler s.handlers.length) (some (.registry owner registry.nextKey)) where
  callbacks := h.sublist_entries rfl (fun owner' => by rw [callbacks_enrol hregistry handler owner'])
  cells := by
    intro c cell hc hhandler
    rw [(enrol_cells_outlets s owner handler).1] at hc
    cases h.cells c cell hc hhandler
  outlets := by
    intro o outlet ho hhandler
    rw [(enrol_cells_outlets s owner handler).2] at ho
    cases h.outlets o outlet ho hhandler

/-- A handler that is registered is new, and its place is the one where it is registered. -/
theorem renews_enrol {owner : Owner} {registry : Registry} (hregistry : s.registry? owner = some registry)
    (handler : Handler) : Renews s (s.enrol owner handler) := by
  obtain ⟨hhandlers, hrouters⟩ := enrol_lengths s owner handler
  obtain ⟨hcells, houtlets⟩ := enrol_cells_outlets s owner handler
  refine Renews.of_new _ _ _ (hhandlers ▸ Nat.le_succ _) (Nat.le_of_eq hrouters.symm)
    (fun _ => isNew_iff_of_handler hhandlers hrouters)
    (fun owner' => by rw [callbacks_enrol hregistry handler owner']) ?_ ?_ ?_
    (fun hnone => ⟨_, keepsTo_enrol hnone hregistry handler⟩)
  · exact fun _ _ hc => Or.inl (hcells ▸ hc)
  · exact fun _ _ ho => Or.inl (houtlets ▸ ho)
  · simp only [houtlets, List.prefix_rfl]

/-- Once the handler is registered, a subscription gets its name, and at most another one is cancelled. -/
theorem renews_subscribe_of_enrol {owner : Owner} {registry : Registry} (hregistry : s.registry? owner = some registry)
    (name : Text) (handler : Handler) : Renews (s.enrol owner handler) (s.subscribe name owner handler) := by
  let stored : Session := { s.enrol owner handler with names := { (s.enrol owner handler).names with
    subscriptions := (s.enrol owner handler).names.subscriptions.put name ⟨owner, registry.nextKey⟩ } }
  have hstored : Renews (s.enrol owner handler) stored := Renews.of_wiring rfl
  unfold subscribe
  simp only [hregistry]
  split
  · exact hstored
  · exact hstored.trans (renews_cancel stored _)

/-- A subscription brings one new handler to its place, if its owner lives. -/
theorem renews_subscribe (s : Session) (name : Text) (owner : Owner) (handler : Handler) :
    Renews s (s.subscribe name owner handler) := by
  cases hregistry : s.registry? owner with
  | none =>
    simp only [subscribe, hregistry]
    exact renews_refl s
  | some registry => exact (renews_enrol hregistry handler).trans (renews_subscribe_of_enrol hregistry name handler)

/-- An outlet has its place where it observes its router. -/
theorem renews_addOutlet {r : Nat} {observers : Registry} (hregistry : s.registry? (.router r) = some observers)
    (handler : Handler) (outlet : Outlet) (hseat : outlet.seat = (r, observers.nextKey, s.handlers.length)) :
    Renews s { s.enrol (.router r) handler with outlets := (s.enrol (.router r) handler).outlets ++ [outlet] } := by
  obtain ⟨hhandlers, hrouters⟩ := enrol_lengths s (.router r) handler
  obtain ⟨hrouter, hkey, hhandler⟩ : outlet.router = r ∧ outlet.observerKey = observers.nextKey ∧
      outlet.handler = s.handlers.length := by simpa only [Outlet.seat, Prod.mk.injEq] using hseat
  have hcallbacks : ∀ owner', ((s.enrol (.router r) handler).callbacks owner').Sublist (s.callbacks owner' ++
      if owner' = .router r then [(observers.nextKey, .handler s.handlers.length)] else []) := by
    intro owner'
    rw [callbacks_enrol hregistry handler owner']
  refine Renews.of_new _ _ _ (hhandlers ▸ Nat.le_succ _) (Nat.le_of_eq hrouters.symm)
    (fun _ => isNew_iff_of_handler hhandlers hrouters) hcallbacks
    (fun _ _ hc => Or.inl hc) ?_ (List.IsPrefix.map Outlet.seat (List.prefix_append ..)) ?_
  · intro o g ho
    exact (getElem?_append_singleton_cases ho).imp_right (fun hg => by rw [hg.2, hhandler])
  · intro hnone
    refine ⟨.outlet s.outlets.length r observers.nextKey, ?_, ?_, ?_⟩
    · exact hnone.sublist_entries rfl hcallbacks
    · intro c cell hc hcell
      cases hnone.cells c cell hc hcell
    · intro o g ho hg
      rcases getElem?_append_singleton_cases ho with hold | ⟨rfl, rfl⟩
      · cases hnone.outlets o g hold hg
      · rw [hrouter, hkey]
        rfl

/-- The session with a new outlet that observes a router. -/
def addOutlet (s : Session) (r key : Nat) (handler : Handler) : Session :=
  { s.enrol (.router r) handler with
    outlets := (s.enrol (.router r) handler).outlets ++ [⟨r, key, none, none, s.handlers.length⟩] }

/-- The session with a name for an outlet, whatever the name stood for. -/
def nameOutlet (s : Session) (name : Text) (o : Nat) : Session :=
  { s with names := { s.names with outlets := s.names.outlets.put name o } }

/-- An outlet is made, the outlet of the same name is dropped, and the name is given to the new one. -/
theorem openOutlet_eq {r : Nat} {observers : Registry} (hregistry : s.registry? (.router r) = some observers) (name : Text)
    (handler : Handler) : s.openOutlet name r handler =
      ((s.addOutlet r observers.nextKey handler).dropOutlet name).nameOutlet name s.outlets.length := by
  simp only [openOutlet, hregistry]
  rfl

/-- An outlet brings one new handler to its place, if its router lives. -/
theorem renews_openOutlet (s : Session) (name : Text) (r : Nat) (handler : Handler) :
    Renews s (s.openOutlet name r handler) := by
  cases hregistry : s.registry? (.router r) with
  | none =>
    simp only [openOutlet, hregistry]
    exact renews_refl s
  | some observers =>
    have hmade := renews_addOutlet hregistry handler ⟨r, observers.nextKey, none, none, s.handlers.length⟩ rfl
    have hfreed := hmade.trans (renews_dropOutlet _ name)
    rw [openOutlet_eq hregistry]
    exact hfreed.trans (Renews.of_wiring rfl)

/-- A cell brings one new handler, which is registered nowhere. -/
theorem renews_openCell (s : Session) (name : Text) (value : Props) (handler : Handler) :
    Renews s (s.openCell name value handler) := by
  have hhandlers : (s.openCell name value handler).handlers.length = s.handlers.length + 1 := List.length_append
  have hcallbacks : ∀ owner, (s.openCell name value handler).callbacks owner = s.callbacks owner := fun _ => rfl
  refine Renews.of_new _ (.bare 0) 0 (hhandlers ▸ Nat.le_succ _) (Nat.le_refl _)
    (fun _ => isNew_iff_of_handler hhandlers rfl) ?_ ?_ (fun _ _ ho => Or.inl ho) (List.prefix_refl _) ?_
  · intro owner
    rw [hcallbacks]
    exact List.sublist_append_left _ _
  · intro c cell hc
    exact (getElem?_append_singleton_cases hc).imp_right (fun hcell => by rw [hcell.2])
  · intro hnone
    refine ⟨.cell s.cells.length, hnone.callbacks, ?_, ?_⟩
    · intro c cell hc hcell
      rcases getElem?_append_singleton_cases hc with hold | ⟨rfl, _⟩
      · cases hnone.cells c cell hold hcell
      · rfl
    · intro o outlet ho houtlet
      cases hnone.outlets o outlet ho houtlet

/-- A router brings its listener to its history. -/
theorem renews_openRouter (s : Session) (name : Text) (h : Nat) (routes : List Route) :
    Renews s (s.openRouter name h routes) := by
  unfold openRouter
  split
  · exact renews_refl s
  · rename_i history _
    let added : Session := { s with routers := s.routers ++ [⟨routes, h, none, .empty, false, [], true⟩] }
    let found := Route.resolve routes history.trail.current
    let resolved := (added.recordLogs (routes.mapIdx (fun i route => LogEvent.routeCompiled i route.pattern.display) ++
      [LogEvent.routeResolved history.trail.current found.isSome])).activate s.routers.length found
    have hadded : ∀ owner, added.callbacks owner = s.callbacks owner := by
      intro owner
      cases owner with
      | router r =>
        rw [callbacks_router, callbacks_router]
        exact entries_append_singleton rfl s.routers r
      | history h => rfl
      | bare b => rfl
    let listening := resolved.withRegistry (.history h) (fun g => g.add (.follow s.routers.length))
    obtain ⟨hhandlers, hcells, houtlets, hregistry⟩ : resolved.handlers = s.handlers ∧ resolved.cells = s.cells ∧
      resolved.outlets = s.outlets ∧ ∀ h, resolved.registry? (.history h) = s.registry? (.history h) :=
      activate_parts _ s.routers.length found
    have hlength : listening.routers.length = s.routers.length + 1 :=
      (length_routers_activate _ s.routers.length found).trans List.length_append
    have hcallbacks : ∀ owner, (listening.callbacks owner).Sublist (s.callbacks owner ++
        if owner = .history h then [((( s.registry? (.history h)).map (·.nextKey)).getD 0, .follow s.routers.length)]
        else []) := by
      intro owner
      have hresolved : resolved.callbacks owner = s.callbacks owner :=
        (callbacks_activate _ s.routers.length found owner).trans (hadded owner)
      rw [callbacks_add, hresolved, hregistry]
      split
      · cases s.registry? (.history h) with
        | none => exact (List.nil_sublist _).append_left _
        | some registry => exact List.Sublist.refl _
      · exact List.Sublist.refl _
    have hopened : Renews s listening := by
      refine Renews.of_new (.follow s.routers.length) (.history h) _ (Nat.le_of_eq (congrArg List.length hhandlers.symm))
        (hlength ▸ Nat.le_succ _) (fun _ => isNew_iff_of_follow (congrArg List.length hhandlers) hlength) hcallbacks
        (fun _ _ hc => Or.inl (hcells ▸ hc)) (fun _ _ ho => Or.inl (houtlets ▸ ho))
        (houtlets ▸ List.prefix_refl _) ?_
      intro hnone
      exact ⟨.registry _ _, hnone.sublist_entries rfl hcallbacks, fun _ _ _ hc => (nomatch hc), fun _ _ _ ho => (nomatch ho)⟩
    exact hopened.trans (Renews.of_wiring rfl)

/-- No task moves a callback to another place, and each new callback gets a place. -/
theorem renews_perform (s : Session) (task : Task) : Renews s (s.perform task) := by
  cases task with
  | command nested c => exact Renews.of_wiring rfl
  | script rest => cases rest <;> exact Renews.of_wiring rfl
  | answer nested word query => cases nested <;> exact Renews.of_wiring rfl
  | report events => exact Renews.of_wiring rfl
  | openHistory name announces path => exact renews_openHistory s name announces path
  | openRegistry name => exact renews_openRegistry s name
  | openRouter name history routes => exact renews_openRouter s name history routes
  | openOutlet name router handler => exact renews_openOutlet s name router handler
  | openCell name value handler => exact renews_openCell s name value handler
  | subscribe name owner handler => exact renews_subscribe s name owner handler
  | drop kind name => exact renews_drop s kind name
  | push history path => exact renews_push s history path
  | move history onward => exact renews_move s history onward
  | notify owner path => exact Renews.of_wiring rfl
  | round owner rest path => cases rest <;> exact Renews.of_wiring rfl
  | call callback path => exact renews_call s callback path
  | navigate router path => exact renews_navigate s router path
  | resolve router path => exact renews_resolve s router path
  | drain router => exact renews_drain s router
  | render outlet => exact renews_render s outlet
  | deliver pending value =>
    change Renews s (s.deliver pending value)
    unfold deliver
    split
    · exact Renews.of_wiring rfl
    · dsimp only
      split <;> exact Renews.of_wiring rfl
  | poll => exact renews_poll s
  | dropPool =>
    change Renews s s.dropPool
    unfold dropPool
    split
    · exact renews_refl s
    · exact Renews.of_wiring rfl
  | write cell value => exact renews_write s cell value
  | update cell added => exact renews_write s cell _
  | nameRouter | nameWeak | nameSnapshot | nameScope | nameLink | nameCell | detach =>
    exact Renews.of_wiring rfl

/-! ## Along runs -/

/-- Doing the first task renews a session. -/
theorem renews_step (hstep : s.step? = some t) : Renews s t := by
  rw [step?] at hstep
  split at hstep
  · cases hstep
  · rename_i task rest _
    obtain rfl := Option.some.inj hstep
    have htaken : Renews s { s with agenda := rest } := Renews.of_wiring rfl
    exact htaken.trans ((renews_perform _ task).trans (renews_sweep _))

/-- However histories vary, who listens to them and whether they live stays the same. -/
theorem views_of_varies {l l' : List History} (h : List.Forall₂ History.Varies l l') :
    l'.map (fun g => (g.listeners, g.alive)) = l.map (fun g => (g.listeners, g.alive)) := by
  induction h with
  | nil => rfl
  | cons hvaries _ ih => rw [List.map_cons, List.map_cons, ih, hvaries.2.1, hvaries.2.2]

/-- However histories vary, they keep their listeners. -/
theorem listeners_of_varies {l l' : List History} (h : List.Forall₂ History.Varies l l') :
    l'.map (·.listeners) = l.map (·.listeners) := by
  have hviews := congrArg (List.map Prod.fst) (views_of_varies h)
  rwa [List.map_map, List.map_map] at hviews

/-- Whatever comes between two tasks renews a session as well. -/
theorem OpenStep.renews {l : List Session} (h : OpenStep s l t) : Renews s t := by
  cases h with
  | own hown => exact renews_step hown
  | told c hidle => exact Renews.of_wiring rfl
  | outside histories hvaries pool hpool tasks htasks =>
    refine Renews.of_eq (fun owner => ?_) rfl rfl rfl rfl
    exact callbacks_congr (s := s) (t := s.interrupt histories pool tasks) (views_of_varies hvaries) rfl rfl owner

/-- In every run callbacks stay at their places, and new ones get a place. -/
theorem OpenRun.renews {us : List Session} (h : OpenRun s us t) : Renews s t := by
  induction h with
  | start => exact renews_refl s
  | step _ hstep ih => exact ih.trans hstep.renews

/-- Where there are no callbacks, none has a place. -/
theorem placed_empty : Placed empty := by
  intro callback
  refine ⟨none, ⟨?_, ?_, ?_⟩, Or.inr rfl⟩
  · intro owner
    cases owner <;> exact List.Sublist.refl _
  · intro c cell hc
    cases hc
  · intro o outlet ho
    cases ho

/-- Along every run all callbacks are registered at their places at most. -/
theorem OpenRun.placed {us : List Session} (h : OpenRun empty us t) : Placed t := placed_empty.renews h.renews

/-- What is registered is known. -/
theorem Placed.isKnown (h : Placed s) {owner : Owner} {key : Nat} (hm : (key, callback) ∈ s.callbacks owner) :
    callback.IsKnown s := by
  obtain ⟨place, hplace, hknown | rfl⟩ := h callback
  · exact hknown
  · have hfilter := List.sublist_nil.1 (hplace.callbacks owner)
    rw [List.filter_eq_nil_iff] at hfilter
    exact absurd (decide_eq_true rfl) (hfilter _ hm)

end Session

end PathRouting
