import PathRouting.Proofs.Effects

/-!
# What routers show

A router shows the match that is active on it, for as long as it lives. Statements: only resolving a path changes what a
router shows, navigations and their queues do not, and a resolution that was made is what its router shows next.
-/

namespace PathRouting

/-- What a router shows: its routes, its active resolution, and whether it lives. -/
structure Face where
  routes : List Route
  active : Option Nat
  alive : Bool

/-- What the router shows. -/
def Router.face (g : Router) : Face := ⟨g.routes, g.active, g.alive⟩

/-- The tasks that make routers, or change what they show or where they stand. -/
def Task.isSteering : Task → Bool
  | .openRouter _ _ _ => true
  | .navigate _ _ => true
  | .resolve _ _ => true
  | .drain _ => true
  | _ => false

namespace Session

variable {s t : Session} {r : Nat}

/-- What the routers show. -/
def faces (s : Session) : List Face := s.routers.map Router.face

/-- The active resolution of a router can be told from its face. -/
theorem activeResolution?_eq_faces (s : Session) (r : Nat) : s.activeResolution? r = s.faces[r]?.bind (·.active) := by
  rw [activeResolution?, faces, List.getElem?_map]
  cases s.routers[r]? <;> rfl

/-- Whether a router is alive can be told from its face. -/
theorem isAlive_eq_faces (s : Session) (r : Nat) : s.isAlive r = (s.faces[r]?.map (·.alive)).getD false := by
  rw [isAlive, faces, List.getElem?_map]
  cases s.routers[r]? <;> rfl

/-- The route of a resolution can be told from the face of its router. -/
theorem routeOf?_eq_faces (s : Session) (resolution : Resolution) :
    s.routeOf? resolution = s.faces[resolution.router]?.bind (fun face => face.routes[resolution.found.route]?) := by
  rw [routeOf?, faces, List.getElem?_map]
  cases s.routers[resolution.router]? <;> rfl

/-- The face of a router is part of its desk. -/
theorem faces_eq_desks (s : Session) : s.faces = s.desks.map Router.face := by
  rw [faces, desks, List.map_map]
  rfl

/-- What keeps the routers keeps their faces. -/
theorem Keeps.faces {s t : Session} (h : Keeps s t) : t.faces = s.faces := by
  rw [faces_eq_desks, faces_eq_desks, h.desks]

/-- What is active is settled by what the routers show and by the resolutions. -/
theorem active?_congr (hfaces : t.faces = s.faces) (hresolutions : t.resolutions = s.resolutions) (r : Nat) :
    t.active? r = s.active? r := by
  rw [active?, active?, activeResolution?_eq_faces, activeResolution?_eq_faces, hfaces, hresolutions]

/-- What keeps the routers leaves the same of them alive. -/
theorem Keeps.isAlive {s t : Session} (h : Keeps s t) (r : Nat) : t.isAlive r = s.isAlive r := by
  rw [isAlive_eq_faces, isAlive_eq_faces, h.faces]

/-! ## Tasks that do not steer -/

/-- A new outlet makes no difference to desks and resolutions. -/
theorem desks_openOutlet (s : Session) (name : Text) (r : Nat) (handler : Handler) :
    (s.openOutlet name r handler).desks = s.desks ∧ (s.openOutlet name r handler).resolutions = s.resolutions := by
  unfold openOutlet
  split
  · exact ⟨rfl, rfl⟩
  · rename_i observers _
    let observing := (s.addHandler handler).withRegistry (.router r) (fun g => g.add (.handler s.handlers.length))
    have hobserving : Keeps (s.addHandler handler) observing := keeps_withRegistry _ _ _
    let made : Session := { observing with
      outlets := observing.outlets ++ [⟨r, observers.nextKey, none, none, s.handlers.length⟩] }
    have hmade : Keeps made (made.dropOutlet name) := keeps_dropOutlet made name
    exact ⟨hmade.desks.trans hobserving.desks, hmade.resolutions.trans hobserving.resolutions⟩

/-- What does not steer leaves routers, but for their observers, and resolutions as they are. -/
theorem desks_perform (s : Session) {task : Task} (h : task.isSteering = false) :
    (s.perform task).desks = s.desks ∧ (s.perform task).resolutions = s.resolutions := by
  cases hquiet : task.isQuiet with
  | true => exact ⟨(keeps_perform s hquiet).desks, (keeps_perform s hquiet).resolutions⟩
  | false =>
    cases houtward : task.isOutward with
    | false =>
      have hhome := staysHome_perform s houtward
      exact ⟨congrArg (List.map Router.desk) hhome.routers, hhome.resolutions⟩
    | true =>
      cases task with
      | openOutlet name r handler => exact desks_openOutlet s name r handler
      | openRouter => cases h
      | navigate => cases h
      | resolve => cases h
      | drain => cases h
      | render => cases houtward
      | poll => cases houtward
      | _ => cases hquiet

/-! ## Navigations -/

/-- A change to one router that keeps its face keeps all faces. -/
theorem faces_withRouter {f : Router → Router} (hf : ∀ g, (f g).face = g.face) (s : Session) (r : Nat) :
    (s.withRouter r f).faces = s.faces := map_modify_of_forall hf s.routers r

/-- Where a router stands in its navigations does not show. -/
theorem faces_navigate (s : Session) (r : Nat) (path : Text) :
    (s.navigate r path).faces = s.faces ∧ (s.navigate r path).resolutions = s.resolutions := by
  unfold navigate
  split
  · exact ⟨rfl, rfl⟩
  · split
    · exact ⟨faces_withRouter (f := fun g => { g with queue := g.queue ++ [path] }) (fun _ => rfl) s r, rfl⟩
    · exact ⟨faces_withRouter (f := fun g => { g with navigating := true }) (fun _ => rfl) s r, rfl⟩

/-- Draining a queue makes no difference to faces and resolutions. -/
theorem faces_drain (s : Session) (r : Nat) :
    (s.drain r).faces = s.faces ∧ (s.drain r).resolutions = s.resolutions := by
  unfold drain
  split
  · exact ⟨rfl, rfl⟩
  · split
    · exact ⟨faces_withRouter (f := fun g => { g with navigating := false }) (fun _ => rfl) s r, rfl⟩
    · rename_i later _
      exact ⟨faces_withRouter (f := fun g => { g with queue := later }) (fun _ => rfl) s r, rfl⟩

/-! ## Resolutions -/

/-- What is active on a router once a resolution was made the active one of a router. -/
theorem activeResolution?_activate (s : Session) (r r' : Nat) (found : Option Match) :
    (s.activate r found).activeResolution? r' =
      if r' = r then s.routers[r]?.bind (fun _ => found.map (fun _ => s.resolutions.length))
      else s.activeResolution? r' := by
  cases found with
  | none =>
    simp only [activate, withRouter, activeResolution?, List.getElem?_modify]
    by_cases hr : r' = r
    · subst hr
      cases s.routers[r']? <;> simp
    · have hr' : ¬r = r' := fun h => hr h.symm
      cases s.routers[r']? <;> simp [hr, hr']
  | some m =>
    simp only [activate, withRouter, activeResolution?, List.getElem?_modify]
    by_cases hr : r' = r
    · subst hr
      cases s.routers[r']? <;> simp
    · have hr' : ¬r = r' := fun h => hr h.symm
      cases s.routers[r']? <;> simp [hr, hr']

/-- What becomes active is a new resolution if there is a match. -/
theorem resolutions_activate (s : Session) (r : Nat) (found : Option Match) :
    (s.activate r found).resolutions = s.resolutions ++ (found.map (Resolution.mk r)).toList := by
  cases found <;> simp [activate, withRouter]

/-- Routers stay alive whatever becomes active. -/
theorem isAlive_activate (s : Session) (r r' : Nat) (found : Option Match) :
    (s.activate r found).isAlive r' = s.isAlive r' := by
  cases found with
  | none =>
    simp only [activate, withRouter, isAlive, List.getElem?_modify]
    cases s.routers[r']? with
    | none => rfl
    | some g => by_cases hr : r = r' <;> simp [hr]
  | some m =>
    simp only [activate, withRouter, isAlive, List.getElem?_modify]
    cases s.routers[r']? with
    | none => rfl
    | some g => by_cases hr : r = r' <;> simp [hr]

/-- A resolution that is made the active one of a router is what the router shows. -/
theorem active?_activate (s : Session) {router : Router} (hrouter : s.routers[r]? = some router) (found : Option Match) :
    (s.activate r found).active? r = found := by
  rw [active?, activeResolution?_activate, if_pos rfl, hrouter, resolutions_activate]
  cases found with
  | none => rfl
  | some m =>
    simp only [Option.bind_some, Option.map_some, Option.toList_some]
    rw [List.getElem?_append_right (Nat.le_refl _), Nat.sub_self]
    rfl

/-- What the function takes of a router is changed neither by resolutions nor by navigations. -/
def IsSteady {β : Type} (f : Router → β) : Prop := ∀ (g : Router) (active : Option Nat) (navigating : Bool) (queue : List Text),
  f { g with active := active, navigating := navigating, queue := queue } = f g

/-- What a match makes no difference to is kept in every router. -/
theorem map_routers_activate {β : Type} {f : Router → β} (hf : IsSteady f) (s : Session) (r : Nat) (found : Option Match) :
    (s.activate r found).routers.map f = s.routers.map f := by
  cases found with
  | none => exact map_modify_of_forall (fun g => hf g none g.navigating g.queue) s.routers r
  | some m => exact map_modify_of_forall (fun g => hf g (some s.resolutions.length) g.navigating g.queue) s.routers r

/-- Steering a router changes nothing else of the routers than what is active and where they stand in navigations. -/
theorem map_routers_perform {β : Type} {f : Router → β} (hf : IsSteady f) (s : Session) {task : Task}
    (hsteering : task.isSteering = true) (hopens : ∀ name k routes, task ≠ .openRouter name k routes) :
    (s.perform task).routers.map f = s.routers.map f := by
  cases task with
  | openRouter name k routes => exact absurd rfl (hopens name k routes)
  | navigate r path =>
    change (s.navigate r path).routers.map f = s.routers.map f
    unfold navigate
    split
    · rfl
    · split
      · exact map_modify_of_forall (fun g => hf g g.active g.navigating (g.queue ++ [path])) s.routers r
      · exact map_modify_of_forall (fun g => hf g g.active true g.queue) s.routers r
  | resolve r path =>
    change (s.resolve r path).routers.map f = s.routers.map f
    unfold resolve
    split
    · rfl
    · exact map_routers_activate hf _ r _
  | drain r =>
    change (s.drain r).routers.map f = s.routers.map f
    unfold drain
    split
    · rfl
    · split
      · exact map_modify_of_forall (fun g => hf g g.active false g.queue) s.routers r
      · rename_i later _
        exact map_modify_of_forall (fun g => hf g g.active g.navigating later) s.routers r
  | _ => cases hsteering

/-- No task ends a router. -/
theorem isAlive_perform (s : Session) (task : Task) (hr : r < s.routers.length) :
    (s.perform task).isAlive r = s.isAlive r := by
  have hsame : ∀ u : Session, u.faces = s.faces → u.isAlive r = s.isAlive r := by
    intro u hu
    rw [isAlive_eq_faces, isAlive_eq_faces, hu]
  cases hsteering : task.isSteering with
  | false => exact hsame _ (by rw [faces_eq_desks, faces_eq_desks, (desks_perform s hsteering).1])
  | true =>
    cases task with
    | openRouter name k routes =>
      change (s.openRouter name k routes).isAlive r = s.isAlive r
      unfold openRouter
      split
      · rfl
      · rename_i history _
        refine (isAlive_activate _ s.routers.length r (Route.resolve routes history.trail.current)).trans ?_
        simp only [isAlive, recordLogs, List.getElem?_append_left hr]
    | navigate r' path => exact hsame _ (faces_navigate s r' path).1
    | drain r' => exact hsame _ (faces_drain s r').1
    | resolve r' path =>
      change (s.resolve r' path).isAlive r = s.isAlive r
      unfold resolve
      split
      · rfl
      · exact isAlive_activate _ _ _ _
    | _ => cases hsteering

/-! ## Sweeping -/

/-- A sweep leaves the routers alive that something holds. -/
theorem isAlive_sweep (s : Session) (r : Nat) : s.sweep.isAlive r = (s.isAlive r && s.holdsRouter r) := by
  rw [isAlive, isAlive, getElem?_routers_sweep]
  cases s.routers[r]? <;> rfl

/-- A sweep makes no difference to active resolutions. -/
theorem activeResolution?_sweep (s : Session) (r : Nat) : s.sweep.activeResolution? r = s.activeResolution? r := by
  rw [activeResolution?, activeResolution?, getElem?_routers_sweep]
  cases s.routers[r]? <;> rfl

/-- A sweep makes no difference to active routes. -/
theorem active?_sweep (s : Session) (r : Nat) : s.sweep.active? r = s.active? r := by
  rw [active?, active?, activeResolution?_sweep]
  rfl

end Session

end PathRouting
