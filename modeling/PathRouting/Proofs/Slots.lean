import PathRouting.Proofs.Faces

/-!
# The slots of outlets

An outlet that shows the active resolution has a slot for its props. The invariant says that what is in the slot belongs
to the resolution, and that the slot is empty only as long as the load of the outlet did not end, and what else it takes:
active resolutions are never older than the shown ones, and a load is of the active resolution only if its outlet shows
that. What changes routers, resolutions and names keeps it.
-/

namespace PathRouting

namespace Session

/-! ## Loads -/

/-- The load was started by an outlet for a resolution. -/
def StartedFor (s : Session) (l o id : Nat) : Prop :=
  ∃ load, s.loads[l]? = some load ∧ load.outlet = o ∧ load.initiator = id

/-- The value of a load, once it is there. -/
def valueFrom? (s : Session) : LoadSource → Option Props
  | .ready value => some value
  | .pending n => s.deliveries[n]?.bind (·.value)

/-- The first task lets a load run to completion with a value. -/
def Ends (s : Session) (l : Nat) (value : Props) : Prop :=
  ∃ rest later load, s.agenda = .poll :: rest ∧ s.pool.ready ++ s.pool.spawned = l :: later ∧
    s.loads[l]? = some load ∧ s.valueFrom? load.source = some value

/-- The first task makes an outlet begin to show a resolution whose load cannot be spawned. -/
def Refuses (s : Session) (o id : Nat) : Prop :=
  ∃ rest outlet, s.agenda = .render o :: rest ∧ s.outlets[o]? = some outlet ∧
    s.activeResolution? outlet.router = some id ∧ outlet.shown ≠ some id ∧ s.pool.phase = .dropped

/-- The loader of the route of a resolution, if it has one. -/
def loaderOf? (s : Session) (id : Nat) : Option Loader :=
  s.resolutions[id]?.bind (fun resolution => (s.routeOf? resolution).bind (·.loader))

/-- The outlet's load for a resolution, if it was spawned, has not run to completion. -/
def Unfinished (us : List Session) (s : Session) (o id : Nat) : Prop :=
  (∀ l, s.StartedFor l o id → ∀ u ∈ us, ∀ value, ¬u.Ends l value) ∧
    ((∃ l, s.StartedFor l o id) ∨ ∃ u ∈ us, u.Refuses o id)

/-- The props belong to a resolution: the params where its route has no loader, else the value of a load that the outlet
started for this resolution. -/
def BelongsTo (us : List Session) (s : Session) (o id : Nat) (found : Match) (props : Props) : Prop :=
  match s.loaderOf? id with
  | none => props = .ofParams found.params
  | some _ => ∃ l, s.StartedFor l o id ∧ ∃ u ∈ us, u.Ends l props

/-- The loader of a resolution is settled by what the routers show and by the resolutions. -/
theorem loaderOf?_congr {s t : Session} (hfaces : t.faces = s.faces) (hresolutions : t.resolutions = s.resolutions)
    (id : Nat) : t.loaderOf? id = s.loaderOf? id := by
  simp only [loaderOf?, routeOf?_eq_faces, hfaces, hresolutions]

/-- The second session has the same views as the first: no router has come, come to life or changed what it shows, no
outlet has got a name, and the routers of outlets with names live on. -/
structure Alike (s t : Session) : Prop where
  count : t.routers.length = s.routers.length
  active : ∀ r, t.activeResolution? r = s.activeResolution? r
  routes : ∀ resolution, t.routeOf? resolution = s.routeOf? resolution
  alive : ∀ r, t.isAlive r = true → s.isAlive r = true
  resolutions : t.resolutions = s.resolutions
  outlets : t.outlets = s.outlets
  loads : t.loads = s.loads
  names : ∀ entry ∈ t.names.outlets, entry ∈ s.names.outlets
  named : ∀ entry ∈ t.names.outlets, ∀ outlet, t.outlets[entry.2]? = some outlet → s.isAlive outlet.router = true →
    t.isAlive outlet.router = true

/-- Where the routers show the same, the views are the same. -/
theorem Alike.of_faces {s t : Session} (hfaces : t.faces = s.faces) (hresolutions : t.resolutions = s.resolutions)
    (houtlets : t.outlets = s.outlets) (hloads : t.loads = s.loads)
    (hnames : ∀ entry ∈ t.names.outlets, entry ∈ s.names.outlets) : Alike s t := by
  have halive : ∀ r, t.isAlive r = s.isAlive r := by
    intro r
    rw [isAlive_eq_faces, isAlive_eq_faces, hfaces]
  refine ⟨?_, ?_, ?_, fun r hr => (halive r).symm.trans hr, hresolutions, houtlets, hloads, hnames,
    fun _ _ _ _ hr => (halive _).trans hr⟩
  · have hlength := congrArg List.length hfaces
    rw [faces, faces, List.length_map, List.length_map] at hlength
    exact hlength
  · intro r
    rw [activeResolution?_eq_faces, activeResolution?_eq_faces, hfaces]
  · intro resolution
    rw [routeOf?_eq_faces, routeOf?_eq_faces, hfaces]

/-- What keeps routers, resolutions, outlets and loads is alike for outlets. -/
theorem Keeps.alike {s t : Session} (h : Keeps s t) : Alike s t :=
  Alike.of_faces h.faces h.resolutions h.outlets h.loads h.names

/-- Alike sessions have the same loaders. -/
theorem Alike.loaderOf? {s t : Session} (h : Alike s t) (id : Nat) : t.loaderOf? id = s.loaderOf? id := by
  simp only [Session.loaderOf?, h.routes, h.resolutions]

/-- A load was started for the same outlet and resolution in alike sessions. -/
theorem Alike.startedFor {s t : Session} (h : Alike s t) {l o id : Nat} :
    t.StartedFor l o id ↔ s.StartedFor l o id := by
  rw [StartedFor, StartedFor, h.loads]

/-! ## The invariant -/

/-- The slot of an outlet that shows the active resolution is right: what is in it belongs to the resolution, and it is
empty only as long as the load is unfinished. -/
structure SlotIsRight (us : List Session) (s : Session) (o id : Nat) (outlet : Outlet) (found : Match) : Prop where
  full : ∀ props, outlet.slot = some props → BelongsTo us s o id found props
  empty : outlet.slot = none → (s.loaderOf? id).isSome ∧ (s.isAlive outlet.router = true → Unfinished us s o id)

/-- What holds of outlets and loads after the first tasks of some sessions were done. -/
structure Settled (us : List Session) (s : Session) : Prop where
  /-- An active resolution is one of its router. -/
  active : ∀ r id, s.activeResolution? r = some id → ∃ found, s.resolutions[id]? = some ⟨r, found⟩
  /-- The router of an outlet exists, and what the outlet shows was resolved. -/
  outlets : ∀ (o : Nat) (outlet : Outlet), s.outlets[o]? = some outlet →
    outlet.router < s.routers.length ∧ ∀ id, outlet.shown = some id → id < s.resolutions.length
  /-- An outlet that shows the active resolution shows it with the right props. -/
  slots : ∀ (o : Nat) (outlet : Outlet) (id : Nat) (found : Match), s.outlets[o]? = some outlet →
    outlet.shown = some id → s.activeResolution? outlet.router = some id →
    s.resolutions[id]? = some ⟨outlet.router, found⟩ → SlotIsRight us s o id outlet found
  /-- A load is of an outlet and of a resolution that has a loader; it is of the active one only if the outlet shows it. -/
  loads : ∀ (l : Nat) (load : Load), s.loads[l]? = some load → ∃ outlet, s.outlets[load.outlet]? = some outlet ∧
    load.initiator < s.resolutions.length ∧ (s.loaderOf? load.initiator).isSome ∧
    (s.activeResolution? outlet.router = some load.initiator → outlet.shown = some load.initiator)
  /-- Only loads that were started have ended. -/
  ended : ∀ u ∈ us, ∀ l value, u.Ends l value → l < s.loads.length
  /-- The router of an outlet with a name lives. -/
  named : ∀ entry ∈ s.names.outlets, ∃ outlet, s.outlets[entry.2]? = some outlet ∧ s.isAlive outlet.router = true

/-- At the start there is nothing to settle. -/
theorem settled_empty : Settled [] Session.empty where
  active := by
    intro r id h
    simp [activeResolution?, empty] at h
  outlets := by
    intro o outlet h
    simp [empty] at h
  slots := by
    intro o outlet id found h
    simp [empty] at h
  loads := by
    intro l load h
    simp [empty] at h
  ended := by
    intro u hu
    simp at hu
  named := by
    intro entry h
    simp [empty, Names.empty] at h

/-- Two ends of loads by one task are the same. -/
theorem Ends.unique {s : Session} {l l' : Nat} {v v' : Props} (h : s.Ends l v) (h' : s.Ends l' v') : l = l' := by
  obtain ⟨_, _, _, _, hlist, _, _⟩ := h
  obtain ⟨_, _, _, _, hlist', _, _⟩ := h'
  rw [hlist] at hlist'
  exact (List.cons.inj hlist').1

/-- What belongs to a resolution after some sessions belongs to it after more of them. -/
theorem BelongsTo.mono {us vs : List Session} {s : Session} {o id : Nat} {found : Match} {props : Props}
    (h : BelongsTo us s o id found props) (hsub : ∀ u ∈ us, u ∈ vs) : BelongsTo vs s o id found props := by
  unfold BelongsTo at h ⊢
  split at h
  · exact h
  · obtain ⟨l, hl, u, hu, hends⟩ := h
    exact ⟨l, hl, u, hsub u hu, hends⟩

/-- Tasks that let no load of the outlet for the resolution end leave the load unfinished. -/
theorem Unfinished.mono {us vs : List Session} {s : Session} {o id : Nat} (h : Unfinished us s o id)
    (hsub : ∀ u ∈ us, u ∈ vs)
    (hnew : ∀ u ∈ vs, u ∈ us ∨ ∀ l, s.StartedFor l o id → ∀ value, ¬u.Ends l value) : Unfinished vs s o id := by
  refine ⟨?_, ?_⟩
  · intro l hl u hu value
    rcases hnew u hu with hu | hends
    · exact h.1 l hl u hu value
    · exact hends l hl value
  · rcases h.2 with hload | ⟨u, hu, hrefuses⟩
    · exact Or.inl hload
    · exact Or.inr ⟨u, hsub u hu, hrefuses⟩

variable {us : List Session} {s t : Session}

/-- A task that ends only loads that are of no shown active resolution changes nothing about what was shown. -/
theorem Settled.visit (h : Settled us s) {u : Session} (hstarted : ∀ l value, u.Ends l value → l < s.loads.length)
    (hends : ∀ o outlet id, s.outlets[o]? = some outlet → s.activeResolution? outlet.router = some id →
      s.isAlive outlet.router = true → ∀ l, s.StartedFor l o id → ∀ value, ¬u.Ends l value) :
    Settled (u :: us) s where
  active := h.active
  outlets := h.outlets
  slots := by
    intro o outlet id found ho hshown hactive hfound
    have hslot := h.slots o outlet id found ho hshown hactive hfound
    have hsub : ∀ v ∈ us, v ∈ u :: us := fun v hv => List.mem_cons_of_mem u hv
    refine ⟨fun props hp => (hslot.full props hp).mono hsub, fun hnone => ⟨(hslot.empty hnone).1, fun halive => ?_⟩⟩
    refine ((hslot.empty hnone).2 halive).mono hsub ?_
    intro v hv
    rcases List.mem_cons.1 hv with rfl | hv
    · exact Or.inr (hends o outlet id ho hactive halive)
    · exact Or.inl hv
  loads := h.loads
  ended := by
    intro v hv l value hvends
    rcases List.mem_cons.1 hv with rfl | hv
    · exact hstarted l value hvends
    · exact h.ended v hv l value hvends
  named := h.named

/-- A task that ends no load changes nothing about what happened. -/
theorem Settled.visit_of_not_ends (h : Settled us s) {u : Session} (hends : ∀ l value, ¬u.Ends l value) :
    Settled (u :: us) s :=
  h.visit (fun l value hu => absurd hu (hends l value)) (fun _ _ _ _ _ _ l _ value => hends l value)

/-- A value belongs to the same resolution in alike sessions. -/
theorem Alike.belongsTo (h : Alike s t) {o id : Nat} {found : Match} {props : Props} :
    BelongsTo us t o id found props ↔ BelongsTo us s o id found props := by
  simp only [BelongsTo, h.loaderOf?, h.startedFor]

/-- Alike sessions have the same unfinished loads. -/
theorem Alike.unfinished (h : Alike s t) {o id : Nat} : Unfinished us t o id ↔ Unfinished us s o id := by
  simp only [Unfinished, h.startedFor]

/-- Sessions with the same views are settled alike. -/
theorem Settled.alike (hs : Settled us s) (h : Alike s t) : Settled us t where
  active := by
    intro r id hr
    rw [h.active] at hr
    rw [h.resolutions]
    exact hs.active r id hr
  outlets := by
    intro o outlet ho
    rw [h.outlets] at ho
    rw [h.count, h.resolutions]
    exact hs.outlets o outlet ho
  slots := by
    intro o outlet id found ho hshown hactive hfound
    rw [h.outlets] at ho
    rw [h.active] at hactive
    rw [h.resolutions] at hfound
    have hslot := hs.slots o outlet id found ho hshown hactive hfound
    refine ⟨fun props hp => h.belongsTo.2 (hslot.full props hp), fun hnone => ?_⟩
    rw [h.loaderOf?, h.unfinished]
    exact ⟨(hslot.empty hnone).1, fun halive => (hslot.empty hnone).2 (h.alive _ halive)⟩
  loads := by
    intro l load hl
    rw [h.loads] at hl
    rw [h.outlets, h.resolutions, h.loaderOf?]
    obtain ⟨outlet, ho, hlt, hloader, hshown⟩ := hs.loads l load hl
    refine ⟨outlet, ho, hlt, hloader, ?_⟩
    rw [h.active]
    exact hshown
  ended := by
    rw [h.loads]
    exact hs.ended
  named := by
    intro entry he
    obtain ⟨outlet, ho, halive⟩ := hs.named entry (h.names entry he)
    rw [← h.outlets] at ho
    exact ⟨outlet, ho, h.named entry he outlet ho halive⟩

/-! ## Sweeping -/

/-- Sweeping leaves the views: an outlet with a name holds its router. -/
theorem alike_sweep (s : Session) : Alike s s.sweep := by
  refine ⟨List.length_mapIdx, activeResolution?_sweep s, ?_, ?_, rfl, rfl, rfl, fun _ he => he, ?_⟩
  · intro resolution
    rw [routeOf?, routeOf?, getElem?_routers_sweep]
    cases s.routers[resolution.router]? <;> rfl
  · intro r hr
    rw [isAlive_sweep, Bool.and_eq_true] at hr
    exact hr.1
  · intro entry he outlet ho hr
    have hholds : s.names.outlets.holds (fun o => s.outlets[o]?.any (fun g => g.router == outlet.router)) = true := by
      rw [Directory.holds, List.any_eq_true]
      refine ⟨entry, he, ?_⟩
      have ho' : s.outlets[entry.2]? = some outlet := ho
      rw [ho']
      exact beq_self_eq_true outlet.router
    rw [isAlive_sweep, hr, holdsRouter, hholds]
    simp

/-! ## Resolutions -/

/-- What a list has at a place stays there when more is added behind. -/
theorem getElem?_append_of_some {α : Type} {l : List α} {i : Nat} {a : α} (h : l[i]? = some a) (l' : List α) :
    (l ++ l')[i]? = some a := by
  rw [List.getElem?_append_left (List.getElem?_eq_some_iff.1 h).1, h]

/-- The route of a resolution is the same whatever becomes active. -/
theorem routeOf?_activate (s : Session) (r : Nat) (found : Option Match) (resolution : Resolution) :
    (s.activate r found).routeOf? resolution = s.routeOf? resolution := by
  have hroutes : ∀ (l : List Router) (f : Router → Router) (i : Nat), (∀ g, (f g).routes = g.routes) →
      (l.modify r f)[i]?.map Router.routes = l[i]?.map Router.routes := by
    intro l f i hf
    rw [← List.getElem?_map, ← List.getElem?_map, map_modify_of_forall hf]
  have hroute : ∀ u : Session, u.routeOf? resolution =
      (u.routers[resolution.router]?.map Router.routes).bind (fun routes => routes[resolution.found.route]?) := by
    intro u
    rw [routeOf?]
    cases u.routers[resolution.router]? <;> rfl
  rw [hroute, hroute]
  cases found with
  | none =>
    simp only [activate, withRouter]
    rw [hroutes]
    exact fun _ => rfl
  | some m =>
    simp only [activate, withRouter]
    rw [hroutes]
    exact fun _ => rfl

/-- The loader of a resolution stays the same when another one is made. -/
theorem loaderOf?_activate (s : Session) (r : Nat) (found : Option Match) {id : Nat} (hid : id < s.resolutions.length) :
    (s.activate r found).loaderOf? id = s.loaderOf? id := by
  simp only [loaderOf?, resolutions_activate, List.getElem?_append_left hid, routeOf?_activate]

/-- A new resolution is shown by no outlet yet, and no load is of it. -/
theorem Settled.activate (h : Settled us s) (r : Nat) (found : Option Match) : Settled us (s.activate r found) := by
  have houtlets : (s.activate r found).outlets = s.outlets := by cases found <;> rfl
  have hloads : (s.activate r found).loads = s.loads := by cases found <;> rfl
  have hnames : (s.activate r found).names = s.names := by cases found <;> rfl
  have hcount : (s.activate r found).routers.length = s.routers.length := by
    cases found <;> exact List.length_modify ..
  have hold : ∀ id r', id < s.resolutions.length → (s.activate r found).activeResolution? r' = some id →
      s.activeResolution? r' = some id := by
    intro id r' hid hactive
    rw [activeResolution?_activate] at hactive
    split at hactive
    · obtain ⟨_, _, hnew⟩ := Option.bind_eq_some_iff.1 hactive
      obtain ⟨_, _, rfl⟩ := Option.map_eq_some_iff.1 hnew
      exact absurd hid (Nat.lt_irrefl _)
    · exact hactive
  refine ⟨?_, ?_, ?_, ?_, ?_, ?_⟩
  · intro r' id hactive
    rw [resolutions_activate]
    rw [activeResolution?_activate] at hactive
    split at hactive
    · rename_i hr
      obtain ⟨_, _, hnew⟩ := Option.bind_eq_some_iff.1 hactive
      obtain ⟨m, rfl, rfl⟩ := Option.map_eq_some_iff.1 hnew
      refine ⟨m, ?_⟩
      rw [hr]
      simp
    · obtain ⟨m, hm⟩ := h.active r' id hactive
      exact ⟨m, getElem?_append_of_some hm _⟩
  · intro o outlet ho
    rw [houtlets] at ho
    rw [hcount, resolutions_activate, List.length_append]
    obtain ⟨hrouter, hshown⟩ := h.outlets o outlet ho
    exact ⟨hrouter, fun id hid => Nat.lt_of_lt_of_le (hshown id hid) (Nat.le_add_right _ _)⟩
  · intro o outlet id m ho hshown hactive hm
    rw [houtlets] at ho
    have hid := (h.outlets o outlet ho).2 id hshown
    rw [resolutions_activate, List.getElem?_append_left hid] at hm
    have hslot := h.slots o outlet id m ho hshown (hold id _ hid hactive) hm
    have hstarted : ∀ l, (s.activate r found).StartedFor l o id ↔ s.StartedFor l o id := by
      intro l
      rw [StartedFor, StartedFor, hloads]
    refine ⟨fun props hp => ?_, fun hnone => ?_⟩
    · have hbelongs := hslot.full props hp
      simp only [BelongsTo, loaderOf?_activate s r found hid, hstarted] at hbelongs ⊢
      exact hbelongs
    · obtain ⟨hloader, hunfinished⟩ := hslot.empty hnone
      simp only [loaderOf?_activate s r found hid, isAlive_activate, Unfinished, hstarted]
      exact ⟨hloader, hunfinished⟩
  · intro l load hl
    rw [hloads] at hl
    obtain ⟨outlet, ho, hid, hloader, hshown⟩ := h.loads l load hl
    rw [houtlets, resolutions_activate, List.length_append, loaderOf?_activate s r found hid]
    exact ⟨outlet, ho, Nat.lt_of_lt_of_le hid (Nat.le_add_right _ _), hloader,
      fun hactive => hshown (hold _ _ hid hactive)⟩
  · rw [hloads]
    exact h.ended
  · intro entry he
    rw [hnames] at he
    obtain ⟨outlet, ho, halive⟩ := h.named entry he
    rw [houtlets]
    exact ⟨outlet, ho, (isAlive_activate s r _ found).trans halive⟩

/-! ## Routers -/

/-- A new router shows nothing yet. -/
theorem Settled.addRouter (h : Settled us s) {router : Router} (hrouter : router.active = none) :
    Settled us { s with routers := s.routers ++ [router] } := by
  have hget : ∀ r, r < s.routers.length → (s.routers ++ [router])[r]? = s.routers[r]? :=
    fun r hr => List.getElem?_append_left hr
  have hactive : ∀ r, ({ s with routers := s.routers ++ [router] } : Session).activeResolution? r =
      s.activeResolution? r := by
    intro r
    rw [activeResolution?, activeResolution?]
    rcases Nat.lt_trichotomy r s.routers.length with hr | rfl | hr
    · rw [hget r hr]
    · simp [hrouter]
    · rw [List.getElem?_eq_none (by simp; omega), List.getElem?_eq_none (by omega)]
  have halive : ∀ r, r < s.routers.length →
      ({ s with routers := s.routers ++ [router] } : Session).isAlive r = s.isAlive r := by
    intro r hr
    rw [isAlive, isAlive, hget r hr]
  have hroute : ∀ resolution : Resolution, resolution.router < s.routers.length →
      ({ s with routers := s.routers ++ [router] } : Session).routeOf? resolution = s.routeOf? resolution := by
    intro resolution hr
    rw [routeOf?, routeOf?, hget _ hr]
  refine ⟨?_, ?_, ?_, ?_, h.ended, ?_⟩
  · intro r id hr
    rw [hactive] at hr
    exact h.active r id hr
  · intro o outlet ho
    obtain ⟨hr, hshown⟩ := h.outlets o outlet ho
    exact ⟨by simp only [List.length_append, List.length_singleton]; omega, hshown⟩
  · intro o outlet id found ho hshown hr hfound
    rw [hactive] at hr
    have hlt := (h.outlets o outlet ho).1
    have hslot := h.slots o outlet id found ho hshown hr hfound
    have hloader : ({ s with routers := s.routers ++ [router] } : Session).loaderOf? id = s.loaderOf? id := by
      have hfound' : s.resolutions[id]? = some ⟨outlet.router, found⟩ := hfound
      simp only [loaderOf?, hfound', Option.bind_some, hroute ⟨outlet.router, found⟩ hlt]
    refine ⟨fun props hp => ?_, fun hnone => ?_⟩
    · have hbelongs := hslot.full props hp
      unfold BelongsTo at hbelongs ⊢
      rw [hloader]
      exact hbelongs
    · rw [hloader, halive _ hlt]
      exact hslot.empty hnone
  · intro l load hl
    obtain ⟨outlet, ho, hid, hloader, hshown⟩ := h.loads l load hl
    refine ⟨outlet, ho, hid, ?_, fun hr => hshown ((hactive _).symm.trans hr)⟩
    obtain ⟨loader, hloader⟩ := Option.isSome_iff_exists.1 hloader
    obtain ⟨resolution, hresolution, hbind⟩ := Option.bind_eq_some_iff.1 hloader
    obtain ⟨route, hr, _⟩ := Option.bind_eq_some_iff.1 hbind
    obtain ⟨g, hg, _⟩ := Option.bind_eq_some_iff.1 hr
    have hsame : ({ s with routers := s.routers ++ [router] } : Session).loaderOf? load.initiator =
        s.loaderOf? load.initiator := by
      simp only [loaderOf?, hresolution, Option.bind_some, hroute resolution (List.getElem?_eq_some_iff.1 hg).1]
    rw [hsame, hloader]
    rfl
  · intro entry he
    obtain ⟨outlet, ho, hr⟩ := h.named entry he
    exact ⟨outlet, ho, (halive _ (h.outlets _ outlet ho).1).trans hr⟩

/-- A step that keeps routers, outlets and loads leaves what is shown settled. -/
theorem Settled.keeps (h : Settled us s) (hkeeps : Keeps s t) : Settled us t := h.alike hkeeps.alike

/-- What is logged makes no difference to routers, outlets and loads. -/
theorem keeps_recordLogs (s : Session) (events : List LogEvent) : Keeps s (s.recordLogs events) :=
  ⟨rfl, rfl, rfl, rfl, fun _ h => h⟩

/-- Tasks put first make no difference to routers, outlets and loads. -/
theorem keeps_first (s : Session) (tasks : List Task) : Keeps s (s.first tasks) := ⟨rfl, rfl, rfl, rfl, fun _ h => h⟩

/-- A new router leaves what is shown settled. -/
theorem Settled.openRouter (h : Settled us s) (name : Text) (history : Nat) (routes : List Route) :
    Settled us (s.openRouter name history routes) := by
  unfold Session.openRouter
  split
  · exact h
  · rename_i found _
    let router : Router := ⟨routes, history, none, .empty, false, [], true⟩
    let outcome := Route.resolve routes found.trail.current
    have hadded : Settled us { s with routers := s.routers ++ [router] } := h.addRouter rfl
    have hlogged := hadded.keeps (keeps_recordLogs _
      (routes.mapIdx (fun i route => LogEvent.routeCompiled i route.pattern.display) ++
        [LogEvent.routeResolved found.trail.current outcome.isSome]))
    have hactive := hlogged.activate s.routers.length outcome
    have hlistening := hactive.keeps (keeps_withRegistry _ (.history history) (fun g => g.add (.follow s.routers.length)))
    exact hlistening.keeps ⟨rfl, rfl, rfl, rfl, fun _ h => h⟩

/-- A resolve leaves what is shown settled: its resolution is new and no outlet shows it. -/
theorem Settled.resolve (h : Settled us s) (r : Nat) (path : Text) : Settled us (s.resolve r path) := by
  unfold Session.resolve
  split
  · exact h
  · rename_i router _
    have hlogged := h.keeps (keeps_recordLogs s [.routeResolved path (Route.resolve router.routes path).isSome])
    exact (hlogged.activate r _).keeps (keeps_first _ _)

/-- A navigation is queued or begun, with no difference to outlets. -/
theorem alike_navigate (s : Session) (r : Nat) (path : Text) : Alike s (s.navigate r path) := by
  obtain ⟨hfaces, hresolutions⟩ := faces_navigate s r path
  have hrest : (s.navigate r path).outlets = s.outlets ∧ (s.navigate r path).loads = s.loads ∧
      (s.navigate r path).names = s.names := by
    obtain ⟨_, _, _, heq⟩ := navigate_eq s r path
    rw [heq]
    exact ⟨rfl, rfl, rfl⟩
  exact Alike.of_faces hfaces hresolutions hrest.1 hrest.2.1 (fun _ he => hrest.2.2 ▸ he)

/-- Draining a queue makes no difference to outlets. -/
theorem alike_drain (s : Session) (r : Nat) : Alike s (s.drain r) := by
  obtain ⟨hfaces, hresolutions⟩ := faces_drain s r
  have hrest : (s.drain r).outlets = s.outlets ∧ (s.drain r).loads = s.loads ∧ (s.drain r).names = s.names := by
    obtain ⟨_, _, heq⟩ := drain_eq s r
    rw [heq]
    exact ⟨rfl, rfl, rfl⟩
  exact Alike.of_faces hfaces hresolutions hrest.1 hrest.2.1 (fun _ he => hrest.2.2 ▸ he)

/-! ## Outlets -/

/-- An outlet that shows nothing yet may be added. -/
theorem Settled.addOutlet (h : Settled us s) (outlet : Outlet) (hrouter : outlet.router < s.routers.length)
    (hshown : outlet.shown = none) : Settled us { s with outlets := s.outlets ++ [outlet] } := by
  have hget : ∀ {o : Nat} {g : Outlet}, (s.outlets ++ [outlet])[o]? = some g → s.outlets[o]? = some g ∨ g = outlet := by
    intro o g ho
    rcases Nat.lt_or_ge o s.outlets.length with hlt | hge
    · rw [List.getElem?_append_left hlt] at ho
      exact Or.inl ho
    · rw [List.getElem?_append_right hge] at ho
      have hmem := List.mem_of_getElem? ho
      exact Or.inr (List.mem_singleton.1 hmem)
  refine ⟨h.active, ?_, ?_, ?_, h.ended, ?_⟩
  · intro o g ho
    rcases hget ho with ho | rfl
    · exact h.outlets o g ho
    · refine ⟨hrouter, fun id hid => ?_⟩
      rw [hshown] at hid
      cases hid
  · intro o g id found ho hid hactive hfound
    rcases hget ho with ho | rfl
    · have hslot := h.slots o g id found ho hid hactive hfound
      exact ⟨hslot.full, hslot.empty⟩
    · rw [hshown] at hid
      cases hid
  · intro l load hl
    obtain ⟨g, ho, hrest⟩ := h.loads l load hl
    exact ⟨g, getElem?_append_of_some ho _, hrest⟩
  · intro entry he
    obtain ⟨g, ho, halive⟩ := h.named entry he
    exact ⟨g, getElem?_append_of_some ho _, halive⟩

/-- An outlet whose router lives can get a name. -/
theorem Settled.nameOutlet (h : Settled us s) (name : Text) {o : Nat} (outlet : Outlet)
    (ho : s.outlets[o]? = some outlet) (halive : s.isAlive outlet.router = true) :
    Settled us { s with names := { s.names with outlets := s.names.outlets.put name o } } where
  active := h.active
  outlets := h.outlets
  slots := by
    intro o g id found ho hid hactive hfound
    have hslot := h.slots o g id found ho hid hactive hfound
    exact ⟨hslot.full, hslot.empty⟩
  loads := h.loads
  ended := h.ended
  named := by
    intro entry he
    rcases List.mem_cons.1 he with rfl | he
    · exact ⟨outlet, ho, halive⟩
    · exact h.named entry (List.mem_filter.1 he).1

/-- A new outlet leaves what is shown settled. -/
theorem Settled.openOutlet (h : Settled us s) (name : Text) (r : Nat) (handler : Handler) :
    Settled us (s.openOutlet name r handler) := by
  unfold Session.openOutlet
  split
  · exact h
  · rename_i observers hobservers
    obtain ⟨halive, hlt⟩ : s.isAlive r = true ∧ r < s.routers.length := by
      unfold registry? at hobservers
      dsimp only at hobservers
      cases hr : s.routers[r]? with
      | none => simp [hr] at hobservers
      | some router =>
        simp only [hr] at hobservers
        split at hobservers
        · rename_i hrouter
          refine ⟨?_, (List.getElem?_eq_some_iff.1 hr).1⟩
          rw [isAlive, hr]
          exact hrouter
        · cases hobservers
    let outlet : Outlet := ⟨r, observers.nextKey, none, none, s.handlers.length⟩
    have hhandler : Keeps s (s.addHandler handler) := ⟨rfl, rfl, rfl, rfl, fun _ h => h⟩
    have hobserving := hhandler.trans (keeps_withRegistry _ (.router r) (fun g => g.add (.handler s.handlers.length)))
    have hmade := (h.keeps hobserving).addOutlet outlet (by rw [hobserving.alike.count]; exact hlt) rfl
    have hdropped := keeps_dropOutlet { (s.addHandler handler).withRegistry (.router r)
      (fun g => g.add (.handler s.handlers.length)) with outlets := s.outlets ++ [outlet] } name
    refine Settled.nameOutlet (hmade.keeps hdropped) name outlet ?_ ?_
    · rw [hdropped.outlets, List.getElem?_append_right (Nat.le_refl _), Nat.sub_self]
      rfl
    · rw [hdropped.isAlive]
      exact (hobserving.isAlive r).trans halive

end Session

end PathRouting
