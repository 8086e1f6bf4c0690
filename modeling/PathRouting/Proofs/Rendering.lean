import PathRouting.Proofs.Slots

/-!
# What an outlet shows

A rendered outlet shows the match that is active, with props that belong to it: its params, or the value of a load that
the outlet itself started for this very resolution. It shows nothing only without a match, or as long as its load did not
end. Renderings and loads that proceed keep what is said of the slots, so that it holds along every run.
-/

namespace PathRouting

namespace Session

variable {us : List Session} {s t : Session}

/-! ## Showing -/

/-- An outlet that shows the active resolution of its router, with the right props, and perhaps a new load for it. Nothing
else has changed. -/
structure Shows (us : List Session) (s t : Session) (o id : Nat) (outlet outlet' : Outlet) (new : List Load) : Prop where
  before : s.outlets[o]? = some outlet
  router : outlet'.router = outlet.router
  shown : outlet'.shown = some id
  active : s.activeResolution? outlet.router = some id
  started : ∀ load ∈ new, load.outlet = o ∧ load.initiator = id ∧ (s.loaderOf? id).isSome
  faces : t.faces = s.faces
  resolutions : t.resolutions = s.resolutions
  outlets : ∀ i : Nat, t.outlets[i]? = if i = o then some outlet' else s.outlets[i]?
  loads : t.loads = s.loads ++ new
  names : t.names.outlets = s.names.outlets
  right : ∀ found, s.resolutions[id]? = some ⟨outlet.router, found⟩ → SlotIsRight us t o id outlet' found

variable {o id : Nat} {outlet outlet' : Outlet} {new : List Load}

theorem Shows.activeResolution?_eq (h : Shows us s t o id outlet outlet' new) (r : Nat) :
    t.activeResolution? r = s.activeResolution? r := by
  rw [activeResolution?_eq_faces, activeResolution?_eq_faces, h.faces]

theorem Shows.isAlive_eq (h : Shows us s t o id outlet outlet' new) (r : Nat) : t.isAlive r = s.isAlive r := by
  rw [isAlive_eq_faces, isAlive_eq_faces, h.faces]

theorem Shows.loaderOf?_eq (h : Shows us s t o id outlet outlet' new) (id' : Nat) : t.loaderOf? id' = s.loaderOf? id' :=
  loaderOf?_congr h.faces h.resolutions id'

/-- An outlet is as it was, or it is the one that shows the active resolution now. Its router is the same. -/
theorem Shows.exists_outlet (h : Shows us s t o id outlet outlet' new) {i : Nat} {g : Outlet}
    (hg : s.outlets[i]? = some g) : ∃ g', t.outlets[i]? = some g' ∧ g'.router = g.router ∧
      (i ≠ o ∧ g' = g ∨ i = o ∧ g' = outlet') := by
  rw [h.outlets]
  by_cases hio : i = o
  · rw [hio, h.before] at hg
    obtain rfl := Option.some.inj hg
    exact ⟨outlet', if_pos hio, h.router, Or.inr ⟨hio, rfl⟩⟩
  · exact ⟨g, (if_neg hio).trans hg, rfl, Or.inl ⟨hio, rfl⟩⟩

/-- An outlet was there before, or it is the one that shows the active resolution now. -/
theorem Shows.outlet_eq (h : Shows us s t o id outlet outlet' new) {i : Nat} {g : Outlet}
    (hg : t.outlets[i]? = some g) : i ≠ o ∧ s.outlets[i]? = some g ∨ i = o ∧ g = outlet' := by
  rw [h.outlets] at hg
  split at hg
  · rename_i hio
    exact Or.inr ⟨hio, (Option.some.inj hg).symm⟩
  · rename_i hio
    exact Or.inl ⟨hio, hg⟩

theorem Shows.startedFor_of_ne (h : Shows us s t o id outlet outlet' new) {l o' id' : Nat} (ho : o' ≠ o) :
    t.StartedFor l o' id' ↔ s.StartedFor l o' id' := by
  rw [StartedFor, StartedFor, h.loads]
  constructor
  · rintro ⟨load, hl, rfl, rfl⟩
    rcases Nat.lt_or_ge l s.loads.length with hlt | hge
    · rw [List.getElem?_append_left hlt] at hl
      exact ⟨load, hl, rfl, rfl⟩
    · rw [List.getElem?_append_right hge] at hl
      exact absurd (h.started load (List.mem_of_getElem? hl)).1 ho
  · rintro ⟨load, hl, hrest⟩
    exact ⟨load, getElem?_append_of_some hl new, hrest⟩

/-- The slots of other outlets stay right, also where a load of this one ended on the way. -/
theorem Shows.slotIsRight_of_ne {vs : List Session} (h : Shows vs s t o id outlet outlet' new)
    (hsub : ∀ u ∈ us, u ∈ vs) (hnew : ∀ u ∈ vs, u ∈ us ∨
      ∀ l value, u.Ends l value → ∃ load, s.loads[l]? = some load ∧ load.outlet = o)
    {i j : Nat} {g : Outlet} {found : Match} (hio : i ≠ o) (hslot : SlotIsRight us s i j g found) :
    SlotIsRight vs t i j g found where
  full := by
    intro props hp
    have hbelongs := (hslot.full props hp).mono hsub
    simp only [BelongsTo, h.loaderOf?_eq, h.startedFor_of_ne hio] at hbelongs ⊢
    exact hbelongs
  empty := by
    intro hnone
    have hunfinished : Unfinished us s i j → Unfinished vs s i j := by
      refine fun hu => hu.mono hsub (fun u hu => (hnew u hu).imp_right ?_)
      rintro hends l ⟨load, hl, hload, _⟩ value hu
      obtain ⟨load', hl', hload'⟩ := hends l value hu
      rw [hl] at hl'
      obtain rfl := Option.some.inj hl'
      exact hio (hload.symm.trans hload')
    obtain ⟨hsome, hempty⟩ := hslot.empty hnone
    refine ⟨(h.loaderOf?_eq j).symm ▸ hsome, fun hr => ?_⟩
    have hu := hunfinished (hempty ((h.isAlive_eq _).symm.trans hr))
    simp only [Unfinished, h.startedFor_of_ne hio] at hu ⊢
    exact hu

/-- An outlet that comes to show the active resolution rightly leaves all outlets right, also where a load of it ended on
the way. -/
theorem Settled.shows (hs : Settled us s) {vs : List Session} (h : Shows vs s t o id outlet outlet' new)
    (hsub : ∀ u ∈ us, u ∈ vs) (hnew : ∀ u ∈ vs, u ∈ us ∨
      ∀ l value, u.Ends l value → ∃ load, s.loads[l]? = some load ∧ load.outlet = o) : Settled vs t := by
  have hcount : t.routers.length = s.routers.length := by
    have hlength := congrArg List.length h.faces
    rw [faces, faces, List.length_map, List.length_map] at hlength
    exact hlength
  have hid : id < s.resolutions.length := by
    obtain ⟨found, hfound⟩ := hs.active _ id h.active
    exact (List.getElem?_eq_some_iff.1 hfound).1
  refine ⟨?_, ?_, ?_, ?_, ?_, ?_⟩
  · intro r i hr
    rw [h.activeResolution?_eq] at hr
    rw [h.resolutions]
    exact hs.active r i hr
  · intro i g hi
    rw [hcount, h.resolutions]
    rcases h.outlet_eq hi with ⟨_, hi⟩ | ⟨_, rfl⟩
    · exact hs.outlets i g hi
    · refine ⟨h.router ▸ (hs.outlets o outlet h.before).1, fun i hshown => ?_⟩
      obtain rfl := Option.some.inj (h.shown.symm.trans hshown)
      exact hid
  · intro i g j found hi hshown hr hfound
    rw [h.activeResolution?_eq] at hr
    rw [h.resolutions] at hfound
    rcases h.outlet_eq hi with ⟨hio, hi⟩ | ⟨rfl, rfl⟩
    · exact h.slotIsRight_of_ne hsub hnew hio (hs.slots i g j found hi hshown hr hfound)
    · obtain rfl := Option.some.inj (h.shown.symm.trans hshown)
      rw [h.router] at hfound
      exact h.right found hfound
  · intro l load hl
    rw [h.loads] at hl
    simp only [h.resolutions, h.loaderOf?_eq, h.activeResolution?_eq]
    rcases Nat.lt_or_ge l s.loads.length with hlt | hge
    · rw [List.getElem?_append_left hlt] at hl
      obtain ⟨g, hg, hinit, hsome, hshown⟩ := hs.loads l load hl
      obtain ⟨g', hg', hrouter, ⟨_, rfl⟩ | ⟨hio, rfl⟩⟩ := h.exists_outlet hg
      · exact ⟨g', hg', hinit, hsome, hshown⟩
      · refine ⟨g', hg', hinit, hsome, fun hr => ?_⟩
        rw [h.router, h.active] at hr
        rw [h.shown]
        exact hr
    · rw [List.getElem?_append_right hge] at hl
      obtain ⟨ho, hinit, hsome⟩ := h.started load (List.mem_of_getElem? hl)
      rw [ho, hinit, h.outlets]
      exact ⟨outlet', if_pos rfl, hid, hsome, fun _ => h.shown⟩
  · intro u hu l value hends
    rw [h.loads, List.length_append]
    rcases hnew u hu with hu | hload
    · exact Nat.lt_of_lt_of_le (hs.ended u hu l value hends) (Nat.le_add_right _ _)
    · obtain ⟨load, hl, _⟩ := hload l value hends
      exact Nat.lt_of_lt_of_le (List.getElem?_eq_some_iff.1 hl).1 (Nat.le_add_right _ _)
  · intro entry he
    rw [h.names] at he
    obtain ⟨g, hg, hr⟩ := hs.named entry he
    obtain ⟨g', hg', hrouter, _⟩ := h.exists_outlet hg
    exact ⟨g', hg', by rw [hrouter, h.isAlive_eq, hr]⟩

/-! ## Rendering -/

/-- No load is of the active resolution as long as its outlet does not show that. -/
theorem Settled.not_startedFor (h : Settled us s) (ho : s.outlets[o]? = some outlet)
    (hactive : s.activeResolution? outlet.router = some id) (hshown : outlet.shown ≠ some id) (l : Nat) :
    ¬s.StartedFor l o id := by
  rintro ⟨load, hl, rfl, rfl⟩
  obtain ⟨g, hg, _, _, hrest⟩ := h.loads l load hl
  rw [ho] at hg
  obtain rfl := Option.some.inj hg
  exact hshown (hrest hactive)

/-- An outlet that begins to show the active resolution with a new load, if it can be spawned, is right. -/
theorem Settled.spawn (h : Settled us s) (ho : s.outlets[o]? = some outlet)
    (hactive : s.activeResolution? outlet.router = some id) (hshown : outlet.shown ≠ some id)
    (hloader : (s.loaderOf? id).isSome) (hrefuses : s.pool.phase = .dropped → ∃ u ∈ us, u.Refuses o id) (u : Session)
    (hfaces : u.faces = s.faces) (hresolutions : u.resolutions = s.resolutions) (hloads : u.loads = s.loads)
    (hnames : u.names = s.names) (hpool : u.pool = s.pool)
    (houtlets : ∀ i : Nat, u.outlets[i]? =
      if i = o then some { outlet with shown := some id, slot := none } else s.outlets[i]?) (source : LoadSource) :
    Settled us (u.spawn ⟨o, id, source⟩) := by
  have hloader' : (u.loaderOf? id).isSome := (loaderOf?_congr hfaces hresolutions id).symm ▸ hloader
  unfold Session.spawn
  split
  · rename_i hdropped
    have hnone : ∀ l, ¬(u.recordLogs [.loadNotSpawned]).StartedFor l o id := by
      intro l
      rw [StartedFor]
      change ¬∃ load, u.loads[l]? = some load ∧ _
      rw [hloads]
      exact h.not_startedFor ho hactive hshown l
    have hshows : Shows us s (u.recordLogs [.loadNotSpawned]) o id outlet
        { outlet with shown := some id, slot := none } [] := by
      refine ⟨ho, rfl, rfl, hactive, ?_, hfaces, hresolutions, houtlets, ?_, congrArg Names.outlets hnames, ?_⟩
      · intro load hload
        simp at hload
      · rw [List.append_nil]
        exact hloads
      · intro found _
        refine ⟨fun props hp => (by cases hp), fun _ => ⟨hloader', fun _ => ⟨?_, ?_⟩⟩⟩
        · exact fun l hl => absurd hl (hnone l)
        · exact Or.inr (hrefuses (hpool ▸ hdropped))
    exact h.shows hshows (fun _ hu => hu) (fun _ hu => Or.inl hu)
  · let spawned : Session := { u with
      loads := u.loads ++ [⟨o, id, source⟩]
      pool := { u.pool with spawned := u.pool.spawned ++ [u.loads.length] } }
    have hshows : Shows us s spawned o id outlet { outlet with shown := some id, slot := none } [⟨o, id, source⟩] := by
      refine ⟨ho, rfl, rfl, hactive, ?_, hfaces, hresolutions, houtlets, congrArg (· ++ _) hloads,
        congrArg Names.outlets hnames, ?_⟩
      · intro load hload
        obtain rfl := List.mem_singleton.1 hload
        exact ⟨rfl, rfl, hloader⟩
      intro found _
      refine ⟨fun props hp => (by cases hp), fun _ => ⟨hloader', fun _ => ⟨?_, ?_⟩⟩⟩
      · rintro l ⟨load, hl, hload, hinit⟩ v hv value hends
        have hlt := h.ended v hv l value hends
        have hold : s.loads[l]? = some load := by
          change (u.loads ++ [_])[l]? = some load at hl
          rw [hloads, List.getElem?_append_left hlt] at hl
          exact hl
        exact h.not_startedFor ho hactive hshown l ⟨load, hold, hload, hinit⟩
      · refine Or.inl ⟨s.loads.length, ⟨o, id, source⟩, ?_, rfl, rfl⟩
        change (u.loads ++ [_])[s.loads.length]? = _
        rw [hloads, List.getElem?_append_right (Nat.le_refl _), Nat.sub_self]
        rfl
    exact h.shows hshows (fun _ hu => hu) (fun _ hu => Or.inl hu)

/-- Without a loader the params belong to the resolution. -/
theorem belongsTo_of_loaderOf?_eq_none (h : s.loaderOf? id = none) (o : Nat) (found : Match) :
    BelongsTo us s o id found (.ofParams found.params) := by
  unfold BelongsTo
  rw [h]

/-- With a loader what the outlet's load ended with belongs to the resolution. -/
theorem belongsTo_of_loaderOf?_eq_some {loader : Loader} (h : s.loaderOf? id = some loader) {l : Nat}
    (hstarted : s.StartedFor l o id) (found : Match) {u : Session} (hu : u ∈ us) {value : Props} (hends : u.Ends l value) :
    BelongsTo us s o id found value := by
  unfold BelongsTo
  rw [h]
  exact ⟨l, hstarted, u, hu, hends⟩

/-- Rendering leaves all outlets right. -/
theorem Settled.render (h : Settled us s) (o : Nat)
    (hrefuses : ∀ outlet id, s.outlets[o]? = some outlet → s.activeResolution? outlet.router = some id →
      outlet.shown ≠ some id → s.pool.phase = .dropped → ∃ u ∈ us, u.Refuses o id) : Settled us (s.render o) := by
  unfold Session.render
  cases ho : s.outlets[o]? with
  | none => exact h
  | some outlet =>
    simp only
    cases hactive : s.activeResolution? outlet.router with
    | none => exact h
    | some id =>
      simp only
      split
      · exact h
      · rename_i hshown
        obtain ⟨found, hfound⟩ := h.active _ id hactive
        simp only [hfound]
        have hloader : (s.routeOf? ⟨outlet.router, found⟩).bind (·.loader) = s.loaderOf? id := by
          rw [loaderOf?, hfound]
          rfl
        rw [hloader]
        cases hl : s.loaderOf? id with
        | none =>
          simp only
          suffices hshows : Shows us s _ o id outlet
              { outlet with shown := some id, slot := some (.ofParams found.params) } [] from
            h.shows hshows (fun _ hu => hu) (fun _ hu => Or.inl hu)
          refine ⟨ho, rfl, rfl, hactive, ?_, rfl, rfl, ?_, (List.append_nil _).symm, rfl, ?_⟩
          · intro load hload
            simp at hload
          · intro i
            simp only [withOutlet, List.getElem?_modify]
            by_cases hi : i = o
            · subst hi
              simp [ho]
            · have hi' : ¬o = i := fun h => hi h.symm
              simp [hi, hi']
          · intro found' hfound'
            obtain rfl := (Resolution.mk.inj (Option.some.inj (hfound.symm.trans hfound'))).2
            refine ⟨fun props hp => ?_, fun hnone => by cases hnone⟩
            obtain rfl := Option.some.inj hp
            exact belongsTo_of_loaderOf?_eq_none ((loaderOf?_congr rfl rfl id).trans hl) o found
        | some loader =>
          simp only [beginLoad]
          have houtlets : ∀ i : Nat, ((s.withOutlet o (fun g => { g with shown := some id })).withOutlet o
              (fun g => { g with slot := none })).outlets[i]? =
                if i = o then some { outlet with shown := some id, slot := none } else s.outlets[i]? := by
            intro i
            simp only [withOutlet, List.getElem?_modify]
            by_cases hi : i = o
            · subst hi
              simp [ho]
            · have hi' : ¬o = i := fun h => hi h.symm
              simp [hi, hi']
          have hspawn := h.spawn ho hactive hshown (by rw [hl]; rfl) (hrefuses outlet id ho hactive hshown)
          split
          · refine hspawn _ ?_ ?_ ?_ ?_ ?_ ?_ _
            exacts [rfl, rfl, rfl, rfl, rfl, houtlets]
          · refine hspawn _ ?_ ?_ ?_ ?_ ?_ ?_ _
            exacts [rfl, rfl, rfl, rfl, rfl, houtlets]

/-! ## Loads that proceed -/

/-- A load that ends leaves all outlets right: it goes to its outlet if its resolution is still the active one, and
otherwise no outlet that shows the active resolution waits for it. -/
theorem Settled.finish (h : Settled us s) {u : Session} {l : Nat} {load : Load} {value : Props}
    (hl : s.loads[l]? = some load) (hends : u.Ends l value) : Settled (u :: us) (s.finish load value) := by
  have hsub : ∀ v ∈ us, v ∈ u :: us := fun v hv => List.mem_cons_of_mem u hv
  obtain ⟨outlet, ho, _, hloader, hshown⟩ := h.loads l load hl
  unfold Session.finish
  simp only [ho]
  split
  · rename_i happlies
    obtain ⟨halive, hactive⟩ := happlies
    suffices hshows : Shows (u :: us) s _ load.outlet load.initiator outlet { outlet with slot := some value } [] by
      refine h.shows hshows hsub ?_
      intro v hv
      rcases List.mem_cons.1 hv with rfl | hv
      · refine Or.inr (fun l' value' hends' => ?_)
        obtain rfl := hends.unique hends'
        exact ⟨load, hl, rfl⟩
      · exact Or.inl hv
    refine ⟨ho, rfl, hshown hactive, hactive, ?_, rfl, rfl, ?_, (List.append_nil _).symm, rfl, ?_⟩
    · intro g hg
      simp at hg
    · intro i
      change (s.outlets.modify load.outlet _)[i]? = _
      rw [List.getElem?_modify]
      by_cases hi : i = load.outlet
      · rw [hi, ho]
        simp
      · have hi' : ¬load.outlet = i := fun h => hi h.symm
        simp [hi, hi']
    · intro found _
      refine ⟨fun props hp => ?_, fun hnone => (by cases hnone)⟩
      obtain rfl := Option.some.inj hp
      obtain ⟨loader, hloader⟩ := Option.isSome_iff_exists.1 hloader
      refine belongsTo_of_loaderOf?_eq_some ((loaderOf?_congr rfl rfl _).trans hloader) (l := l) ?_ found
        (List.mem_cons_self ..) hends
      exact ⟨load, hl, rfl, rfl⟩
  · rename_i hdiscarded
    refine Settled.keeps (h.visit ?_ ?_) (keeps_recordLogs s _)
    · intro l' value' hends'
      rw [← hends.unique hends']
      exact (List.getElem?_eq_some_iff.1 hl).1
    · rintro o g id hg hactive halive l' ⟨load', hl', rfl, rfl⟩ value' hends'
      obtain rfl := hends.unique hends'
      obtain rfl := Option.some.inj (hl.symm.trans hl')
      obtain rfl := Option.some.inj (ho.symm.trans hg)
      exact hdiscarded ⟨halive, hactive⟩

/-- Running the pool leaves all outlets right. -/
theorem Settled.poll {rest : List Task} (h : Settled us s) (hpoll : s.agenda = .poll :: rest) :
    Settled (s :: us) (({ s with agenda := rest } : Session).poll) := by
  have hrest : Settled us { s with agenda := rest } := h.keeps ⟨rfl, rfl, rfl, rfl, fun _ h => h⟩
  unfold Session.poll
  simp only
  cases hpool : s.pool.ready ++ s.pool.spawned with
  | nil =>
    have hends : ∀ l value, ¬s.Ends l value := by
      rintro l value ⟨_, _, _, _, hlist, _, _⟩
      rw [hpool] at hlist
      cases hlist
    exact (hrest.visit_of_not_ends hends).keeps ⟨rfl, rfl, rfl, rfl, fun _ h => h⟩
  | cons l later =>
    have hfirst : ∀ l' value, s.Ends l' value → l' = l ∧ ∃ load, s.loads[l]? = some load ∧
        s.valueFrom? load.source = some value := by
      rintro l' value ⟨_, _, load, _, hlist, hload, hvalue⟩
      rw [hpool] at hlist
      obtain ⟨rfl, _⟩ := List.cons.inj hlist
      exact ⟨rfl, load, hload, hvalue⟩
    have hpolled : Settled us (({ s with agenda := rest, pool := ⟨.running, later, []⟩ } : Session).first [.poll]) :=
      h.keeps ⟨rfl, rfl, rfl, rfl, fun _ h => h⟩
    simp only [Session.proceed]
    cases hl : s.loads[l]? with
    | none =>
      have hends : ∀ l' value, ¬s.Ends l' value := by
        intro l' value hends
        obtain ⟨_, load, hload, _⟩ := hfirst l' value hends
        rw [hl] at hload
        cases hload
      have hl' : (({ s with agenda := rest, pool := ⟨.running, later, []⟩ } : Session).first [.poll]).loads[l]? = none :=
        hl
      simp only [hl']
      exact hpolled.visit_of_not_ends hends
    | some load =>
      have hl' : (({ s with agenda := rest, pool := ⟨.running, later, []⟩ } : Session).first [.poll]).loads[l]? =
        some load := hl
      have hends : ∀ value, s.valueFrom? load.source = some value → s.Ends l value :=
        fun value hvalue => ⟨rest, later, load, hpoll, hpool, hl, hvalue⟩
      simp only [hl']
      cases hsource : load.source with
      | ready value =>
        simp only
        exact hpolled.finish hl' (hends value (by rw [hsource]; rfl))
      | pending n =>
        simp only
        have hdeliveries : (({ s with agenda := rest, pool := ⟨.running, later, []⟩ } : Session).first [.poll]).deliveries =
          s.deliveries := rfl
        rw [hdeliveries]
        cases hvalue : s.deliveries[n]?.bind (·.value) with
        | some value =>
          simp only
          exact hpolled.finish hl' (hends value (by rw [hsource]; exact hvalue))
        | none =>
          simp only
          have hnone : ∀ l' value, ¬s.Ends l' value := by
            intro l' value hends
            obtain ⟨_, load', hload', hvalue'⟩ := hfirst l' value hends
            obtain rfl := Option.some.inj (hl.symm.trans hload')
            rw [hsource] at hvalue'
            rw [valueFrom?, hvalue] at hvalue'
            cases hvalue'
          exact (hpolled.visit_of_not_ends hnone).keeps ⟨rfl, rfl, rfl, rfl, fun _ h => h⟩

/-! ## Runs -/

/-- A step leaves all outlets right. -/
theorem Settled.step (h : Settled us s) (hstep : s.step? = some t) : Settled (s :: us) t := by
  obtain ⟨task, rest, hagenda, rfl⟩ := (step?_eq_some_iff s t).1 hstep
  have hpop : Keeps s { s with agenda := rest } := ⟨rfl, rfl, rfl, rfl, fun _ h => h⟩
  refine Settled.alike ?_ (alike_sweep _)
  by_cases hpoll : task = .poll
  · subst hpoll
    exact h.poll hagenda
  · have hends : ∀ l value, ¬s.Ends l value := by
      rintro l value ⟨_, _, _, hhead, _⟩
      rw [hagenda] at hhead
      exact hpoll (List.cons.inj hhead).1
    have hvisited := (h.visit_of_not_ends hends).keeps hpop
    cases hquiet : task.isQuiet with
    | true => exact hvisited.keeps (keeps_perform _ hquiet)
    | false =>
      cases task with
      | openRouter name history routes => exact hvisited.openRouter name history routes
      | openOutlet name r handler => exact hvisited.openOutlet name r handler
      | navigate r path => exact hvisited.alike (alike_navigate _ r path)
      | resolve r path => exact hvisited.resolve r path
      | drain r => exact hvisited.alike (alike_drain _ r)
      | render o =>
        refine hvisited.render o ?_
        intro outlet id ho hactive hshown hdropped
        exact ⟨s, List.mem_cons_self .., rest, outlet, hagenda, ho, hactive, hshown, hdropped⟩
      | poll => exact absurd rfl hpoll
      | _ => cases hquiet

/-- All outlets are right along every run. -/
theorem OpenRun.settled (h : OpenRun Session.empty us s) : Settled us s := by
  induction h with
  | start => exact settled_empty
  | step _ hstep ih =>
    cases hstep with
    | own hown => exact ih.step hown
    | told c _ => exact ih.keeps (keeps_begin _ c)
    | outside histories _ pool _ tasks _ => exact ih.keeps (keeps_interrupt _ histories pool tasks)

/-- A rendered outlet shows the active resolution. -/
theorem Settled.shown_render (h : Settled us s) (ho : s.outlets[o]? = some outlet)
    (hactive : s.activeResolution? outlet.router = some id) : ∃ outlet', (s.render o).outlets[o]? = some outlet' ∧
      outlet'.router = outlet.router ∧ outlet'.shown = some id := by
  obtain ⟨found, hfound⟩ := h.active _ id hactive
  have hspawn : ∀ (u : Session) (load : Load), (u.spawn load).outlets = u.outlets := by
    intro u load
    unfold Session.spawn
    split <;> rfl
  unfold Session.render
  simp only [ho, hactive]
  split
  · rename_i hshown
    exact ⟨outlet, ho, rfl, hshown⟩
  · simp only [hfound]
    split
    · simp [withOutlet, ho]
    · unfold beginLoad
      simp only
      split
      · simp [hspawn, withOutlet, record, ho]
      · simp [hspawn, withOutlet, record, ho]

/-- Rendering changes neither what routers show nor names. -/
theorem faces_names_render (s : Session) (o : Nat) :
    (s.render o).faces = s.faces ∧ (s.render o).names = s.names := by
  obtain ⟨_, _, _, _, _, heq⟩ := render_eq s o
  rw [heq]
  exact ⟨rfl, rfl⟩

/-- What rendering an outlet returns is right. A view is of the active match, with props that belong to its resolution.
There is no view only without an active match, or where the match has a loader and the load that the outlet started for
it, if it could be spawned, has not run to completion. -/
def IsRendered (us : List Session) (s : Session) (o r : Nat) : Prop :=
  match s.viewOf o with
  | .view route props => ∃ id found, s.activeResolution? r = some id ∧ s.resolutions[id]? = some ⟨r, found⟩ ∧
      s.active? r = some found ∧ route = found.route ∧ BelongsTo us s o id found props
  | .nothing => s.active? r = none ∨
      ∃ id, s.activeResolution? r = some id ∧ (s.loaderOf? id).isSome ∧ Unfinished us s o id
  | _ => False

/-- Whatever navigations, moves, renders and loads came before, in any order, rendering an outlet returns what is right
for the match that is then active on its router. -/
theorem isRendered_of_render {name : Text} {rest : List Task} (hrun : OpenRun Session.empty us s)
    (ho : s.outlets[o]? = some outlet) (hname : s.names.outlets.get? name = some o)
    (hrender : s.agenda = .render o :: rest) :
    ∃ t, s.step? = some t ∧ IsRendered (s :: us) t o outlet.router := by
  let rendered := ({ s with agenda := rest } : Session).render o
  have hstep : s.step? = some rendered.sweep := (step?_eq_some_iff s _).2 ⟨.render o, rest, hrender, rfl⟩
  refine ⟨rendered.sweep, hstep, ?_⟩
  have hpopped : Settled us { s with agenda := rest } := hrun.settled.keeps ⟨rfl, rfl, rfl, rfl, fun _ h => h⟩
  have hafter := hrun.settled.step hstep
  obtain ⟨hfaces, hnames⟩ := faces_names_render { s with agenda := rest } o
  have hactive : ∀ r, rendered.sweep.activeResolution? r = s.activeResolution? r := by
    intro r
    rw [(alike_sweep rendered).active, activeResolution?_eq_faces, hfaces, ← activeResolution?_eq_faces]
    rfl
  unfold IsRendered viewOf
  cases hid : s.activeResolution? outlet.router with
  | none =>
    have hnone : rendered.sweep.active? outlet.router = none := by
      rw [active?, hactive, hid]
      rfl
    have hsame : rendered = { s with agenda := rest } := by
      have ho' : ({ s with agenda := rest } : Session).outlets[o]? = some outlet := ho
      have hid' : ({ s with agenda := rest } : Session).activeResolution? outlet.router = none := hid
      simp only [rendered, Session.render, ho', hid']
    have ho' : rendered.sweep.outlets[o]? = some outlet := by
      rw [hsame]
      exact ho
    simp only [ho', hnone]
    exact Or.inl trivial
  | some id =>
    obtain ⟨outlet', ho', hrouter, hshown⟩ := hpopped.shown_render ho hid
    have ho'' : rendered.sweep.outlets[o]? = some outlet' := ho'
    have hid' : rendered.sweep.activeResolution? outlet.router = some id := (hactive _).trans hid
    obtain ⟨found, hfound⟩ := hafter.active _ id hid'
    have hmatch : rendered.sweep.active? outlet.router = some found := by
      rw [active?, hid', Option.bind_some, hfound]
      rfl
    have hslot := hafter.slots o outlet' id found ho'' hshown (hrouter ▸ hid') (hrouter ▸ hfound)
    simp only [ho'', hrouter, hmatch]
    cases hprops : outlet'.slot with
    | some props => exact ⟨id, found, hid', hfound, rfl, rfl, hslot.full props hprops⟩
    | none =>
      obtain ⟨hloader, hunfinished⟩ := hslot.empty hprops
      refine Or.inr ⟨id, hid', hloader, hunfinished ?_⟩
      have hentry : (name, o) ∈ rendered.sweep.names.outlets := by
        change (name, o) ∈ rendered.names.outlets
        rw [hnames]
        obtain ⟨before, after, happend, _⟩ := List.lookup_eq_some_iff.1 hname
        change (name, o) ∈ s.names.outlets
        rw [happend]
        exact List.mem_append_right before (List.mem_cons_self ..)
      obtain ⟨g, hg, halive⟩ := hafter.named _ hentry
      obtain rfl := Option.some.inj (ho''.symm.trans hg)
      exact halive

/-- An outlet `o` of a router `r` with the one route `/`, over a history that starts there. -/
def outletAtRoot : Session :=
  let name (text : String) : Field Text := .given (Text.ofString text)
  let routes : Field (List RouteSpec) := .given [⟨.ok (some (.pattern ['/'])), .given .params⟩]
  let history := empty.doStep 9 (.mk none (.newMemory (name "h") .absent .absent))
  let router := history.doStep 9 (.mk none (.newRouter (name "r") (name "h") routes))
  let root := router.doStep 9 (.mk none (.newRoot (name "root")))
  let scope := root.doStep 9 (.mk none (.provide (name "scope") (name "root") (name "r")))
  scope.doStep 9 (.mk none (.newOutlet (name "o") (name "scope") (.mk .absent .absent .absent)))

/-- The outlet is about to be rendered. -/
def outletAsked : Session :=
  ((outletAtRoot.begin (.mk none (.render (.given (Text.ofString "o"))))).step?).getD outletAtRoot

/-- The first rendering of an outlet whose route has a loader returns nothing: the load was not run yet. -/
theorem isRendered_outletAsked : ∃ us t, outletAsked.step? = some t ∧ IsRendered (outletAsked :: us) t 0 0 := by
  have hready : ∃ us, OpenRun empty us outletAtRoot := by
    refine exists_openRun_doStep ?_ rfl 9 _
    refine exists_openRun_doStep ?_ rfl 9 _
    refine exists_openRun_doStep ?_ rfl 9 _
    refine exists_openRun_doStep ?_ rfl 9 _
    exact exists_openRun_doStep ⟨[], OpenRun.start⟩ rfl 9 _
  obtain ⟨us, hus⟩ := hready
  have htold := hus.step (OpenStep.told (.mk none (.render (.given (Text.ofString "o")))) rfl)
  have hasked := htold.step (OpenStep.own (t := outletAsked) rfl)
  have hname : outletAsked.names.outlets.get? (Text.ofString "o") = some 0 := rfl
  obtain ⟨t, hstep, hrendered⟩ := isRendered_of_render hasked rfl hname rfl
  exact ⟨_, t, hstep, hrendered⟩

end Session

end PathRouting
