import PathRouting.Proofs.Faces

/-!
# Where callbacks are registered

A callback comes with the router that listens, or with a handler. It has one place for good: a key of a registry, or an
outlet with its key among the observers of a router, or a cell. Statements: where a session renews another one, callbacks
that were known keep to their places and new ones get one, renewals compose, and a callback that is known and registered
was registered before. What is registered is settled by the registries and by who lives.
-/

namespace PathRouting

/-- Where a callback is called from: the registry with its key, the outlet that observes a router with a key, or the
cell. -/
inductive Place where
  | registry (owner : Owner) (key : Nat)
  | outlet (o router key : Nat)
  | cell (c : Nat)

namespace Place

/-- The registry that calls the callback of a place, and the key there. -/
def seat? : Place → Option (Owner × Nat)
  | registry owner key => some (owner, key)
  | outlet _ router key => some (.router router, key)
  | cell _ => none

/-- What is registered with an owner of a callback that has a place, at most. -/
def entries (place : Option Place) (callback : Callback) (owner : Owner) : List (Nat × Callback) :=
  match place.bind seat? with
  | some (owner', key) => if owner' = owner then [(key, callback)] else []
  | none => []

end Place

/-- What an outlet is for good: its router, its key among the observers, and its handler. -/
def Outlet.seat (g : Outlet) : Nat × Nat × Nat := (g.router, g.observerKey, g.handler)

/-- The seat of an outlet tells its router, its key and its handler. -/
theorem Outlet.eq_of_seat_eq {g g' : Outlet} (h : g.seat = g'.seat) :
    g.router = g'.router ∧ g.observerKey = g'.observerKey ∧ g.handler = g'.handler := by
  simpa only [seat, Prod.mk.injEq] using h

/-- The callback belongs to a handler or a router that there is. -/
def Callback.IsKnown (s : Session) : Callback → Prop
  | .handler index => index < s.handlers.length
  | .follow r => r < s.routers.length

/-- What is found in a list with one more entry was there before or is the new one. -/
theorem getElem?_append_singleton_cases {α : Type} {l : List α} {a b : α} {i : Nat} (h : (l ++ [a])[i]? = some b) :
    l[i]? = some b ∨ i = l.length ∧ b = a := by
  rcases Nat.lt_or_ge i l.length with hlt | hge
  · rw [List.getElem?_append_left hlt] at h
    exact Or.inl h
  · rw [List.getElem?_append_right hge] at h
    have hlast := (List.getElem?_eq_some_iff.1 h).1
    rw [List.length_singleton] at hlast
    exact Or.inr ⟨by omega, List.mem_singleton.1 (List.mem_of_getElem? h)⟩

/-- What has no entries adds none. -/
theorem entries_append_singleton {α β : Type} {f : α → List β} {a : α} (hf : f a = []) (l : List α) (i : Nat) :
    ((l ++ [a])[i]?.map f).getD [] = (l[i]?.map f).getD [] := by
  rcases Nat.lt_or_ge i l.length with hlt | hge
  · rw [List.getElem?_append_left hlt]
  · rw [List.getElem?_append_right hge, List.getElem?_eq_none hge]
    cases i - l.length with
    | zero => exact hf
    | succ => rfl

namespace Session

variable {s t u : Session} {callback : Callback} {place : Option Place}

/-- A callback is called from its place at most, if it has one, and from nowhere otherwise. -/
structure KeepsTo (s : Session) (callback : Callback) (place : Option Place) : Prop where
  callbacks : ∀ owner, ((s.callbacks owner).filter (fun entry => entry.2 = callback)).Sublist
    (Place.entries place callback owner)
  cells : ∀ (c : Nat) (cell : Cell), s.cells[c]? = some cell → callback = .handler cell.handler → place = some (.cell c)
  outlets : ∀ (o : Nat) (outlet : Outlet), s.outlets[o]? = some outlet → callback = .handler outlet.handler →
    place = some (.outlet o outlet.router outlet.observerKey)

/-- The callback is known in the second session and not in the first. -/
def IsNew (s t : Session) (callback : Callback) : Prop := ¬callback.IsKnown s ∧ callback.IsKnown t

/-- In the second session callbacks that are known in the first are called from no other places, outlets are where they
were, and each new callback has a place. -/
structure Renews (s t : Session) : Prop where
  known : ∀ callback : Callback, callback.IsKnown s → callback.IsKnown t
  callbacks : ∀ owner, ∃ new, (t.callbacks owner).Sublist (s.callbacks owner ++ new) ∧ ∀ entry ∈ new, IsNew s t entry.2
  cells : ∀ (c : Nat) (cell : Cell), t.cells[c]? = some cell →
    (∃ old, s.cells[c]? = some old ∧ old.handler = cell.handler) ∨ IsNew s t (.handler cell.handler)
  outlets : ∀ (o : Nat) (outlet : Outlet), t.outlets[o]? = some outlet →
    (∃ old, s.outlets[o]? = some old ∧ old.seat = outlet.seat) ∨ IsNew s t (.handler outlet.handler)
  seats : s.outlets.map Outlet.seat <+: t.outlets.map Outlet.seat
  places : ∀ callback, IsNew s t callback → s.KeepsTo callback none → ∃ place, t.KeepsTo callback (some place)

/-- Every callback that is known has a place, and the others have none. -/
def Placed (s : Session) : Prop := ∀ callback : Callback, ∃ place, s.KeepsTo callback place ∧
  (callback.IsKnown s ∨ place = none)

/-! ## Keeping places -/

/-- A callback that is not new keeps to its place. -/
theorem KeepsTo.renews (h : s.KeepsTo callback place) (hr : Renews s t) (hold : ¬IsNew s t callback) :
    t.KeepsTo callback place where
  callbacks := by
    intro owner
    obtain ⟨new, hsub, hnew⟩ := hr.callbacks owner
    have hnone : new.filter (fun entry => entry.2 = callback) = [] := by
      rw [List.filter_eq_nil_iff]
      intro entry he hcallback
      exact hold (of_decide_eq_true hcallback ▸ hnew entry he)
    have hfilter := hsub.filter (fun entry => entry.2 = callback)
    rw [List.filter_append, hnone, List.append_nil] at hfilter
    exact hfilter.trans (h.callbacks owner)
  cells := by
    intro c cell hc hcallback
    rcases hr.cells c cell hc with ⟨old, hold', hhandler⟩ | hnew
    · exact h.cells c old hold' (hhandler ▸ hcallback)
    · exact absurd (hcallback ▸ hnew) hold
  outlets := by
    intro o outlet ho hcallback
    rcases hr.outlets o outlet ho with ⟨old, hold', hseat⟩ | hnew
    · obtain ⟨hrouter, hkey, hhandler⟩ := Outlet.eq_of_seat_eq hseat
      rw [h.outlets o old hold' (hhandler ▸ hcallback), hrouter, hkey]
    · exact absurd (hcallback ▸ hnew) hold

/-- A callback that is known keeps to its place while callbacks are added and taken away. -/
theorem KeepsTo.of_known (h : s.KeepsTo callback place) (hr : Renews s t) (hknown : callback.IsKnown s) :
    t.KeepsTo callback place := h.renews hr (fun hnew => hnew.1 hknown)

/-- Callbacks are at the places where they are. -/
theorem renews_refl (s : Session) : Renews s s where
  known := fun _ h => h
  callbacks := fun owner => ⟨[], by rw [List.append_nil], fun _ h => absurd h List.not_mem_nil⟩
  cells := fun _ cell hc => Or.inl ⟨cell, hc, rfl⟩
  outlets := fun _ outlet ho => Or.inl ⟨outlet, ho, rfl⟩
  seats := List.prefix_refl _
  places := fun _ hnew => absurd hnew.2 hnew.1

/-- Callbacks that stay at their places in two steps stay there in both together. -/
theorem Renews.trans (h : Renews s t) (h' : Renews t u) : Renews s u := by
  have hfirst : ∀ callback, IsNew s t callback → IsNew s u callback := fun c hc => ⟨hc.1, h'.known c hc.2⟩
  have hsecond : ∀ callback, IsNew t u callback → IsNew s u callback := fun c hc => ⟨fun hs => hc.1 (h.known c hs), hc.2⟩
  refine ⟨fun c hc => h'.known c (h.known c hc), ?_, ?_, ?_, h.seats.trans h'.seats, ?_⟩
  · intro owner
    obtain ⟨new, hsub, hnew⟩ := h.callbacks owner
    obtain ⟨new', hsub', hnew'⟩ := h'.callbacks owner
    refine ⟨new ++ new', hsub'.trans ?_, ?_⟩
    · rw [← List.append_assoc]
      exact hsub.append_right new'
    · intro entry he
      rcases List.mem_append.1 he with he | he
      · exact hfirst _ (hnew entry he)
      · exact hsecond _ (hnew' entry he)
  · intro c cell hc
    rcases h'.cells c cell hc with ⟨middle, hm, hhandler⟩ | hnew
    · rcases h.cells c middle hm with ⟨old, hold, hhandler'⟩ | hnew
      · exact Or.inl ⟨old, hold, hhandler'.trans hhandler⟩
      · exact Or.inr (hfirst _ (hhandler ▸ hnew))
    · exact Or.inr (hsecond _ hnew)
  · intro o outlet ho
    rcases h'.outlets o outlet ho with ⟨middle, hm, hseat⟩ | hnew
    · rcases h.outlets o middle hm with ⟨old, hold, hseat'⟩ | hnew
      · exact Or.inl ⟨old, hold, hseat'.trans hseat⟩
      · exact Or.inr (hfirst _ ((Outlet.eq_of_seat_eq hseat).2.2 ▸ hnew))
    · exact Or.inr (hsecond _ hnew)
  · intro c hc hnone
    by_cases hmiddle : c.IsKnown t
    · obtain ⟨place, hplace⟩ := h.places c ⟨hc.1, hmiddle⟩ hnone
      exact ⟨place, hplace.of_known h' hmiddle⟩
    · exact h'.places c ⟨hmiddle, hc.2⟩ (hnone.renews h (fun hnew => hmiddle hnew.2))

/-- Where handlers, routers, cells and the seats of outlets are as they were, callbacks can only have gone. -/
theorem Renews.of_sublist (hcallbacks : ∀ owner, (t.callbacks owner).Sublist (s.callbacks owner))
    (hhandlers : t.handlers.length = s.handlers.length) (hrouters : t.routers.length = s.routers.length)
    (hcells : t.cells.map (·.handler) = s.cells.map (·.handler))
    (houtlets : t.outlets.map Outlet.seat = s.outlets.map Outlet.seat) : Renews s t := by
  have hknown : ∀ c : Callback, c.IsKnown s ↔ c.IsKnown t := by
    intro c
    cases c with
    | handler index => simp only [Callback.IsKnown, hhandlers]
    | follow r => simp only [Callback.IsKnown, hrouters]
  refine ⟨fun c => (hknown c).1, ?_, ?_, ?_, houtlets ▸ List.prefix_refl _,
    fun c hc => absurd ((hknown c).2 hc.2) hc.1⟩
  · intro owner
    refine ⟨[], ?_, fun _ h => absurd h List.not_mem_nil⟩
    rw [List.append_nil]
    exact hcallbacks owner
  · intro c cell hc
    have hget : (s.cells.map (·.handler))[c]? = some cell.handler := by
      rw [← hcells, List.getElem?_map, hc]
      rfl
    rw [List.getElem?_map] at hget
    exact Or.inl (Option.map_eq_some_iff.1 hget)
  · intro o outlet ho
    have hget : (s.outlets.map Outlet.seat)[o]? = some outlet.seat := by
      rw [← houtlets, List.getElem?_map, ho]
      rfl
    rw [List.getElem?_map] at hget
    exact Or.inl (Option.map_eq_some_iff.1 hget)

/-- What registers nothing and makes no handler, router, cell or outlet renews nothing. -/
theorem Renews.of_eq (hcallbacks : ∀ owner, t.callbacks owner = s.callbacks owner)
    (hhandlers : t.handlers.length = s.handlers.length) (hrouters : t.routers = s.routers) (hcells : t.cells = s.cells)
    (houtlets : t.outlets = s.outlets) : Renews s t :=
  Renews.of_sublist (fun owner => hcallbacks owner ▸ List.Sublist.refl _) hhandlers (by rw [hrouters]) (by rw [hcells])
    (by rw [houtlets])

/-- All that settles where callbacks are called from. -/
def wiring (s : Session) : (Owner → List (Nat × Callback)) × List Handler × List Router × List Cell × List Outlet :=
  (s.callbacks, s.handlers, s.routers, s.cells, s.outlets)

/-- With the same wiring every callback is at its place. -/
theorem Renews.of_wiring (h : t.wiring = s.wiring) : Renews s t := by
  obtain ⟨hcallbacks, hhandlers, hrouters, hcells, houtlets⟩ : t.callbacks = s.callbacks ∧ t.handlers = s.handlers ∧
      t.routers = s.routers ∧ t.cells = s.cells ∧ t.outlets = s.outlets := by
    simpa only [wiring, Prod.mk.injEq] using h
  exact Renews.of_eq (congrFun hcallbacks) (by rw [hhandlers]) hrouters hcells houtlets

/-- New callbacks have places, and the others keep to theirs. -/
theorem Placed.renews (h : Placed s) (hr : Renews s t) : Placed t := by
  intro callback
  obtain ⟨place, hplace, hknown⟩ := h callback
  by_cases hs : callback.IsKnown s
  · exact ⟨place, hplace.of_known hr hs, Or.inl (hr.known _ hs)⟩
  · obtain rfl := hknown.resolve_left hs
    by_cases ht : callback.IsKnown t
    · obtain ⟨place', hplace'⟩ := hr.places callback ⟨hs, ht⟩ hplace
      exact ⟨some place', hplace', Or.inl ht⟩
    · exact ⟨none, hplace.renews hr (fun hnew => ht hnew.2), Or.inr rfl⟩

/-- An outlet keeps its seat. -/
theorem Renews.seat_eq (h : Renews s t) {o : Nat} {g g' : Outlet} (hs : s.outlets[o]? = some g)
    (ht : t.outlets[o]? = some g') : g'.seat = g.seat := by
  have hseat : (t.outlets.map Outlet.seat)[o]? = some g.seat := by
    obtain ⟨new, hnew⟩ := h.seats
    rw [← hnew, List.getElem?_append_left, List.getElem?_map, hs]
    · rfl
    · rw [List.length_map]
      exact (List.getElem?_eq_some_iff.1 hs).1
  rw [List.getElem?_map, ht] at hseat
  exact Option.some.inj hseat

/-- An outlet is there for good. -/
theorem Renews.exists_outlet (h : Renews s t) {o : Nat} {g : Outlet} (hs : s.outlets[o]? = some g) :
    ∃ g', t.outlets[o]? = some g' ∧ g'.seat = g.seat := by
  have hlength := h.seats.length_le
  rw [List.length_map, List.length_map] at hlength
  have ht := List.getElem?_eq_getElem (Nat.lt_of_lt_of_le (List.getElem?_eq_some_iff.1 hs).1 hlength)
  exact ⟨_, ht, h.seat_eq hs ht⟩

/-- A callback that is known and registered was registered before. -/
theorem Renews.mem_callbacks (h : Renews s t) {owner : Owner} {key : Nat} (hknown : callback.IsKnown s)
    (hm : (key, callback) ∈ t.callbacks owner) : (key, callback) ∈ s.callbacks owner := by
  obtain ⟨new, hsub, hnew⟩ := h.callbacks owner
  rcases List.mem_append.1 (hsub.subset hm) with hm | hm
  · exact hm
  · exact absurd hknown (hnew _ hm).1

/-! ## What is registered -/

/-- The callbacks of an owner are the entries of its registry. -/
theorem callbacks_eq (s : Session) (owner : Owner) : s.callbacks owner = (( s.registry? owner).map (·.entries)).getD [] := by
  unfold callbacks
  cases s.registry? owner <;> rfl

/-- The callbacks of a history are its listeners while it is alive. -/
theorem callbacks_history (s : Session) (h : Nat) : s.callbacks (.history h) =
    (s.histories[h]?.map (fun g => if g.alive then g.listeners.entries else [])).getD [] := by
  cases hget : s.histories[h]? with
  | none => simp [callbacks, registry?, hget]
  | some g => cases halive : g.alive <;> simp [callbacks, registry?, hget, halive]

/-- The callbacks of a bare registry are its listeners while it is alive. -/
theorem callbacks_bare (s : Session) (b : Nat) : s.callbacks (.bare b) =
    (s.registries[b]?.map (fun g => if g.alive then g.listeners.entries else [])).getD [] := by
  cases hget : s.registries[b]? with
  | none => simp [callbacks, registry?, hget]
  | some g => cases halive : g.alive <;> simp [callbacks, registry?, hget, halive]

/-- The callbacks of a router are its observers while it is alive. -/
theorem callbacks_router (s : Session) (r : Nat) : s.callbacks (.router r) =
    (s.routers[r]?.map (fun g => if g.alive then g.observers.entries else [])).getD [] := by
  cases hget : s.routers[r]? with
  | none => simp [callbacks, registry?, hget]
  | some g => cases halive : g.alive <;> simp [callbacks, registry?, hget, halive]

/-- A change to the registry of one owner changes that of no other. -/
theorem registry?_withRegistry (s : Session) (owner owner' : Owner) (f : Registry → Registry) :
    registry? (s.withRegistry owner f) owner' =
      if owner' = owner then ( s.registry? owner).map f else s.registry? owner' := by
  cases owner with
  | history h =>
    cases owner' with
    | history h' =>
      simp only [withRegistry, withHistory, registry?, List.getElem?_modify, Owner.history.injEq]
      by_cases hh : h' = h
      · subst hh
        cases s.histories[h']? with
        | none => simp
        | some g => cases halive : g.alive <;> simp [halive]
      · have hh' : ¬h = h' := fun e => hh e.symm
        cases s.histories[h']? <;> simp [hh, hh']
    | bare b => rfl
    | router r => rfl
  | bare b =>
    cases owner' with
    | bare b' =>
      simp only [withRegistry, registry?, List.getElem?_modify, Owner.bare.injEq]
      by_cases hb : b' = b
      · subst hb
        cases s.registries[b']? with
        | none => simp
        | some g => cases halive : g.alive <;> simp [halive]
      · have hb' : ¬b = b' := fun e => hb e.symm
        cases s.registries[b']? <;> simp [hb, hb']
    | history h => rfl
    | router r => rfl
  | router r =>
    cases owner' with
    | router r' =>
      simp only [withRegistry, withRouter, registry?, List.getElem?_modify, Owner.router.injEq]
      by_cases hr : r' = r
      · subst hr
        cases s.routers[r']? with
        | none => simp
        | some g => cases halive : g.alive <;> simp [halive]
      · have hr' : ¬r = r' := fun e => hr e.symm
        cases s.routers[r']? <;> simp [hr, hr']
    | history h => rfl
    | bare b => rfl

/-- What is registered with owners is settled by the registries and by who lives. -/
theorem callbacks_congr
    (hhistories : t.histories.map (fun g => (g.listeners, g.alive)) = s.histories.map (fun g => (g.listeners, g.alive)))
    (hregistries : t.registries = s.registries)
    (hrouters : t.routers.map (fun g => (g.observers, g.alive)) = s.routers.map (fun g => (g.observers, g.alive)))
    (owner : Owner) : t.callbacks owner = s.callbacks owner := by
  suffices hregistry : t.registry? owner = s.registry? owner by rw [callbacks_eq, callbacks_eq, hregistry]
  cases owner with
  | history h =>
    have hget := congrArg (·[h]?) hhistories
    simp only [List.getElem?_map] at hget
    unfold registry?
    cases ht : t.histories[h]? <;> cases hs : s.histories[h]? <;> simp_all
  | bare b =>
    unfold registry?
    rw [hregistries]
  | router r =>
    have hget := congrArg (·[r]?) hrouters
    simp only [List.getElem?_map] at hget
    unfold registry?
    cases ht : t.routers[r]? <;> cases hs : s.routers[r]? <;> simp_all

/-- An added callback comes last in its registry. -/
theorem callbacks_add (s : Session) (owner owner' : Owner) (callback : Callback) :
    (s.withRegistry owner (fun g => g.add callback)).callbacks owner' =
      s.callbacks owner' ++ if owner' = owner then
        (( s.registry? owner).map (fun g => (g.nextKey, callback))).toList else [] := by
  rw [callbacks_eq, callbacks_eq, registry?_withRegistry]
  by_cases howner : owner' = owner
  · subst howner
    cases s.registry? owner' <;> simp [Registry.add]
  · simp [howner]

/-- Cancelling takes out the entry with the key and leaves the rest. -/
theorem callbacks_cancel (s : Session) (subscription : Subscription) (owner : Owner) :
    (s.cancel subscription).callbacks owner = if owner = subscription.owner then
      (s.callbacks owner).filter (fun entry => entry.1 != subscription.key) else s.callbacks owner := by
  rw [callbacks_eq, callbacks_eq, cancel, registry?_withRegistry]
  by_cases howner : owner = subscription.owner
  · subst howner
    cases s.registry? subscription.owner <;> simp [Registry.remove]
  · simp [howner]

/-- A sweep adds no callback. -/
theorem callbacks_sweep (s : Session) (owner : Owner) : (s.sweep.callbacks owner).Sublist (s.callbacks owner) := by
  cases owner with
  | history h =>
    have hget : s.sweep.histories[h]? = s.histories[h]?.map (fun g =>
        { g with listeners := g.listeners.prune s.endRouters.isAlive, alive := g.alive && s.endRouters.holdsHistory h }) :=
      List.getElem?_mapIdx
    rw [callbacks_eq, callbacks_eq]
    unfold registry?
    simp only [hget]
    cases s.histories[h]? with
    | none => exact List.Sublist.refl _
    | some g => cases halive : g.alive <;> cases s.endRouters.holdsHistory h <;> simp [halive, Registry.prune]
  | bare b =>
    have hget : s.sweep.registries[b]? = s.registries[b]?.map (fun g =>
        { g with alive := g.alive && s.endRouters.endHistories.holdsRegistry b }) := List.getElem?_mapIdx
    rw [callbacks_eq, callbacks_eq]
    unfold registry?
    simp only [hget]
    cases s.registries[b]? with
    | none => exact List.Sublist.refl _
    | some g => cases halive : g.alive <;> cases s.endRouters.endHistories.holdsRegistry b <;> simp [halive]
  | router r =>
    rw [callbacks_eq, callbacks_eq]
    unfold registry?
    simp only [getElem?_routers_sweep]
    cases s.routers[r]? with
    | none => exact List.Sublist.refl _
    | some g => cases halive : g.alive <;> cases s.holdsRouter r <;> simp [halive]

end Session

end PathRouting
