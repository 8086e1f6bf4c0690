import Mathlib.Data.List.Forall2
import PathRouting.Proofs.Effects

/-!
# Who is registered where

A router listens to its history with a key that no subscription has, and it is observed by handlers only. Statements:
these facts hold in every run, since most tasks take registrations away at most, and the others add one with a new key.
-/

namespace PathRouting

/-- The callback is a handler. -/
def Callback.IsHandler : Callback → Prop
  | .handler _ => True
  | .follow _ => False

/-- The second history still stands at an entry, if the first does, and has no other listeners. -/
structure History.Narrows (g g' : History) : Prop where
  trail : g.trail.IsSound → g'.trail.IsSound
  nextKey : g'.listeners.nextKey = g.listeners.nextKey
  entries : ∀ entry ∈ g'.listeners.entries, entry ∈ g.listeners.entries

theorem History.Narrows.refl (g : History) : g.Narrows g := ⟨id, rfl, fun _ h => h⟩

/-! ## Trails -/

/-- A trail starts at its one entry. -/
theorem Trail.isSound_start (path : Text) : (Trail.start path).IsSound := Nat.zero_lt_one

/-- A trail is at the entry that was pushed. -/
theorem Trail.IsSound.push {t : Trail} (h : t.IsSound) (path : Text) : (t.push path).IsSound := by
  unfold IsSound at h
  simp only [IsSound, Trail.push, List.length_append, List.length_take, List.length_singleton]
  omega

/-- A trail that goes back is at an entry. -/
theorem Trail.isSound_of_back? {t t' : Trail} (h : t.back? = some t') : t'.IsSound := by
  unfold back? at h
  split at h
  · cases h
  · split at h
    · rename_i hlt
      obtain rfl := Option.some.inj h
      exact hlt
    · cases h

/-- A trail that goes forward is at an entry. -/
theorem Trail.isSound_of_forward? {t t' : Trail} (h : t.forward? = some t') : t'.IsSound := by
  unfold forward? at h
  split at h
  · rename_i hlt
    obtain rfl := Option.some.inj h
    exact hlt
  · cases h

/-! ## Lists whose elements are related -/

section

variable {α β : Type} {R : α → β → Prop}

/-- Lists of one length are related if they are at every place. -/
theorem forall₂_of_getElem? {l : List α} {l' : List β} (hlength : l.length = l'.length)
    (h : ∀ (i : Nat) (a : α) (b : β), l[i]? = some a → l'[i]? = some b → R a b) : List.Forall₂ R l l' := by
  rw [List.forall₂_iff_get]
  refine ⟨hlength, ?_⟩
  intro i hi hi'
  exact h i (l.get ⟨i, hi⟩) (l'.get ⟨i, hi'⟩) (List.getElem?_eq_getElem hi) (List.getElem?_eq_getElem hi')

/-- What is at a place of a list is related to what is there in the other list. -/
theorem exists_getElem?_of_forall₂ {l : List α} {l' : List β} (h : List.Forall₂ R l l') {i : Nat} {a : α}
    (ha : l[i]? = some a) : ∃ b, l'[i]? = some b ∧ R a b := by
  obtain ⟨hlength, hget⟩ := List.forall₂_iff_get.1 h
  obtain ⟨hi, rfl⟩ := List.getElem?_eq_some_iff.1 ha
  have hi' : i < l'.length := hlength ▸ hi
  exact ⟨l'[i], List.getElem?_eq_getElem hi', hget i hi hi'⟩

/-- Whatever the second list has is related to something in the first one. -/
theorem exists_mem_of_forall₂ {l : List α} {l' : List β} (h : List.Forall₂ R l l') {b : β} (hb : b ∈ l') :
    ∃ a ∈ l, R a b := by
  induction h with
  | nil => cases hb
  | @cons a b' l l' hab _ ih =>
    rcases List.mem_cons.1 hb with rfl | hb
    · exact ⟨a, List.mem_cons_self .., hab⟩
    · obtain ⟨a', ha', hr⟩ := ih hb
      exact ⟨a', List.mem_cons_of_mem _ ha', hr⟩

/-- A list is related to what a change makes of it, if everything is to what the change makes of it. -/
theorem forall₂_modify {R : α → α → Prop} {f : α → α} (hrefl : ∀ a, R a a) (hf : ∀ a, R a (f a)) (l : List α) (i : Nat) :
    List.Forall₂ R l (l.modify i f) := by
  refine forall₂_of_getElem? (List.length_modify ..).symm ?_
  intro j a b ha hb
  rw [List.getElem?_modify, ha] at hb
  obtain rfl := Option.some.inj hb
  split
  · exact hf a
  · exact hrefl a

/-- What a changed list has was there, or was made by the change. -/
theorem mem_modify {f : α → α} {l : List α} {i : Nat} {b : α} (h : b ∈ l.modify i f) : ∃ a ∈ l, b = a ∨ b = f a := by
  obtain ⟨j, hj⟩ := List.mem_iff_getElem?.1 h
  rw [List.getElem?_modify] at hj
  obtain ⟨a, ha, hab⟩ := Option.map_eq_some_iff.1 hj
  refine ⟨a, List.mem_of_getElem? ha, ?_⟩
  split at hab
  · exact Or.inr hab.symm
  · exact Or.inl hab.symm

end

namespace Session

variable {s t : Session} {us : List Session}

/-- Who observes routers. -/
def observerEntries (s : Session) : List (Nat × Callback) := s.routers.flatMap (·.observers.entries)

/-- The second session has no other registrations and no other names of subscriptions than the first. -/
structure Narrows (s t : Session) : Prop where
  histories : List.Forall₂ History.Narrows s.histories t.histories
  observers : ∀ entry ∈ t.observerEntries, entry ∈ s.observerEntries
  subscriptions : ∀ entry ∈ t.names.subscriptions, entry ∈ s.names.subscriptions

/-- Histories stand at entries and have used the keys of their listeners. A subscription to a history has a key that no
router listens with. Routers are observed by handlers. -/
structure Registered (s : Session) : Prop where
  trails : ∀ history ∈ s.histories, history.trail.IsSound
  keys : ∀ history ∈ s.histories, ∀ entry ∈ history.listeners.entries, entry.1 < history.listeners.nextKey
  subscriptions : ∀ entry ∈ s.names.subscriptions, ∀ h, entry.2.owner = .history h →
    ∃ history, s.histories[h]? = some history ∧ entry.2.key < history.listeners.nextKey ∧
      ∀ listener ∈ history.listeners.entries, listener.1 = entry.2.key → listener.2.IsHandler
  observers : ∀ entry ∈ s.observerEntries, entry.2.IsHandler

/-- Where nothing is registered, all is well. -/
theorem registered_empty : Registered Session.empty where
  trails := fun _ h => absurd h List.not_mem_nil
  keys := fun _ h => absurd h List.not_mem_nil
  subscriptions := fun _ h => absurd h List.not_mem_nil
  observers := fun _ h => absurd h List.not_mem_nil

/-- Who is registered where does not depend on the tasks that are left. -/
theorem Registered.withAgenda (h : Registered s) (agenda : List Task) : Registered { s with agenda := agenda } :=
  ⟨h.trails, h.keys, h.subscriptions, h.observers⟩

/-- Registrations that are taken away leave the others right. -/
theorem Registered.narrows (h : Registered s) (hn : Narrows s t) : Registered t where
  trails := by
    intro history' hm
    obtain ⟨history, hhistory, hnarrows⟩ := exists_mem_of_forall₂ hn.histories hm
    exact hnarrows.trail (h.trails history hhistory)
  keys := by
    intro history' hm entry he
    obtain ⟨history, hhistory, hnarrows⟩ := exists_mem_of_forall₂ hn.histories hm
    rw [hnarrows.nextKey]
    exact h.keys history hhistory entry (hnarrows.entries entry he)
  subscriptions := by
    intro entry he k howner
    obtain ⟨history, hhistory, hkey, hlisteners⟩ := h.subscriptions entry (hn.subscriptions entry he) k howner
    obtain ⟨history', hhistory', hnarrows⟩ := exists_getElem?_of_forall₂ hn.histories hhistory
    refine ⟨history', hhistory', hnarrows.nextKey ▸ hkey, ?_⟩
    exact fun listener hl => hlisteners listener (hnarrows.entries listener hl)
  observers := fun entry he => h.observers entry (hn.observers entry he)

/-! ## Tasks that take registrations away at most -/

theorem narrows_refl (s : Session) : Narrows s s :=
  ⟨List.forall₂_same.2 (fun g _ => History.Narrows.refl g), fun _ h => h, fun _ h => h⟩

theorem Narrows.trans {u : Session} (h : Narrows s t) (h' : Narrows t u) : Narrows s u where
  histories := by
    refine forall₂_of_getElem? (h.histories.length_eq.trans h'.histories.length_eq) ?_
    intro i a c ha hc
    obtain ⟨b, hb, hab⟩ := exists_getElem?_of_forall₂ h.histories ha
    obtain ⟨c', hc', hbc⟩ := exists_getElem?_of_forall₂ h'.histories hb
    obtain rfl := Option.some.inj (hc.symm.trans hc')
    exact ⟨fun ht => hbc.trail (hab.trail ht), hbc.nextKey.trans hab.nextKey,
      fun entry he => hab.entries entry (hbc.entries entry he)⟩
  observers := fun entry he => h.observers entry (h'.observers entry he)
  subscriptions := fun entry he => h.subscriptions entry (h'.subscriptions entry he)

/-- Where histories, routers and names stay as they are, so do the registrations. -/
theorem StaysHome.narrows (h : StaysHome s t) : Narrows s t where
  histories := by
    rw [h.histories]
    exact (narrows_refl s).histories
  observers := by
    intro entry he
    rw [observerEntries, h.routers] at he
    exact he
  subscriptions := h.subscriptions

/-- A router that gets no new observers leaves no new registrations. -/
theorem narrows_withRouter {f : Router → Router}
    (hf : ∀ g, ∀ entry ∈ (f g).observers.entries, entry ∈ g.observers.entries) (s : Session) (r : Nat) :
    Narrows s (s.withRouter r f) where
  histories := (narrows_refl s).histories
  observers := by
    intro entry he
    obtain ⟨router', hm, he⟩ := List.mem_flatMap.1 he
    obtain ⟨router, hrouter, rfl | rfl⟩ := mem_modify hm
    · exact List.mem_flatMap.2 ⟨_, hrouter, he⟩
    · exact List.mem_flatMap.2 ⟨_, hrouter, hf router entry he⟩
  subscriptions := fun _ h => h

/-- A history that gets no new listeners leaves no new registrations. -/
theorem narrows_withHistory {f : History → History} (hf : ∀ g : History, g.Narrows (f g)) (s : Session) (h : Nat) :
    Narrows s (s.withHistory h f) where
  histories := forall₂_modify History.Narrows.refl hf s.histories h
  observers := fun _ h => h
  subscriptions := fun _ h => h

/-- To cancel a subscription registers nothing. -/
theorem narrows_cancel (s : Session) (subscription : Subscription) : Narrows s (s.cancel subscription) := by
  obtain ⟨owner, key⟩ := subscription
  cases owner with
  | history h =>
    refine narrows_withHistory (f := fun g => { g with listeners := g.listeners.remove key }) ?_ s h
    exact fun g => ⟨id, rfl, fun _ h => (List.mem_filter.1 h).1⟩
  | bare b => exact ⟨(narrows_refl s).histories, fun _ h => h, fun _ h => h⟩
  | router r =>
    refine narrows_withRouter (f := fun g => { g with observers := g.observers.remove key }) ?_ s r
    exact fun g _ h => (List.mem_filter.1 h).1

/-- What becomes active registers nothing. -/
theorem narrows_activate (s : Session) (r : Nat) (found : Option Match) : Narrows s (s.activate r found) := by
  cases found with
  | none => exact narrows_withRouter (f := fun g => { g with active := none }) (fun _ _ h => h) s r
  | some m =>
    have hactive := narrows_withRouter (f := fun g => { g with active := some s.resolutions.length })
      (fun _ _ h => h) s r
    exact ⟨hactive.histories, hactive.observers, hactive.subscriptions⟩

/-- To drop an outlet registers nothing. -/
theorem narrows_dropOutlet (s : Session) (name : Text) : Narrows s (s.dropOutlet name) := by
  unfold dropOutlet
  split
  · exact narrows_refl s
  · have hforgets : Narrows s { s with names := { s.names with outlets := s.names.outlets.erase name } } :=
      ⟨(narrows_refl s).histories, fun _ h => h, fun _ h => h⟩
    simp only
    split
    · exact hforgets
    · exact hforgets.trans (narrows_cancel _ _)

/-- Whatever is dropped, nothing is registered. -/
theorem narrows_drop (s : Session) (kind : Kind) (name : Text) : Narrows s (s.drop kind name) := by
  cases kind with
  | outlet => exact narrows_dropOutlet s name
  | subscription =>
    change Narrows s (s.dropSubscription name)
    unfold dropSubscription
    split
    · exact narrows_refl s
    · have hforgets : Narrows s (s.forgetSubscription name) :=
        ⟨(narrows_refl s).histories, fun _ h => h, fun _ h => (List.mem_filter.1 h).1⟩
      exact hforgets.trans (narrows_cancel _ _)
  | _ => exact ⟨(narrows_refl s).histories, fun _ h => h, fun _ h => h⟩

/-- An entry that is pushed is no registration. -/
theorem narrows_push (s : Session) (h : Nat) (path : Text) : Narrows s (s.push h path) := by
  have hpushed := narrows_withHistory (f := fun g => { g with trail := g.trail.push path })
    (fun g => ⟨fun ht => ht.push path, rfl, fun _ h => h⟩) s h
  unfold push
  split
  · exact narrows_refl s
  · simp only
    split <;> exact ⟨hpushed.histories, hpushed.observers, hpushed.subscriptions⟩

/-- A move of a history registers nothing. -/
theorem narrows_move (s : Session) (h : Nat) (onward : Bool) : Narrows s (s.move h onward) := by
  unfold move
  split
  · exact narrows_refl s
  · rename_i trail hmoved
    have hsound : trail.IsSound := by
      obtain ⟨history, _, hmoved⟩ := Option.bind_eq_some_iff.1 hmoved
      split at hmoved
      · exact Trail.isSound_of_forward? hmoved
      · exact Trail.isSound_of_back? hmoved
    have hmoves := narrows_withHistory (f := fun g => { g with trail := trail })
      (fun g => ⟨fun _ => hsound, rfl, fun _ h => h⟩) s h
    exact ⟨hmoves.histories, hmoves.observers, hmoves.subscriptions⟩

/-- A path that is resolved registers nothing. -/
theorem narrows_resolve (s : Session) (r : Nat) (path : Text) : Narrows s (s.resolve r path) := by
  unfold resolve
  split
  · exact narrows_refl s
  · rename_i router _
    have hactive := narrows_activate (s.recordLogs [.routeResolved path (Route.resolve router.routes path).isSome]) r
      (Route.resolve router.routes path)
    exact ⟨hactive.histories, hactive.observers, hactive.subscriptions⟩

/-- A navigation registers nothing. -/
theorem narrows_navigate (s : Session) (r : Nat) (path : Text) : Narrows s (s.navigate r path) := by
  unfold navigate
  split
  · exact narrows_refl s
  · split
    · have hqueued := narrows_withRouter (f := fun g => { g with queue := g.queue ++ [path] }) (fun _ _ h => h) s r
      exact ⟨hqueued.histories, hqueued.observers, hqueued.subscriptions⟩
    · have hbegins := narrows_withRouter (f := fun g => { g with navigating := true }) (fun _ _ h => h) s r
      exact ⟨hbegins.histories, hbegins.observers, hbegins.subscriptions⟩

/-- A navigation that was queued registers nothing. -/
theorem narrows_drain (s : Session) (r : Nat) : Narrows s (s.drain r) := by
  unfold drain
  split
  · exact narrows_refl s
  · split
    · exact narrows_withRouter (f := fun g => { g with navigating := false }) (fun _ _ h => h) s r
    · rename_i later _
      have hgoes := narrows_withRouter (f := fun g => { g with queue := later }) (fun _ _ h => h) s r
      exact ⟨hgoes.histories, hgoes.observers, hgoes.subscriptions⟩

/-- Sweeping takes the listeners of routers that end. -/
theorem narrows_sweep (s : Session) : Narrows s s.sweep where
  histories := by
    refine forall₂_of_getElem? (List.length_mapIdx ..).symm ?_
    intro i a b ha hb
    have hswept := (List.getElem?_mapIdx (l := s.endRouters.histories) (i := i)).symm.trans hb
    have ha' : s.endRouters.histories[i]? = some a := ha
    rw [ha'] at hswept
    obtain rfl := Option.some.inj hswept
    exact ⟨id, rfl, fun _ h => (List.mem_filter.1 h).1⟩
  observers := by
    intro entry he
    obtain ⟨router', hm, he⟩ := List.mem_flatMap.1 he
    obtain ⟨i, hi⟩ := List.mem_iff_getElem?.1 hm
    rw [getElem?_routers_sweep] at hi
    obtain ⟨router, hrouter, rfl⟩ := Option.map_eq_some_iff.1 hi
    exact List.mem_flatMap.2 ⟨router, List.mem_of_getElem? hrouter, he⟩
  subscriptions := fun _ h => h

/-! ## Tasks that register -/

/-- A new history stands at its one entry, and nobody listens to it. -/
theorem Registered.openHistory (h : Registered s) (name : Text) (announces : Bool) (path : Text) :
    Registered (s.openHistory name announces path) where
  trails := by
    intro history hm
    rcases List.mem_append.1 hm with hm | hm
    · exact h.trails history hm
    · rw [List.mem_singleton.1 hm]
      exact Trail.isSound_start path
  keys := by
    intro history hm entry he
    rcases List.mem_append.1 hm with hm | hm
    · exact h.keys history hm entry he
    · rw [List.mem_singleton.1 hm] at he
      cases he
  subscriptions := by
    intro entry he k howner
    have he' : entry ∈ s.names.subscriptions := by
      unfold Session.openHistory at he
      cases announces <;> exact he
    obtain ⟨history, hhistory, hrest⟩ := h.subscriptions entry he' k howner
    have hlt := (List.getElem?_eq_some_iff.1 hhistory).1
    exact ⟨history, (List.getElem?_append_left hlt).trans hhistory, hrest⟩
  observers := h.observers

/-- A new listener has a key that no subscription has. -/
theorem Registered.listen (h : Registered s) (k : Nat) (callback : Callback) :
    Registered (s.withRegistry (.history k) (fun g => g.add callback)) where
  trails := by
    intro history' hm
    obtain ⟨history, hhistory, rfl | rfl⟩ := mem_modify hm
    · exact h.trails _ hhistory
    · exact h.trails history hhistory
  keys := by
    intro history' hm entry he
    obtain ⟨history, hhistory, rfl | rfl⟩ := mem_modify hm
    · exact h.keys _ hhistory entry he
    · rcases List.mem_append.1 he with he | he
      · exact Nat.lt_succ_of_lt (h.keys history hhistory entry he)
      · rw [List.mem_singleton.1 he]
        exact Nat.lt_succ_self _
  subscriptions := by
    intro entry he i howner
    obtain ⟨history, hhistory, hkey, hlisteners⟩ := h.subscriptions entry he i howner
    have hget : (s.withRegistry (.history k) (fun g => g.add callback)).histories[i]? =
        some (if k = i then { history with listeners := history.listeners.add callback } else history) := by
      change (s.histories.modify k _)[i]? = _
      rw [List.getElem?_modify, hhistory]
      split <;> rfl
    refine ⟨_, hget, ?_⟩
    split
    · refine ⟨Nat.lt_succ_of_lt hkey, ?_⟩
      intro listener hl hsame
      rcases List.mem_append.1 hl with hl | hl
      · exact hlisteners listener hl hsame
      · rw [List.mem_singleton.1 hl] at hsame
        exact absurd hsame (Nat.ne_of_gt hkey)
    · exact ⟨hkey, hlisteners⟩
  observers := h.observers

/-- A new observer is a handler. -/
theorem Registered.observe (h : Registered s) (r index : Nat) :
    Registered (s.withRegistry (.router r) (fun g => g.add (.handler index))) where
  trails := h.trails
  keys := h.keys
  subscriptions := h.subscriptions
  observers := by
    intro entry he
    obtain ⟨router', hm, he⟩ := List.mem_flatMap.1 he
    obtain ⟨router, hrouter, rfl | rfl⟩ := mem_modify hm
    · exact h.observers entry (List.mem_flatMap.2 ⟨_, hrouter, he⟩)
    · rcases List.mem_append.1 he with he | he
      · exact h.observers entry (List.mem_flatMap.2 ⟨router, hrouter, he⟩)
      · rw [List.mem_singleton.1 he]
        trivial

/-- A new router listens with a new key, which no subscription has. -/
theorem Registered.openRouter (h : Registered s) (name : Text) (k : Nat) (routes : List Route) :
    Registered (s.openRouter name k routes) := by
  unfold Session.openRouter
  split
  · exact h
  · rename_i history _
    let made : Router := ⟨routes, k, none, .empty, false, [], true⟩
    have hadded : Narrows s { s with routers := s.routers ++ [made] } := by
      refine ⟨(narrows_refl s).histories, ?_, fun _ h => h⟩
      intro entry he
      rw [observerEntries, List.flatMap_append] at he
      rcases List.mem_append.1 he with he | he
      · exact he
      · simp [made, Registry.empty] at he
    let found := Route.resolve routes history.trail.current
    let logs := routes.mapIdx (fun i route => LogEvent.routeCompiled i route.pattern.display) ++
      [.routeResolved history.trail.current found.isSome]
    let logged := ({ s with routers := s.routers ++ [made] } : Session).recordLogs logs
    have hlogged : Registered logged := h.narrows ⟨hadded.histories, hadded.observers, hadded.subscriptions⟩
    have hactive := hlogged.narrows (narrows_activate logged s.routers.length found)
    have hlistening := hactive.listen k (.follow s.routers.length)
    exact ⟨hlistening.trails, hlistening.keys, hlistening.subscriptions, hlistening.observers⟩

/-- A subscription is a handler under a new key, which no router listens with. -/
theorem Registered.subscribe (h : Registered s) (name : Text) (owner : Owner) (handler : Handler) :
    Registered (s.subscribe name owner handler) := by
  unfold Session.subscribe
  split
  · exact h
  · rename_i registry hregistry
    let registered := (s.addHandler handler).withRegistry owner (fun g => g.add (.handler s.handlers.length))
    let stored : Session := { registered with names := { registered.names with
      subscriptions := registered.names.subscriptions.put name ⟨owner, registry.nextKey⟩ } }
    have hhandler : Registered (s.addHandler handler) := ⟨h.trails, h.keys, h.subscriptions, h.observers⟩
    have hstored : Registered stored := by
      cases owner with
      | router r =>
        have hadded := hhandler.observe r s.handlers.length
        refine ⟨hadded.trails, hadded.keys, ?_, hadded.observers⟩
        intro entry he i howner
        rcases List.mem_cons.1 he with rfl | he
        · cases howner
        · exact hadded.subscriptions entry (List.mem_filter.1 he).1 i howner
      | bare b =>
        refine ⟨h.trails, h.keys, ?_, h.observers⟩
        intro entry he i howner
        rcases List.mem_cons.1 he with rfl | he
        · cases howner
        · exact h.subscriptions entry (List.mem_filter.1 he).1 i howner
      | history k =>
        have hadded := hhandler.listen k (.handler s.handlers.length)
        refine ⟨hadded.trails, hadded.keys, ?_, hadded.observers⟩
        intro entry he i howner
        rcases List.mem_cons.1 he with rfl | he
        · obtain rfl := Owner.history.inj howner
          unfold registry? at hregistry
          dsimp only at hregistry
          cases hhistory : s.histories[k]? with
          | none => simp [hhistory] at hregistry
          | some history =>
            simp only [hhistory] at hregistry
            split at hregistry
            · obtain rfl := Option.some.inj hregistry
              have hget : stored.histories[k]? =
                  some { history with listeners := history.listeners.add (.handler s.handlers.length) } := by
                change (s.histories.modify k _)[k]? = _
                rw [List.getElem?_modify, hhistory]
                exact congrArg some (if_pos rfl)
              refine ⟨_, hget, Nat.lt_succ_self _, ?_⟩
              intro listener hl hsame
              rcases List.mem_append.1 hl with hl | hl
              · have hlt := h.keys history (List.mem_of_getElem? hhistory) listener hl
                exact absurd hsame (Nat.ne_of_lt hlt)
              · rw [List.mem_singleton.1 hl]
                trivial
            · cases hregistry
        · exact hadded.subscriptions entry (List.mem_filter.1 he).1 i howner
    split
    · exact hstored
    · exact hstored.narrows (narrows_cancel stored _)

/-- An outlet observes its router with a handler. -/
theorem Registered.openOutlet (h : Registered s) (name : Text) (r : Nat) (handler : Handler) :
    Registered (s.openOutlet name r handler) := by
  unfold Session.openOutlet
  split
  · exact h
  · have hhandler : Registered (s.addHandler handler) := ⟨h.trails, h.keys, h.subscriptions, h.observers⟩
    have hadded := hhandler.observe r s.handlers.length
    rename_i observers _
    let observing := (s.addHandler handler).withRegistry (.router r) (fun g => g.add (.handler s.handlers.length))
    let made : Session := { observing with
      outlets := observing.outlets ++ [⟨r, observers.nextKey, none, none, s.handlers.length⟩] }
    have hmade : Registered made := ⟨hadded.trails, hadded.keys, hadded.subscriptions, hadded.observers⟩
    have hfreed := hmade.narrows (narrows_dropOutlet made name)
    exact ⟨hfreed.trails, hfreed.keys, hfreed.subscriptions, hfreed.observers⟩

/-! ## Runs -/

/-- A task leaves registrations right. -/
theorem Registered.perform (h : Registered s) (task : Task) : Registered (s.perform task) := by
  cases houtward : task.isOutward with
  | false => exact h.narrows (staysHome_perform s houtward).narrows
  | true =>
    cases task with
    | openHistory name announces path => exact h.openHistory name announces path
    | openRouter name k routes => exact h.openRouter name k routes
    | openOutlet name r handler => exact h.openOutlet name r handler
    | subscribe name owner handler => exact h.subscribe name owner handler
    | drop kind name => exact h.narrows (narrows_drop s kind name)
    | push k path => exact h.narrows (narrows_push s k path)
    | move k onward => exact h.narrows (narrows_move s k onward)
    | navigate r path => exact h.narrows (narrows_navigate s r path)
    | resolve r path => exact h.narrows (narrows_resolve s r path)
    | drain r => exact h.narrows (narrows_drain s r)
    | _ => cases houtward

/-- Registrations are right along every run. -/
theorem OpenRun.registered (h : OpenRun Session.empty us t) : Registered t := by
  induction h with
  | start => exact registered_empty
  | step _ hstep ih =>
    cases hstep with
    | own hown =>
      obtain ⟨task, rest, _, rfl⟩ := (step?_eq_some_iff _ _).1 hown
      exact ((ih.withAgenda rest).perform task).narrows (narrows_sweep _)
    | told c _ => exact ⟨ih.trails, ih.keys, ih.subscriptions, ih.observers⟩
    | outside histories hvaries pool _ tasks _ =>
      refine ih.narrows ⟨?_, fun _ h => h, fun _ h => h⟩
      refine hvaries.imp ?_
      intro g g' hvary
      exact ⟨fun _ => hvary.1, by rw [hvary.2.1], fun _ he => hvary.2.1 ▸ he⟩

/-- The histories may vary not at all. -/
theorem OpenRun.forall₂_varies (h : OpenRun Session.empty us t) : List.Forall₂ History.Varies t.histories t.histories :=
  List.forall₂_same.2 (fun history hm => ⟨h.registered.trails history hm, rfl, rfl⟩)

/-- Tasks from outside may be put first in any session of a run. -/
theorem OpenRun.step_first (h : OpenRun Session.empty us t) {tasks : List Task} (htasks : ∀ task ∈ tasks, task.IsOutside) :
    OpenStep t [] (t.first tasks) :=
  .outside t.histories h.forall₂_varies t.pool ⟨rfl, List.Perm.refl _⟩ tasks htasks

end Session

end PathRouting
