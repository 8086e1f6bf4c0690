import PathRouting.Proofs.ObserverKeys

/-!
# Keys of registries

Whose registry it is, it starts empty, and callbacks are registered, cancelled, or taken out because their router has ended;
nothing else happens to it. Statements: what an empty registry has and these changes keep holds of all registries along
every run; so the keys of each increase strictly from its first entry to its last, and stay below the next one.
-/

namespace PathRouting

namespace Registry

/-- An empty registry has the property, and registering, cancelling and pruning keep it. -/
structure IsKept (P : Registry → Prop) : Prop where
  empty : P .empty
  add : ∀ (g : Registry) (callback : Callback), P g → P (g.add callback)
  remove : ∀ (g : Registry) (key : Nat), P g → P (g.remove key)
  prune : ∀ (g : Registry) (lives : Nat → Bool), P g → P (g.prune lives)

/-- The keys increase strictly, and stay below the next one. -/
def IsOrdered (g : Registry) : Prop :=
  (g.entries.map (·.1)).Pairwise (· < ·) ∧ ∀ entry ∈ g.entries, entry.1 < g.nextKey

/-- Entries that are taken out leave the others in order. -/
theorem IsOrdered.filter {g : Registry} (h : g.IsOrdered) (p : Nat × Callback → Bool) :
    IsOrdered ⟨g.nextKey, g.entries.filter p⟩ :=
  ⟨h.1.sublist (List.filter_sublist.map _), fun entry he => h.2 entry (List.mem_filter.1 he).1⟩

/-- Keys stay in order whatever happens to a registry. -/
theorem isKept_isOrdered : IsKept IsOrdered where
  empty := ⟨List.Pairwise.nil, fun _ he => absurd he List.not_mem_nil⟩
  add := by
    intro g callback h
    constructor
    · rw [add, List.map_append, List.map_singleton, List.pairwise_append]
      refine ⟨h.1, List.pairwise_singleton _ _, fun key hkey next hnext => ?_⟩
      obtain ⟨entry, he, rfl⟩ := List.mem_map.1 hkey
      rw [List.mem_singleton.1 hnext]
      exact h.2 entry he
    · intro entry he
      rcases List.mem_append.1 he with he | he
      · exact Nat.lt_succ_of_lt (h.2 entry he)
      · rw [List.mem_singleton.1 he]
        exact Nat.lt_succ_self _
  remove := fun _ _ h => h.filter _
  prune := fun _ _ h => h.filter _

end Registry

open Registry (IsKept)

namespace Session

variable {s t : Session} {us : List Session} {P : Registry → Prop}

/-- The registries that stand alone. -/
def bares (s : Session) : List Registry := s.registries.map (·.listeners)

/-- What is done to a bare registry is done to its record. -/
theorem bares_withRegistry (s : Session) (b : Nat) (f : Registry → Registry) :
    (s.withRegistry (.bare b) f).bares = s.bares.modify b f :=
  map_modify (f := fun g : BareRegistry => { g with listeners := f g.listeners }) (g := fun g : BareRegistry => g.listeners)
    (fun _ => rfl) s.registries b

/-- All registries have the property. -/
structure Everywhere (P : Registry → Prop) (s : Session) : Prop where
  rosters : ∀ g ∈ s.rosters, P g
  bares : ∀ g ∈ s.bares, P g
  panels : ∀ g ∈ s.panels, P g

/-- Whether all registries have a property rests on the registries alone. -/
theorem Everywhere.congr (h : s.Everywhere P) (hrosters : t.rosters = s.rosters) (hbares : t.bares = s.bares)
    (hpanels : t.panels = s.panels) : t.Everywhere P :=
  ⟨hrosters ▸ h.rosters, hbares ▸ h.bares, hpanels ▸ h.panels⟩

/-- So do the registries of owners that live. -/
theorem Everywhere.registry (h : s.Everywhere P) {owner : Owner} {g : Registry} (hg : s.registry? owner = some g) : P g := by
  cases owner with
  | history k => exact h.rosters g (List.mem_of_getElem? (roster_of_registry hg))
  | router r => exact h.panels g (List.mem_of_getElem? (panel_of_registry hg))
  | bare b =>
    unfold registry? at hg
    dsimp only at hg
    cases hget : s.registries[b]? with
    | none =>
      rw [hget] at hg
      cases hg
    | some registry =>
      simp only [hget] at hg
      split at hg
      · obtain rfl := Option.some.inj hg
        exact h.bares _ (List.mem_map_of_mem (List.mem_of_getElem? hget))
      · cases hg

/-! ## Changes of one registry -/

/-- A change that keeps a property keeps it of every registry of a list. -/
theorem forall_mem_modify {f : Registry → Registry} (hf : ∀ g, P g → P (f g)) {l : List Registry} (h : ∀ g ∈ l, P g)
    (i : Nat) : ∀ g ∈ l.modify i f, P g := by
  intro g hg
  obtain ⟨old, hold, rfl | rfl⟩ := mem_modify hg
  · exact h _ hold
  · exact hf old (h old hold)

/-- A change to one registry that keeps the property keeps it everywhere. -/
theorem Everywhere.withRegistry {f : Registry → Registry} (h : s.Everywhere P) (hf : ∀ g, P g → P (f g)) (owner : Owner) :
    (s.withRegistry owner f).Everywhere P := by
  cases owner with
  | history k =>
    refine ⟨?_, h.bares, h.panels⟩
    rw [rosters_withHistory]
    exact forall_mem_modify hf h.rosters k
  | bare b =>
    refine ⟨h.rosters, ?_, h.panels⟩
    rw [bares_withRegistry]
    exact forall_mem_modify hf h.bares b
  | router r =>
    refine ⟨h.rosters, h.bares, ?_⟩
    rw [panels_observe]
    exact forall_mem_modify hf h.panels r

/-- Cancelling a subscription keeps the property everywhere. -/
theorem Everywhere.cancel (hP : IsKept P) (h : s.Everywhere P) (subscription : Subscription) :
    (s.cancel subscription).Everywhere P :=
  h.withRegistry (fun g hg => hP.remove g _ hg) _

/-! ## Tasks that register or cancel -/

/-- A subscription keeps the property everywhere. -/
theorem Everywhere.subscribe (hP : IsKept P) (h : s.Everywhere P) (name : Text) (owner : Owner) (handler : Handler) :
    (s.subscribe name owner handler).Everywhere P := by
  have hregistered : ((s.addHandler handler).withRegistry owner (fun g => g.add (.handler s.handlers.length))).Everywhere P :=
    (h.congr rfl rfl rfl : (s.addHandler handler).Everywhere P).withRegistry (fun g hg => hP.add g _ hg) owner
  unfold Session.subscribe
  split
  · exact h
  · simp only
    split
    · exact hregistered.congr rfl rfl rfl
    · refine Everywhere.cancel hP ?_ _
      exact hregistered.congr rfl rfl rfl

/-- Dropping an outlet keeps the property everywhere. -/
theorem Everywhere.dropOutlet (hP : IsKept P) (h : s.Everywhere P) (name : Text) : (s.dropOutlet name).Everywhere P := by
  unfold Session.dropOutlet
  split
  · exact h
  · simp only
    split
    · exact h.congr rfl rfl rfl
    · refine Everywhere.cancel hP ?_ _
      exact h.congr rfl rfl rfl

/-- Dropping a name keeps the property everywhere. -/
theorem Everywhere.drop (hP : IsKept P) (h : s.Everywhere P) (kind : Kind) (name : Text) :
    (s.drop kind name).Everywhere P := by
  cases kind with
  | outlet => exact h.dropOutlet hP name
  | subscription =>
    change (s.dropSubscription name).Everywhere P
    unfold dropSubscription
    split
    · exact h
    · refine Everywhere.cancel hP ?_ _
      exact h.congr rfl rfl rfl
  | _ => exact h.congr rfl rfl rfl

/-- A new outlet keeps the property everywhere. -/
theorem Everywhere.openOutlet (hP : IsKept P) (h : s.Everywhere P) (name : Text) (r : Nat) (handler : Handler) :
    (s.openOutlet name r handler).Everywhere P := by
  cases hregistry : s.registry? (.router r) with
  | none =>
    simp only [Session.openOutlet, hregistry]
    exact h
  | some observers =>
    have hadded : (s.enrol (.router r) handler).Everywhere P :=
      (h.congr rfl rfl rfl : (s.addHandler handler).Everywhere P).withRegistry (fun g hg => hP.add g _ hg) (.router r)
    have hmade : (s.addOutlet r observers.nextKey handler).Everywhere P := hadded.congr rfl rfl rfl
    rw [openOutlet_eq hregistry]
    exact (hmade.dropOutlet hP name).congr rfl rfl rfl

/-- What becomes active makes no difference to bare registries. -/
theorem bares_activate (s : Session) (r : Nat) (found : Option Match) : (s.activate r found).bares = s.bares := by
  cases found <;> rfl

/-- A new router keeps the property everywhere. -/
theorem Everywhere.openRouter (hP : IsKept P) (h : s.Everywhere P) (name : Text) (k : Nat) (routes : List Route) :
    (s.openRouter name k routes).Everywhere P := by
  cases hhistory : s.histories[k]? with
  | none =>
    simp only [Session.openRouter, hhistory]
    exact h
  | some history =>
    obtain ⟨logs, journal, heq⟩ := openRouter_eq hhistory name routes
    let added : Session := (s.addRouter k routes).recordLogs logs
    have hadded : added.Everywhere P := by
      have hpanels : added.panels = s.panels ++ [.empty] := List.map_append
      refine ⟨h.rosters, h.bares, ?_⟩
      rw [hpanels, List.forall_mem_append, List.forall_mem_singleton]
      exact ⟨h.panels, hP.empty⟩
    have hresolved := hadded.congr (rosters_activate added s.routers.length (Route.resolve routes history.trail.current))
      (bares_activate _ _ _) (panels_activate _ _ _)
    rw [heq]
    exact (hresolved.withRegistry (fun g hg => hP.add g (.follow s.routers.length) hg) (.history k)).congr rfl rfl rfl

/-- A new history keeps the property everywhere, since its registry is empty. -/
theorem Everywhere.openHistory (hP : IsKept P) (h : s.Everywhere P) (name : Text) (announces : Bool) (path : Text) :
    (s.openHistory name announces path).Everywhere P := by
  have hrosters : (s.openHistory name announces path).rosters = s.rosters ++ [.empty] := List.map_append
  refine ⟨?_, h.bares, h.panels⟩
  rw [hrosters, List.forall_mem_append, List.forall_mem_singleton]
  exact ⟨h.rosters, hP.empty⟩

/-- A new registry is empty and so has the property. -/
theorem Everywhere.openRegistry (hP : IsKept P) (h : s.Everywhere P) (name : Text) : (s.openRegistry name).Everywhere P := by
  have hbares : (s.openRegistry name).bares = s.bares ++ [.empty] := List.map_append
  refine ⟨h.rosters, ?_, h.panels⟩
  rw [hbares, List.forall_mem_append, List.forall_mem_singleton]
  exact ⟨h.bares, hP.empty⟩

end Session

/-- The tasks that make histories, routers, outlets and registries, and those that register and cancel. -/
def Task.isEnrolling : Task → Bool
  | .openHistory _ _ _ => true
  | .openRegistry _ => true
  | .openRouter _ _ _ => true
  | .openOutlet _ _ _ => true
  | .subscribe _ _ _ => true
  | .drop _ _ => true
  | _ => false

namespace Session

variable {s t : Session} {us : List Session} {P : Registry → Prop}

/-- All other tasks leave the registries that stand alone as they are. -/
theorem bares_perform (s : Session) {task : Task} (h : task.isEnrolling = false) : (s.perform task).bares = s.bares := by
  cases hnaming : task.isNaming with
  | false => rw [bares, bares, (fixtures_perform s hnaming).2.1]
  | true =>
    cases task with
    | openCell | nameRouter | nameWeak | nameSnapshot | nameScope | nameLink | nameCell | detach => rfl
    | openHistory | openRegistry | openRouter | openOutlet | subscribe | drop => cases h
    | _ => cases hnaming

/-! ## Runs -/

/-- Every task keeps the property everywhere. -/
theorem Everywhere.perform (hP : IsKept P) (h : s.Everywhere P) (task : Task) : (s.perform task).Everywhere P := by
  cases henrolling : task.isEnrolling with
  | false =>
    have hlisting : task.isListing = false := by
      cases task <;> first | rfl | cases henrolling
    have hobserving : task.isObserving = false := by
      cases task <;> first | rfl | cases henrolling
    exact h.congr (rosters_perform s hlisting) (bares_perform s henrolling) (panels_perform s hobserving)
  | true =>
    cases task with
    | openHistory name announces path => exact h.openHistory hP name announces path
    | openRegistry name => exact h.openRegistry hP name
    | openRouter name k routes => exact h.openRouter hP name k routes
    | openOutlet name r handler => exact h.openOutlet hP name r handler
    | subscribe name owner handler => exact h.subscribe hP name owner handler
    | drop kind name => exact h.drop hP kind name
    | _ => cases henrolling

/-- Letting go of what nothing holds keeps the property everywhere. -/
theorem Everywhere.sweep (hP : IsKept P) (h : s.Everywhere P) : s.sweep.Everywhere P := by
  refine ⟨?_, ?_, panels_sweep s ▸ h.panels⟩
  · intro g hg
    obtain ⟨k, hk⟩ := List.mem_iff_getElem?.1 hg
    rw [Session.rosters, List.getElem?_map, getElem?_histories_sweep, Option.map_map] at hk
    obtain ⟨history, hhistory, rfl⟩ := Option.map_eq_some_iff.1 hk
    exact hP.prune _ _ (h.rosters _ (List.mem_map_of_mem (List.mem_of_getElem? hhistory)))
  · intro g hg
    obtain ⟨registry, hregistry, rfl⟩ := List.mem_map.1 hg
    obtain ⟨b, hb⟩ := List.mem_iff_getElem?.1 hregistry
    have hget : s.sweep.registries[b]? = s.registries[b]?.map (fun registry =>
        { registry with alive := registry.alive && s.endRouters.endHistories.holdsRegistry b }) := List.getElem?_mapIdx
    rw [hget] at hb
    obtain ⟨old, hold, rfl⟩ := Option.map_eq_some_iff.1 hb
    exact h.bares old.listeners (List.mem_map_of_mem (List.mem_of_getElem? hold))

/-- What holds of an empty registry and is kept holds of all registries along every run. -/
theorem OpenRun.everywhere (hP : IsKept P) (h : OpenRun Session.empty us t) : t.Everywhere P := by
  induction h with
  | start => exact ⟨fun _ hg => absurd hg List.not_mem_nil, fun _ hg => absurd hg List.not_mem_nil,
      fun _ hg => absurd hg List.not_mem_nil⟩
  | @step us l t t' _ hstep ih =>
    cases hstep with
    | own hown =>
      obtain ⟨task, rest, _, rfl⟩ := (step?_eq_some_iff t t').1 hown
      have hpopped : Everywhere P { t with agenda := rest } := ih.congr rfl rfl rfl
      exact (hpopped.perform hP task).sweep hP
    | told c hidle => exact ih.congr rfl rfl rfl
    | outside histories hvaries pool hpool tasks htasks => exact ih.congr (listeners_of_varies hvaries) rfl rfl

/-- Along every run callbacks are registered under keys that increase strictly, in the order of their entries. -/
theorem OpenRun.pairwise_callbacks (h : OpenRun Session.empty us t) (owner : Owner) :
    ((t.callbacks owner).map (·.1)).Pairwise (· < ·) := by
  rw [callbacks_eq]
  cases hregistry : t.registry? owner with
  | none => exact List.Pairwise.nil
  | some g => exact ((h.everywhere Registry.isKept_isOrdered).registry hregistry).1

end Session

end PathRouting
