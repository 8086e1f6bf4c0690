import PathRouting.Proofs.RegistryKeys

/-!
# Handles of registrations

What is registered with an owner can be released again by the subscription that is made for it. A subscription is held under
a name, as such or by the outlet of that name, from when it is made until the name is taken away or given anew, which
releases it, or until it is detached, which does not. Statements: what one task does to registries and to what is held, as
two equations; so that a subscription that is made is held until it is released or detached.
-/

namespace PathRouting

/-- A subscription that is made, and its callback. -/
structure Registration where
  subscription : Subscription
  callback : Callback
  deriving DecidableEq, Repr

namespace Registry

/-- The registry of an owner after a registration, which may be with another one. -/
def enter (g : Registry) (owner : Owner) : Option Registration → Registry
  | none => g
  | some registration => if registration.subscription.owner = owner then g.add registration.callback else g

/-- The registry of an owner after a subscription was cancelled, which may be with another one. -/
def leave (g : Registry) (owner : Owner) : Option Subscription → Registry
  | none => g
  | some subscription => if subscription.owner = owner then g.remove subscription.key else g

end Registry

namespace Session

variable {s t : Session} {us : List Session} {owner : Owner} {g : Registry} {kind : Kind} {name : Text}
  {subscription : Subscription} {index : Nat}

/-! ## Owners -/

theorem registryOf?_history (s : Session) (k : Nat) : s.registryOf? (.history k) = s.rosters[k]? := rfl

theorem registryOf?_bare (s : Session) (b : Nat) : s.registryOf? (.bare b) = s.bares[b]? := rfl

theorem registryOf?_router (s : Session) (r : Nat) : s.registryOf? (.router r) = s.panels[r]? := rfl

/-- An outlet that has a name holds the subscription that it observes its router with. -/
theorem holding?_outlet (s : Session) (name : Text) : s.holding? .outlet name =
    (s.names.outlets.get? name).bind (fun o => s.stalls[o]?.map (fun stall => ⟨.router stall.1, stall.2⟩)) := rfl

/-- An owner has its registry at hand as long as it lives. -/
theorem registry_eq_some_iff : s.registry? owner = some g ↔ s.lives owner = true ∧ s.registryOf? owner = some g := by
  cases owner with
  | history k =>
    simp only [lives, registry?, registryOf?, List.getElem?_map]
    cases s.histories[k]? <;> simp
  | bare b =>
    simp only [lives, registry?, registryOf?, List.getElem?_map]
    cases s.registries[b]? <;> simp
  | router r =>
    simp only [lives, registry?, registryOf?, List.getElem?_map]
    cases s.routers[r]? <;> simp

/-- Where the registries of all three kinds are the same, so is that of each owner. -/
theorem registryOf?_congr (hrosters : t.rosters = s.rosters) (hbares : t.bares = s.bares) (hpanels : t.panels = s.panels)
    (owner : Owner) : t.registryOf? owner = s.registryOf? owner := by
  cases owner with
  | history k => exact congrArg (·[k]?) hrosters
  | bare b => exact congrArg (·[b]?) hbares
  | router r => exact congrArg (·[r]?) hpanels

/-- A change of the registry of one owner leaves those of others as they are. -/
theorem registryOf?_withRegistry (s : Session) (owner other : Owner) (f : Registry → Registry) :
    (s.withRegistry owner f).registryOf? other = (s.registryOf? other).map (fun g => if owner = other then f g else g) := by
  cases owner with
  | history k =>
    cases other with
    | history k' => simp only [registryOf?_history, rosters_withHistory, List.getElem?_modify, Owner.history.injEq]; rfl
    | _ => simp only [reduceCtorEq, if_false, Option.map_id']; rfl
  | bare b =>
    cases other with
    | bare b' => simp only [registryOf?_bare, bares_withRegistry, List.getElem?_modify, Owner.bare.injEq]; rfl
    | _ => simp only [reduceCtorEq, if_false, Option.map_id']; rfl
  | router r =>
    cases other with
    | router r' => simp only [registryOf?_router, panels_observe, List.getElem?_modify, Owner.router.injEq]; rfl
    | _ => simp only [reduceCtorEq, if_false, Option.map_id']; rfl

/-! ## What a task registers and releases -/

/-- What a task registers: a handler under a subscription or for an outlet, and a new router, which listens to its
history. -/
def enrolledBy? (s : Session) : Task → Option Registration
  | .subscribe _ owner _ => ( s.registry? owner).map (fun g => ⟨⟨owner, g.nextKey⟩, .handler s.handlers.length⟩)
  | .openOutlet _ r _ =>
    ( s.registry? (.router r)).map (fun g => ⟨⟨.router r, g.nextKey⟩, .handler s.handlers.length⟩)
  | .openRouter _ k _ =>
    (s.registryOf? (.history k)).map (fun g => ⟨⟨.history k, g.nextKey⟩, .follow s.routers.length⟩)
  | _ => none

/-- What a task releases was held under the name that it takes away or gives anew. -/
theorem exists_holding?_of_releasedBy? {task : Task} (h : s.releasedBy? task = some subscription) :
    ∃ kind name, s.rebinds? task = some (kind, name) ∧ s.holding? kind name = some subscription := by
  have hbind : (s.rebinds? task).bind (fun place => s.holding? place.1 place.2) = some subscription := by
    unfold releasedBy? at h
    split at h
    · cases h
    · exact h
  obtain ⟨⟨kind, name⟩, hrebinds, hholding⟩ := Option.bind_eq_some_iff.1 hbind
  exact ⟨kind, name, hrebinds, hholding⟩

/-- The outlets that have names are there. -/
def OutletsExist (s : Session) : Prop := ∀ entry ∈ s.names.outlets, ∃ outlet, s.outlets[entry.2]? = some outlet

/-- A handler that is registered enters the registry of its owner. -/
theorem registryOf?_enrol (s : Session) (owner other : Owner) (key : Nat) (handler : Handler) :
    (s.enrol owner handler).registryOf? other =
      (s.registryOf? other).map (fun g => g.enter other (some ⟨⟨owner, key⟩, .handler s.handlers.length⟩)) := by
  have hadded : (s.addHandler handler).registryOf? other = s.registryOf? other := by cases other <;> rfl
  rw [enrol, registryOf?_withRegistry, hadded]
  rfl

/-- A subscription that is cancelled leaves the registry of its owner. -/
theorem registryOf?_cancel (s : Session) (subscription : Subscription) (owner : Owner) :
    (s.cancel subscription).registryOf? owner = (s.registryOf? owner).map (fun g => g.leave owner (some subscription)) :=
  registryOf?_withRegistry s subscription.owner owner _

/-- To drop an outlet releases the subscription that it holds. -/
theorem registryOf?_dropOutlet (s : Session) (name : Text) (owner : Owner) :
    (s.dropOutlet name).registryOf? owner =
      (s.registryOf? owner).map (fun g => g.leave owner (s.holding? .outlet name)) := by
  simp only [dropOutlet, holding?, List.getElem?_map]
  cases s.names.outlets.get? name with
  | none => exact Option.map_id'.symm
  | some o =>
    simp only [Option.bind_some]
    cases s.outlets[o]? with
    | none =>
      refine Eq.trans ?_ Option.map_id'.symm
      cases owner <;> rfl
    | some outlet =>
      refine (registryOf?_cancel _ _ owner).trans ?_
      cases owner <;> rfl

/-- To drop a subscription releases it. -/
theorem registryOf?_dropSubscription (s : Session) (name : Text) (owner : Owner) :
    (s.dropSubscription name).registryOf? owner =
      (s.registryOf? owner).map (fun g => g.leave owner (s.holding? .subscription name)) := by
  simp only [dropSubscription, holding?]
  cases s.names.subscriptions.get? name with
  | none => exact Option.map_id'.symm
  | some subscription =>
    refine (registryOf?_cancel _ _ owner).trans ?_
    cases owner <;> rfl

/-- A subscription enters its registry, and then the previous one of the same name leaves its own. -/
theorem registryOf?_subscribe (s : Session) (name : Text) (owner other : Owner) (handler : Handler) :
    (s.subscribe name owner handler).registryOf? other = (s.registryOf? other).map (fun g =>
      (g.enter other (s.enrolledBy? (.subscribe name owner handler))).leave other
        (s.releasedBy? (.subscribe name owner handler))) := by
  cases hregistry : s.registry? owner with
  | none =>
    simp only [subscribe, enrolledBy?, releasedBy?, rebinds?, hregistry]
    exact Option.map_id'.symm
  | some registry =>
    let stored : Session := { s.enrol owner handler with names := { (s.enrol owner handler).names with
      subscriptions := (s.enrol owner handler).names.subscriptions.put name ⟨owner, registry.nextKey⟩ } }
    have hstored : stored.registryOf? other = (s.registryOf? other).map (fun g =>
        g.enter other (some ⟨⟨owner, registry.nextKey⟩, .handler s.handlers.length⟩)) := by
      rw [← registryOf?_enrol]
      cases other <;> rfl
    simp only [subscribe, enrolledBy?, releasedBy?, rebinds?, hregistry, Option.map_some, Option.bind_some, holding?]
    cases s.names.subscriptions.get? name with
    | none => exact hstored
    | some previous =>
      refine (registryOf?_cancel stored previous other).trans ?_
      rw [hstored, Option.map_map]
      rfl

/-- What is held depends on the names of subscriptions and outlets, and on where outlets observe. -/
theorem holding?_congr (hsubscriptions : t.names.subscriptions = s.names.subscriptions)
    (houtlets : t.names.outlets = s.names.outlets) (hstalls : t.stalls = s.stalls) (kind : Kind) (name : Text) :
    t.holding? kind name = s.holding? kind name := by
  cases kind with
  | subscription => exact congrArg (·.get? name) hsubscriptions
  | outlet => simp only [holding?_outlet, houtlets, hstalls]
  | _ => rfl

/-- A new outlet changes nothing about the outlets that have names. -/
theorem holding?_addOutlet (hnamed : s.OutletsExist) (r key : Nat) (handler : Handler) (kind : Kind) (name : Text) :
    (s.addOutlet r key handler).holding? kind name = s.holding? kind name := by
  cases kind with
  | outlet =>
    simp only [holding?_outlet, stalls_addOutlet]
    change (s.names.outlets.get? name).bind _ = _
    cases hname : s.names.outlets.get? name with
    | none => rfl
    | some o =>
      obtain ⟨outlet, ho⟩ := hnamed _ (Directory.mem_of_get? hname)
      have hlt : o < s.stalls.length := by
        rw [stalls, List.length_map]
        exact (List.getElem?_eq_some_iff.1 ho).1
      simp only [Option.bind_some, List.getElem?_append_left hlt]
  | _ => rfl

/-- An outlet enters the registry of its router, and then the previous one of the same name leaves its own. -/
theorem registryOf?_openOutlet (hnamed : s.OutletsExist) (name : Text) (r : Nat) (handler : Handler) (owner : Owner) :
    (s.openOutlet name r handler).registryOf? owner = (s.registryOf? owner).map (fun g =>
      (g.enter owner (s.enrolledBy? (.openOutlet name r handler))).leave owner
        (s.releasedBy? (.openOutlet name r handler))) := by
  cases hregistry : s.registry? (.router r) with
  | none =>
    simp only [openOutlet, enrolledBy?, releasedBy?, rebinds?, hregistry]
    exact Option.map_id'.symm
  | some observers =>
    have hadded : (s.addOutlet r observers.nextKey handler).registryOf? owner = (s.registryOf? owner).map (fun g =>
        g.enter owner (some ⟨⟨.router r, observers.nextKey⟩, .handler s.handlers.length⟩)) := by
      rw [← registryOf?_enrol s (.router r) owner observers.nextKey handler]
      cases owner <;> rfl
    have hfreed := registryOf?_dropOutlet (s.addOutlet r observers.nextKey handler) name owner
    rw [holding?_addOutlet hnamed, hadded, Option.map_map] at hfreed
    rw [openOutlet_eq hregistry]
    simp only [enrolledBy?, releasedBy?, rebinds?, hregistry, Option.map_some, Option.bind_some]
    refine Eq.trans ?_ hfreed
    cases owner <;> rfl

/-- What is at a place of a longer list was there before, or is the new element. -/
theorem getElem?_concat_or {α : Type} (l : List α) (a : α) (i : Nat) :
    (l ++ [a])[i]? = l[i]? ∨ l[i]? = none ∧ (l ++ [a])[i]? = some a := by
  rcases Nat.lt_trichotomy i l.length with hlt | rfl | hgt
  · exact Or.inl (List.getElem?_append_left hlt)
  · exact Or.inr ⟨List.getElem?_eq_none (Nat.le_refl _), List.getElem?_concat_length⟩
  · refine Or.inl ?_
    rw [List.getElem?_eq_none (Nat.le_of_lt hgt), List.getElem?_eq_none (by rw [List.length_append]; exact hgt)]

/-- A new router listens to its history, and has no observers yet. -/
theorem registryOf?_openRouter (s : Session) (name : Text) (k : Nat) (routes : List Route) (owner : Owner) :
    (s.openRouter name k routes).registryOf? owner =
        (s.registryOf? owner).map (fun g => g.enter owner (s.enrolledBy? (.openRouter name k routes))) ∨
      s.registryOf? owner = none ∧ (s.openRouter name k routes).registryOf? owner = some .empty := by
  cases hhistory : s.histories[k]? with
  | none =>
    have hnone : s.registryOf? (.history k) = none := by rw [registryOf?, List.getElem?_map, hhistory]; rfl
    refine Or.inl ?_
    simp only [openRouter, hhistory, enrolledBy?, hnone]
    exact Option.map_id'.symm
  | some history =>
    have hroster : s.registryOf? (.history k) = some history.listeners := by
      rw [registryOf?, List.getElem?_map, hhistory]
      rfl
    obtain ⟨logs, journal, heq⟩ := openRouter_eq hhistory name routes
    let added : Session := (s.addRouter k routes).recordLogs logs
    let resolved : Session := added.activate s.routers.length (Route.resolve routes history.trail.current)
    have hlistening : (s.openRouter name k routes).registryOf? owner = (resolved.registryOf? owner).map (fun g =>
        if Owner.history k = owner then g.add (.follow s.routers.length) else g) := by
      rw [heq, ← registryOf?_withRegistry]
      cases owner <;> rfl
    have hresolved : resolved.registryOf? owner = added.registryOf? owner :=
      registryOf?_congr (rosters_activate added _ _) (bares_activate added _ _) (panels_activate added _ _) owner
    rw [hresolved] at hlistening
    simp only [enrolledBy?, hroster, Option.map_some]
    cases owner with
    | router r =>
      have hadded : added.registryOf? (.router r) = (s.panels ++ [.empty])[r]? := congrArg (·[r]?) List.map_append
      rw [hadded] at hlistening
      rcases getElem?_concat_or s.panels .empty r with hold | ⟨hnone, hnew⟩
      · exact Or.inl (hlistening.trans (congrArg (Option.map _) hold))
      · exact Or.inr ⟨hnone, hlistening.trans (congrArg (Option.map _) hnew)⟩
    | _ => exact Or.inl hlistening

/-- What a task does to the registry of an owner: it takes in what the task registers and gives up what the task releases. A
new owner has an empty one. -/
theorem registryOf?_perform (hnamed : s.OutletsExist) (task : Task) (owner : Owner) :
    (s.perform task).registryOf? owner =
        (s.registryOf? owner).map (fun g => (g.enter owner (s.enrolledBy? task)).leave owner (s.releasedBy? task)) ∨
      s.registryOf? owner = none ∧ (s.perform task).registryOf? owner = some .empty := by
  have hsame : (s.perform task).registryOf? owner = s.registryOf? owner → s.enrolledBy? task = none →
      s.releasedBy? task = none → (s.perform task).registryOf? owner =
        (s.registryOf? owner).map (fun g => (g.enter owner (s.enrolledBy? task)).leave owner (s.releasedBy? task)) := by
    intro heq henrolled hreleased
    rw [heq, henrolled, hreleased]
    exact Option.map_id'.symm
  cases henrolling : task.isEnrolling with
  | false =>
    have hlisting : task.isListing = false := by
      cases task <;> first | rfl | cases henrolling
    have hobserving : task.isObserving = false := by
      cases task <;> first | rfl | cases henrolling
    have heq := registryOf?_congr (rosters_perform s hlisting) (bares_perform s henrolling) (panels_perform s hobserving) owner
    refine Or.inl (hsame heq ?_ ?_) <;> cases task <;> first | rfl | cases henrolling
  | true =>
    cases task with
    | openHistory name announces path =>
      cases owner with
      | history k =>
        have hrosters : (s.openHistory name announces path).rosters = s.rosters ++ [.empty] := List.map_append
        exact (getElem?_concat_or s.rosters .empty k).imp
          (fun hold => hsame ((congrArg (·[k]?) hrosters).trans hold) rfl rfl)
          (fun hnew => ⟨hnew.1, (congrArg (·[k]?) hrosters).trans hnew.2⟩)
      | _ => exact Or.inl (hsame rfl rfl rfl)
    | openRegistry name =>
      cases owner with
      | bare b =>
        have hbares : (s.openRegistry name).bares = s.bares ++ [.empty] := List.map_append
        exact (getElem?_concat_or s.bares .empty b).imp
          (fun hold => hsame ((congrArg (·[b]?) hbares).trans hold) rfl rfl)
          (fun hnew => ⟨hnew.1, (congrArg (·[b]?) hbares).trans hnew.2⟩)
      | _ => exact Or.inl (hsame rfl rfl rfl)
    | openRouter name k routes => exact registryOf?_openRouter s name k routes owner
    | openOutlet name r handler => exact Or.inl (registryOf?_openOutlet hnamed name r handler owner)
    | subscribe name other handler => exact Or.inl (registryOf?_subscribe s name other owner handler)
    | drop kind name =>
      cases kind with
      | outlet => exact Or.inl (registryOf?_dropOutlet s name owner)
      | subscription => exact Or.inl (registryOf?_dropSubscription s name owner)
      | _ =>
        refine Or.inl (hsame ?_ rfl rfl)
        cases owner <;> rfl
    | _ => cases henrolling

/-- Sweeping takes the routers that have ended from the registries of histories. -/
theorem registryOf?_sweep (s : Session) (owner : Owner) :
    (∀ k, owner ≠ .history k) ∧ s.sweep.registryOf? owner = s.registryOf? owner ∨
      s.sweep.registryOf? owner = (s.registryOf? owner).map (fun g => g.prune s.sweep.isAlive) := by
  cases owner with
  | history k =>
    refine Or.inr ?_
    simp only [registryOf?, List.getElem?_map, getElem?_histories_sweep, Option.map_map]
    rfl
  | bare b =>
    refine Or.inl ⟨by simp, ?_⟩
    simp only [registryOf?, List.getElem?_map, getElem?_registries_sweep, Option.map_map]
    rfl
  | router r => exact Or.inl ⟨by simp, congrArg (·[r]?) (panels_sweep s)⟩

/-- A registry is there after every task. -/
theorem exists_registryOf?_perform (hnamed : s.OutletsExist) (task : Task) {owner : Owner} {g : Registry}
    (hg : s.registryOf? owner = some g) : ∃ g', (s.perform task).registryOf? owner = some g' := by
  rcases registryOf?_perform hnamed task owner with hold | ⟨hnone, -⟩
  · exact ⟨_, hold.trans (congrArg (Option.map _) hg)⟩
  · rw [hnone] at hg
    cases hg

/-- A sweep lets no registry go. -/
theorem exists_registryOf?_sweep {owner : Owner} {g : Registry} (hg : s.registryOf? owner = some g) :
    ∃ g', s.sweep.registryOf? owner = some g' := by
  rcases registryOf?_sweep s owner with ⟨-, hsame⟩ | hpruned
  · exact ⟨g, hsame.trans hg⟩
  · exact ⟨_, hpruned.trans (congrArg (Option.map _) hg)⟩

/-! ## What is held -/

/-- Who is registered makes no difference to what is held. -/
theorem holding?_withRegistry (s : Session) (owner : Owner) (f : Registry → Registry) (kind : Kind) (name : Text) :
    (s.withRegistry owner f).holding? kind name = s.holding? kind name := by
  cases owner <;> rfl

/-- One name of one kind holds something else than before. -/
theorem holding?_of_kind {held : Option Subscription} {kind' : Kind} {other : Text}
    (hkind : t.holding? kind' other = if name = other then held else s.holding? kind' other)
    (hothers : kind' ≠ kind → t.holding? kind other = s.holding? kind other) :
    t.holding? kind other = if (kind', name) = (kind, other) then held else s.holding? kind other := by
  by_cases hsame : kind' = kind
  · subst hsame
    simpa only [Prod.mk.injEq, true_and] using hkind
  · rw [if_neg (fun heq => hsame (Prod.mk.inj heq).1)]
    exact hothers hsame

/-- A subscription that is forgotten is held no more, and all else is. -/
theorem holding?_forgetSubscription (s : Session) (name : Text) (kind : Kind) (other : Text) :
    (s.forgetSubscription name).holding? kind other =
      if (Kind.subscription, name) = (kind, other) then none else s.holding? kind other := by
  refine holding?_of_kind ?_ (fun hother => ?_)
  · by_cases hname : name = other
    · rw [if_pos hname, hname]
      exact Directory.get?_erase_self _ _
    · rw [if_neg hname]
      exact Directory.get?_erase _ (Ne.symm hname)
  · cases kind <;> first | rfl | contradiction

/-- A subscription that is dropped is held no more, and all else is. -/
theorem holding?_dropSubscription (s : Session) (name : Text) (kind : Kind) (other : Text) :
    (s.dropSubscription name).holding? kind other =
      if (Kind.subscription, name) = (kind, other) then none else s.holding? kind other := by
  unfold dropSubscription
  split
  · rename_i hnone
    split
    · rename_i heq
      obtain ⟨rfl, rfl⟩ := Prod.mk.inj heq
      exact hnone
    · rfl
  · rw [cancel, holding?_withRegistry]
    exact holding?_forgetSubscription s name kind other

/-- The subscription of an outlet that is dropped is held no more, and all else is. -/
theorem holding?_dropOutlet (s : Session) (name : Text) (kind : Kind) (other : Text) :
    (s.dropOutlet name).holding? kind other =
      if (Kind.outlet, name) = (kind, other) then none else s.holding? kind other := by
  unfold dropOutlet
  split
  · rename_i hnone
    split
    · rename_i heq
      obtain ⟨rfl, rfl⟩ := Prod.mk.inj heq
      rw [holding?, hnone]
      rfl
    · rfl
  · have herased : holding? { s with names := { s.names with outlets := s.names.outlets.erase name } } kind other =
        if (Kind.outlet, name) = (kind, other) then none else s.holding? kind other := by
      refine holding?_of_kind ?_ (fun hother => ?_)
      · by_cases hname : name = other
        · rw [if_pos hname, hname, holding?, Directory.get?_erase_self]
          rfl
        · rw [if_neg hname, holding?, Directory.get?_erase _ (Ne.symm hname)]
          rfl
      · cases kind <;> first | rfl | contradiction
    simp only
    split
    · exact herased
    · rw [cancel, holding?_withRegistry]
      exact herased

/-- A subscription is held under its name from when it is made, and all else is held as before. -/
theorem holding?_subscribe {registry : Registry} (hregistry : s.registry? owner = some registry) (name : Text)
    (handler : Handler) (kind : Kind) (other : Text) :
    (s.subscribe name owner handler).holding? kind other =
      if (Kind.subscription, name) = (kind, other) then some ⟨owner, registry.nextKey⟩ else s.holding? kind other := by
  have henrolled : ∀ other, (s.enrol owner handler).holding? kind other = s.holding? kind other :=
    fun other => holding?_withRegistry (s.addHandler handler) owner _ kind other
  let stored : Session := { s.enrol owner handler with names := { (s.enrol owner handler).names with
    subscriptions := (s.enrol owner handler).names.subscriptions.put name ⟨owner, registry.nextKey⟩ } }
  have hstored : stored.holding? kind other =
      if (Kind.subscription, name) = (kind, other) then some ⟨owner, registry.nextKey⟩ else s.holding? kind other := by
    rw [← henrolled]
    refine holding?_of_kind ?_ (fun hother => ?_)
    · by_cases hname : name = other
      · rw [if_pos hname, ← hname]
        exact Directory.get?_put_self _ _ _
      · rw [if_neg hname]
        exact Directory.get?_put _ (Ne.symm hname) _
    · cases kind <;> first | rfl | contradiction
  simp only [subscribe, hregistry]
  split
  · exact hstored
  · exact (holding?_withRegistry stored _ _ kind other).trans hstored

/-- An outlet holds its subscription under its name from when it is made, and all else is held as before. -/
theorem holding?_openOutlet (hnamed : s.OutletsExist) {r : Nat}
    {observers : Registry} (hregistry : s.registry? (.router r) = some observers) (name : Text) (handler : Handler)
    (kind : Kind) (other : Text) :
    (s.openOutlet name r handler).holding? kind other =
      if (Kind.outlet, name) = (kind, other) then some ⟨.router r, observers.nextKey⟩ else s.holding? kind other := by
  let freed : Session := (s.addOutlet r observers.nextKey handler).dropOutlet name
  have hfreed : freed.holding? kind other =
      if (Kind.outlet, name) = (kind, other) then none else s.holding? kind other := by
    rw [← holding?_addOutlet hnamed r observers.nextKey handler]
    exact holding?_dropOutlet _ name kind other
  have hstalls : freed.stalls = s.stalls ++ [(r, observers.nextKey)] := by
    rw [stalls, (keeps_dropOutlet _ name).outlets]
    exact stalls_addOutlet s r observers.nextKey handler
  have hplace : freed.stalls[s.outlets.length]? = some (r, observers.nextKey) := by
    have hlength : s.outlets.length = s.stalls.length := (List.length_map _).symm
    rw [hstalls, hlength, List.getElem?_concat_length]
  rw [openOutlet_eq hregistry]
  change (freed.nameOutlet name s.outlets.length).holding? kind other = _
  have hput : (freed.nameOutlet name s.outlets.length).holding? kind other =
      if (Kind.outlet, name) = (kind, other) then some ⟨.router r, observers.nextKey⟩ else freed.holding? kind other := by
    refine holding?_of_kind ?_ (fun hother => ?_)
    · by_cases hname : name = other
      · rw [if_pos hname, hname, holding?, nameOutlet, Directory.get?_put_self]
        exact congrArg (Option.map _) hplace
      · rw [if_neg hname, holding?, nameOutlet, Directory.get?_put _ (Ne.symm hname)]
        rfl
    · cases kind <;> first | rfl | contradiction
  rw [hput, hfreed]
  split <;> rfl

/-- What is held under a name after a task: what the task registers, if it gives the name anew, or nothing, if it takes it
away. Other names hold what they held. -/
theorem holding?_perform (hnamed : s.OutletsExist) (task : Task) (kind : Kind) (name : Text) :
    (s.perform task).holding? kind name =
      if s.rebinds? task = some (kind, name) then (s.enrolledBy? task).map (·.subscription) else s.holding? kind name := by
  have hsame : s.rebinds? task = none → (s.perform task).names.subscriptions = s.names.subscriptions →
      (s.perform task).names.outlets = s.names.outlets → (s.perform task).stalls = s.stalls →
      (s.perform task).holding? kind name =
        if s.rebinds? task = some (kind, name) then (s.enrolledBy? task).map (·.subscription)
        else s.holding? kind name := by
    intro hnone hsubscriptions houtlets hstalls
    rw [hnone, if_neg (by simp)]
    exact holding?_congr hsubscriptions houtlets hstalls kind name
  cases hnaming : task.isNaming with
  | false =>
    have hnames := names_perform s hnaming
    refine hsame ?_ (by rw [hnames]) (by rw [hnames]) (stalls_perform s ?_)
    · cases task <;> first | rfl | cases hnaming
    · rintro _ _ _ rfl
      cases hnaming
  | true =>
    cases task with
    | openHistory name' announces path => cases announces <;> exact hsame rfl rfl rfl rfl
    | openRouter name' k routes =>
      have hother : ∀ other r handler, Task.openRouter name' k routes ≠ .openOutlet other r handler := by simp
      have hstalls := stalls_perform s hother
      rcases openRouter_names s name' k routes with hnames | hnames <;>
        exact hsame rfl (by rw [perform, hnames]) (by rw [perform, hnames]) hstalls
    | openOutlet name' r handler =>
      cases hregistry : s.registry? (.router r) with
      | none =>
        simp only [perform, openOutlet, rebinds?, hregistry, Option.map_none, reduceCtorEq, if_false]
      | some observers =>
        simp only [rebinds?, enrolledBy?, hregistry, Option.map_some, Option.some.injEq]
        exact holding?_openOutlet hnamed hregistry name' handler kind name
    | subscribe name' owner handler =>
      cases hregistry : s.registry? owner with
      | none =>
        simp only [perform, subscribe, rebinds?, hregistry, Option.map_none, reduceCtorEq, if_false]
      | some registry =>
        simp only [rebinds?, enrolledBy?, hregistry, Option.map_some, Option.some.injEq]
        exact holding?_subscribe hregistry name' handler kind name
    | detach name' =>
      simp only [rebinds?, enrolledBy?, Option.map_none, Option.some.injEq]
      exact holding?_forgetSubscription s name' kind name
    | drop kind' name' =>
      simp only [rebinds?, enrolledBy?, Option.map_none, Option.some.injEq]
      cases kind' with
      | outlet => exact holding?_dropOutlet s name' kind name
      | subscription => exact holding?_dropSubscription s name' kind name
      | _ => exact holding?_of_kind (ite_self none).symm (fun _ => by cases kind <;> rfl)
    | openRegistry | openCell | nameRouter | nameWeak | nameSnapshot | nameScope | nameLink | nameCell =>
      exact hsame rfl rfl rfl rfl
    | _ => cases hnaming

/-- A task registers under the next key of the registry: a handler, under a name that it gives anew, or a router that it
makes. -/
theorem enrolledBy?_cases {task : Task} {registration : Registration} (h : s.enrolledBy? task = some registration) :
    (∃ g, s.registryOf? registration.subscription.owner = some g ∧ registration.subscription.key = g.nextKey) ∧
      (registration.callback = .handler s.handlers.length ∧ (∃ kind name, s.rebinds? task = some (kind, name)) ∨
        ∃ name k routes, task = .openRouter name k routes ∧ registration.subscription.owner = .history k ∧
          registration.callback = .follow s.routers.length) := by
  cases task with
  | subscribe name owner handler =>
    obtain ⟨g, hregistry, rfl⟩ := Option.map_eq_some_iff.1 h
    refine ⟨⟨g, (registry_eq_some_iff.1 hregistry).2, rfl⟩, Or.inl ⟨rfl, .subscription, name, ?_⟩⟩
    rw [rebinds?, hregistry]
    rfl
  | openOutlet name r handler =>
    obtain ⟨g, hregistry, rfl⟩ := Option.map_eq_some_iff.1 h
    refine ⟨⟨g, (registry_eq_some_iff.1 hregistry).2, rfl⟩, Or.inl ⟨rfl, .outlet, name, ?_⟩⟩
    rw [rebinds?, hregistry]
    rfl
  | openRouter name k routes =>
    obtain ⟨g, hregistry, rfl⟩ := Option.map_eq_some_iff.1 h
    exact ⟨⟨g, hregistry, rfl⟩, Or.inr ⟨name, k, routes, rfl, rfl, rfl⟩⟩
  | _ => cases h

/-- A router that is made lives. -/
theorem isAlive_openRouter {k : Nat} (hk : ∃ g, s.registryOf? (.history k) = some g) (name : Text) (routes : List Route) :
    (s.openRouter name k routes).isAlive s.routers.length = true ∧
      s.routers.length < (s.openRouter name k routes).routers.length := by
  obtain ⟨g, hg⟩ := hk
  obtain ⟨history, hhistory, -⟩ := Option.map_eq_some_iff.1 (List.getElem?_map.symm.trans hg)
  refine ⟨?_, Nat.lt_of_succ_le (Nat.le_of_eq (length_routers_openRouter hhistory name routes).symm)⟩
  obtain ⟨logs, journal, heq⟩ := openRouter_eq hhistory name routes
  rw [heq]
  refine (isAlive_activate ((s.addRouter k routes).recordLogs logs) s.routers.length s.routers.length
    (Route.resolve routes history.trail.current)).trans ?_
  simp only [isAlive, addRouter, recordLogs, List.getElem?_concat_length]

/-! ## Steps -/

/-- What the first task registers. -/
def enrolled? (s : Session) : Option Registration := s.agenda.head?.bind s.enrolledBy?

/-- The name, with its kind, that the first task gives to something new, or takes away. -/
def rebinding? (s : Session) : Option (Kind × Text) := s.agenda.head?.bind s.rebinds?

/-- A task registers and releases the same whatever comes after it. -/
theorem enrolled?_eq {task : Task} {rest : List Task} (hfirst : s.agenda = task :: rest) :
    s.enrolled? = enrolledBy? { s with agenda := rest } task ∧ s.released? = releasedBy? { s with agenda := rest } task ∧
      s.rebinding? = rebinds? { s with agenda := rest } task := by
  have hregistry := registry?_withAgenda s rest
  rw [enrolled?, released?, rebinding?, hfirst, List.head?_cons, Option.bind_some, Option.bind_some, Option.bind_some]
  cases task with
  | subscribe name owner handler =>
    simp only [enrolledBy?, releasedBy?, rebinds?, hregistry, true_and, and_true]
    rfl
  | _ => exact ⟨rfl, rfl, rfl⟩

/-- Along every run the outlets that have names are there. -/
theorem OpenRun.outletsExist (h : OpenRun Session.empty us t) : t.OutletsExist :=
  fun entry hm => (h.settled.named entry hm).imp (fun _ ho => ho.1)

/-- What is held under a name after a step, as after a task. -/
theorem holding?_step (hnamed : s.OutletsExist) (hstep : s.step? = some t) (kind : Kind) (name : Text) :
    t.holding? kind name =
      if s.rebinding? = some (kind, name) then s.enrolled?.map (·.subscription) else s.holding? kind name := by
  obtain ⟨task, rest, hfirst, rfl⟩ := (step?_eq_some_iff s t).1 hstep
  obtain ⟨henrolled, -, hrebinding⟩ := enrolled?_eq hfirst
  rw [henrolled, hrebinding]
  exact holding?_perform (s := { s with agenda := rest }) hnamed task kind name

/-- A subscription that is made is held. -/
theorem exists_holding?_of_enrolled? (hnamed : s.OutletsExist) (hstep : s.step? = some t)
    (hnew : s.enrolled? = some ⟨subscription, .handler index⟩) : ∃ kind name, t.holding? kind name = some subscription := by
  obtain ⟨task, hfirst, henrolled⟩ := Option.bind_eq_some_iff.1 hnew
  obtain ⟨-, ⟨-, kind, name, hrebinds⟩ | ⟨_, _, _, _, _, hfollow⟩⟩ := enrolledBy?_cases henrolled
  · have hrebinding : s.rebinding? = some (kind, name) := by rw [rebinding?, hfirst, Option.bind_some, hrebinds]
    refine ⟨kind, name, ?_⟩
    rw [holding?_step hnamed hstep, if_pos hrebinding, hnew]
    rfl
  · cases hfollow

/-- A subscription is held until it is released or detached. -/
theorem holding?_of_step (hnamed : s.OutletsExist) (hstep : s.step? = some t)
    (hheld : s.holding? kind name = some subscription) : t.holding? kind name = some subscription ∨
      s.released? = some subscription ∨ kind = .subscription ∧ s.agenda.head? = some (.detach name) := by
  by_cases hrebinding : s.rebinding? = some (kind, name)
  · obtain ⟨task, hfirst, hrebinds⟩ := Option.bind_eq_some_iff.1 hrebinding
    refine Or.inr ?_
    by_cases hdetach : ∃ other, task = .detach other
    · obtain ⟨other, rfl⟩ := hdetach
      obtain ⟨rfl, rfl⟩ := Prod.mk.inj (Option.some.inj hrebinds)
      exact Or.inr ⟨rfl, hfirst⟩
    · refine Or.inl ?_
      have hreleased : s.releasedBy? task = (s.rebinds? task).bind (fun place => s.holding? place.1 place.2) := by
        unfold releasedBy?
        split
        · exact absurd ⟨_, rfl⟩ hdetach
        · rfl
      rw [released?, hfirst, Option.bind_some, hreleased, hrebinds]
      exact hheld
  · exact Or.inl ((holding?_step hnamed hstep kind name).trans (by rw [if_neg hrebinding, hheld]))

/-- What the first task releases was held. -/
theorem exists_holding?_of_released? (h : s.released? = some subscription) :
    ∃ kind name, s.holding? kind name = some subscription := by
  obtain ⟨task, -, hreleased⟩ := Option.bind_eq_some_iff.1 h
  obtain ⟨kind, name, -, hheld⟩ := exists_holding?_of_releasedBy? hreleased
  exact ⟨kind, name, hheld⟩

end Session

end PathRouting
