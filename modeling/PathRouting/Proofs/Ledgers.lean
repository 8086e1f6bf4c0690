import PathRouting.Proofs.Handles

/-!
# Ledgers of registrations

What is registered with an owner stays in the registry until its subscription is released, or until the router that listens
has ended. Statements: along every run the registries are what they should be after what was registered and released, and what
is held was registered, not released, and is held once; so that a registry gives its keys one after the other, has just the
callbacks that were registered with it and not released, and a subscription that is held is active as long as its owner lives.
-/

namespace PathRouting

/-- Only the router that a callback follows matters to whether it lives. -/
theorem Callback.follows_congr {callback : Callback} {lives lives' : Nat → Bool}
    (h : ∀ r, callback = .follow r → lives r = lives' r) : callback.follows lives = callback.follows lives' := by
  cases callback with
  | handler index => rfl
  | follow r => exact h r rfl

namespace Registry

variable {g : Registry} {owner : Owner} {made : List (Nat × Callback)} {keeps : Nat × Callback → Bool}

/-- The registry has given its keys to these callbacks, one after the other, and has those of them still that are to be
kept. -/
structure IsRecord (g : Registry) (made : List (Nat × Callback)) (keeps : Nat × Callback → Bool) : Prop where
  keys : made.map (·.1) = List.range g.nextKey
  entries : g.entries = made.filter keeps

theorem isRecord_empty (keeps : Nat × Callback → Bool) : Registry.empty.IsRecord [] keeps := ⟨rfl, rfl⟩

/-- What matters of what is kept are the callbacks that were registered. -/
theorem IsRecord.congr (h : g.IsRecord made keeps) {keeps' : Nat × Callback → Bool}
    (hsame : ∀ entry ∈ made, keeps' entry = keeps entry) : g.IsRecord made keeps' :=
  ⟨h.keys, h.entries.trans (List.filter_congr (fun entry hm => (hsame entry hm).symm))⟩

/-- A callback that is added is the last one on the record, under the next key. -/
theorem IsRecord.add (h : g.IsRecord made keeps) {callback : Callback} (hnew : keeps (g.nextKey, callback) = true) :
    (g.add callback).IsRecord (made ++ [(g.nextKey, callback)]) keeps where
  keys := by
    rw [List.map_append, h.keys, Registry.add, List.range_succ]
    rfl
  entries := by
    rw [Registry.add, h.entries, List.filter_append, List.filter_cons_of_pos hnew]
    rfl

/-- A callback that is removed is kept no more, and its key is not given again. -/
theorem IsRecord.remove (h : g.IsRecord made keeps) (key : Nat) :
    (g.remove key).IsRecord made (fun entry => entry.1 != key && keeps entry) :=
  ⟨h.keys, by rw [Registry.remove, h.entries, List.filter_filter]⟩

/-- The routers that have ended are kept no more. -/
theorem IsRecord.prune (h : g.IsRecord made keeps) (lives : Nat → Bool) :
    (g.prune lives).IsRecord made (fun entry => entry.2.follows lives && keeps entry) :=
  ⟨h.keys, by rw [Registry.prune, h.entries, List.filter_filter]⟩

/-- A key that was given is below the next one. -/
theorem IsRecord.lt_nextKey (h : g.IsRecord made keeps) {entry : Nat × Callback} (hm : entry ∈ made) :
    entry.1 < g.nextKey := by
  have hkey : entry.1 ∈ made.map (·.1) := List.mem_map_of_mem hm
  rw [h.keys] at hkey
  exact List.mem_range.1 hkey

end Registry

/-! ## Ledgers -/

/-- The entries that registrations make in the registry of an owner, in order. -/
def entriesOf (owner : Owner) (made : List Registration) : List (Nat × Callback) :=
  (made.filter (fun registration => registration.subscription.owner = owner)).map
    (fun registration => (registration.subscription.key, registration.callback))

/-- The entry is not that of a subscription that was released, and if it is a router that listens, the router lives. -/
def stays (released : List Subscription) (lives : Nat → Bool) (owner : Owner) (entry : Nat × Callback) : Bool :=
  decide (⟨owner, entry.1⟩ ∉ released) && entry.2.follows lives

section

variable {g : Registry} {owner : Owner} {made : List Registration} {released : List Subscription} {lives : Nat → Bool}
  {entry : Nat × Callback}

/-- An entry is made by the registration with its owner, its key and its callback. -/
theorem mem_entriesOf : entry ∈ entriesOf owner made ↔ ⟨⟨owner, entry.1⟩, entry.2⟩ ∈ made := by
  simp only [entriesOf, List.mem_map, List.mem_filter, decide_eq_true_eq]
  constructor
  · rintro ⟨registration, ⟨hm, rfl⟩, rfl⟩
    exact hm
  · exact fun hm => ⟨_, ⟨hm, rfl⟩, rfl⟩

/-- The entries of later registrations come behind those of earlier ones. -/
theorem entriesOf_append (owner : Owner) (made new : List Registration) :
    entriesOf owner (made ++ new) = entriesOf owner made ++ entriesOf owner new := by
  rw [entriesOf, List.filter_append, List.map_append]
  rfl

/-- A registration makes an entry with its own owner, and none with another. -/
theorem entriesOf_singleton (owner : Owner) (registration : Registration) : entriesOf owner [registration] =
    if registration.subscription.owner = owner then [(registration.subscription.key, registration.callback)] else [] := by
  rw [entriesOf, List.filter_singleton]
  by_cases howner : registration.subscription.owner = owner <;> simp [howner]

/-- An entry stays as long as it is not released and does not follow a router that has ended. -/
theorem stays_eq_true_iff : stays released lives owner entry = true ↔
    ⟨owner, entry.1⟩ ∉ released ∧ entry.2.follows lives = true := by
  rw [stays, Bool.and_eq_true, decide_eq_true_eq]

/-- A registration is recorded with its owner, and with no other. -/
theorem Registry.IsRecord.enter {keeps : Nat × Callback → Bool} (h : g.IsRecord (entriesOf owner made) keeps)
    (new : Option Registration) (hnew : ∀ registration, new = some registration →
      registration.subscription.owner = owner → registration.subscription.key = g.nextKey ∧
        keeps (g.nextKey, registration.callback) = true) :
    (g.enter owner new).IsRecord (entriesOf owner (made ++ new.toList)) keeps := by
  rw [entriesOf_append]
  cases new with
  | none => exact (List.append_nil _).symm ▸ h
  | some registration =>
    rw [Registry.enter, Option.toList_some, entriesOf_singleton]
    split
    · rename_i howner
      obtain ⟨hkey, hkeeps⟩ := hnew registration rfl howner
      rw [hkey]
      exact h.add hkeeps
    · rw [List.append_nil]
      exact h

/-- A subscription that is released is taken from the record of its owner, and nothing else is. -/
theorem Registry.IsRecord.leave {entries : List (Nat × Callback)} (h : g.IsRecord entries (stays released lives owner))
    (subscription : Option Subscription) :
    (g.leave owner subscription).IsRecord entries (stays (released ++ subscription.toList) lives owner) := by
  cases subscription with
  | none => exact (List.append_nil released).symm ▸ h
  | some subscription =>
    have hreleased : ∀ entry : Nat × Callback, stays (released ++ [subscription]) lives owner entry =
        (decide (⟨owner, entry.1⟩ ≠ subscription) && stays released lives owner entry) := by
      intro entry
      rw [Bool.eq_iff_iff, Bool.and_eq_true, decide_eq_true_eq, stays_eq_true_iff, stays_eq_true_iff, List.mem_append,
        List.mem_singleton, not_or]
      exact ⟨fun h => ⟨h.1.2, h.1.1, h.2⟩, fun h => ⟨⟨h.2.1, h.1⟩, h.2.2⟩⟩
    rw [Registry.leave]
    split
    · rename_i howner
      refine (h.remove subscription.key).congr (fun entry _ => ?_)
      rw [Option.toList_some, hreleased, ← howner]
      refine congrArg (· && _) (Bool.eq_iff_iff.2 ?_)
      rw [decide_eq_true_eq, bne_iff_ne]
      exact not_congr ⟨fun heq => congrArg Subscription.key heq, fun heq => heq ▸ rfl⟩
    · rename_i howner
      refine h.congr (fun entry _ => ?_)
      have hother : (⟨owner, entry.1⟩ : Subscription) ≠ subscription :=
        fun heq => howner (congrArg Subscription.owner heq).symm
      rw [Option.toList_some, hreleased, decide_eq_true hother, Bool.true_and]

/-- Routers that end are taken from the record. -/
theorem Registry.IsRecord.ends {entries : List (Nat × Callback)} (h : g.IsRecord entries (stays released lives owner))
    {lives' : Nat → Bool} (hends : ∀ entry ∈ entries, entry.2.follows lives' = true → entry.2.follows lives = true) :
    (g.prune lives').IsRecord entries (stays released lives' owner) := by
  refine (h.prune lives').congr (fun entry hm => ?_)
  rw [Bool.eq_iff_iff, Bool.and_eq_true, stays_eq_true_iff, stays_eq_true_iff]
  exact ⟨fun h => ⟨h.2, h.1, hends entry hm h.2⟩, fun h => ⟨h.2.1, h.1⟩⟩

end

namespace Session

variable {s t u v : Session} {us vs : List Session} {owner : Owner} {g : Registry} {kind : Kind} {name : Text}
  {subscription : Subscription} {made : List Registration} {released : List Subscription} {index : Nat}

/-- The registries are what they should be after these registrations and releases, and what is held was registered, not
released, and is held once. -/
structure IsLedger (s : Session) (made : List Registration) (released : List Subscription) : Prop where
  records : ∀ owner g, s.registryOf? owner = some g →
    g.IsRecord (entriesOf owner made) (stays released s.isAlive owner)
  owners : ∀ registration ∈ made, ∃ g, s.registryOf? registration.subscription.owner = some g
  followers : ∀ registration ∈ made, ∀ r, registration.callback = .follow r →
    (∃ k, registration.subscription.owner = .history k) ∧ r < s.routers.length
  releases : ∀ subscription ∈ released, ∃ index, ⟨subscription, .handler index⟩ ∈ made
  held : ∀ kind name subscription, s.holding? kind name = some subscription →
    subscription ∉ released ∧ ∃ index, ⟨subscription, .handler index⟩ ∈ made
  once : ∀ kind name kind' name' subscription, s.holding? kind name = some subscription →
    s.holding? kind' name' = some subscription → kind' = kind ∧ name' = name

/-- Nothing was registered, and nothing is held. -/
theorem isLedger_empty : Session.empty.IsLedger [] [] where
  records := by
    intro owner g hg
    cases owner <;> cases hg
  owners := fun _ hm => absurd hm List.not_mem_nil
  followers := fun _ hm => absurd hm List.not_mem_nil
  releases := fun _ hm => absurd hm List.not_mem_nil
  held := by
    intro kind name subscription hheld
    cases kind <;> cases hheld
  once := by
    intro kind name kind' name' subscription hheld
    cases kind <;> cases hheld

/-- A ledger is about registries, routers and what is held. -/
theorem IsLedger.congr (h : s.IsLedger made released) (hregistry : ∀ owner, t.registryOf? owner = s.registryOf? owner)
    (hrouters : t.routers = s.routers) (hholding : ∀ kind name, t.holding? kind name = s.holding? kind name) :
    t.IsLedger made released := by
  have hlives : t.isAlive = s.isAlive := by
    funext r
    rw [isAlive, isAlive, hrouters]
  refine ⟨?_, ?_, ?_, h.releases, ?_, ?_⟩
  · simp only [hregistry, hlives]
    exact h.records
  · simp only [hregistry]
    exact h.owners
  · rw [hrouters]
    exact h.followers
  · simp only [hholding]
    exact h.held
  · simp only [hholding]
    exact h.once

/-- The next key of a registry is new. -/
theorem IsLedger.fresh (h : s.IsLedger made released) (hg : s.registryOf? owner = some g) (callback : Callback) :
    ⟨⟨owner, g.nextKey⟩, callback⟩ ∉ made := by
  intro hm
  have hentry : (g.nextKey, callback) ∈ entriesOf owner made := mem_entriesOf.2 hm
  exact Nat.lt_irrefl _ ((h.records owner g hg).lt_nextKey hentry)

/-- What a task registers was not made before. -/
theorem IsLedger.fresh_enrolled (h : s.IsLedger made released) {task : Task} {registration : Registration}
    (hnew : s.enrolledBy? task = some registration) (callback : Callback) :
    ⟨registration.subscription, callback⟩ ∉ made := by
  obtain ⟨⟨⟨owner, key⟩, called⟩, rfl⟩ : ∃ other, other = registration := ⟨registration, rfl⟩
  obtain ⟨⟨g, hg, rfl⟩, -⟩ := enrolledBy?_cases hnew
  exact h.fresh hg callback

/-- What a task releases is held by nobody any more. -/
theorem IsLedger.ne_released (h : s.IsLedger made released) {task : Task} (hheld : s.holding? kind name = some subscription)
    (hother : s.rebinds? task ≠ some (kind, name)) : s.releasedBy? task ≠ some subscription := by
  intro hreleased
  obtain ⟨kind', name', hrebinds, hheld'⟩ := exists_holding?_of_releasedBy? hreleased
  obtain ⟨rfl, rfl⟩ := h.once _ _ _ _ _ hheld hheld'
  exact hother hrebinds

/-- What is registered or was registered before has an owner. -/
theorem IsLedger.exists_registryOf? (h : s.IsLedger made released) {task : Task} {registration : Registration}
    (hm : registration ∈ made ++ (s.enrolledBy? task).toList) :
    ∃ g, s.registryOf? registration.subscription.owner = some g := by
  rcases List.mem_append.1 hm with hm | hm
  · exact h.owners _ hm
  · obtain ⟨⟨g, hg, -⟩, -⟩ := enrolledBy?_cases (Option.mem_toList.1 hm)
    exact ⟨g, hg⟩

/-- What is released or was released before had been made. -/
theorem IsLedger.exists_mem_made (h : s.IsLedger made released) {task : Task}
    (hm : subscription ∈ released ++ (s.releasedBy? task).toList) : ∃ index, ⟨subscription, .handler index⟩ ∈ made := by
  rcases List.mem_append.1 hm with hm | hm
  · exact h.releases _ hm
  · obtain ⟨kind, name, -, hheld⟩ := exists_holding?_of_releasedBy? (Option.mem_toList.1 hm)
    exact (h.held _ _ _ hheld).2

/-- A subscription that is held is not the one that is made now. -/
theorem IsLedger.ne_enrolled (h : s.IsLedger made released) {task : Task}
    (hheld : s.holding? kind name = some subscription) : (s.enrolledBy? task).map (·.subscription) ≠ some subscription := by
  intro hnew
  obtain ⟨registration, henrolled, rfl⟩ := Option.map_eq_some_iff.1 hnew
  obtain ⟨-, index, hm⟩ := h.held kind name _ hheld
  exact h.fresh_enrolled henrolled _ hm

/-- After a task the callbacks of old registrations follow routers that live as they did. -/
theorem IsLedger.follows_perform (h : s.IsLedger made released) (task : Task) {entry : Nat × Callback}
    (hm : entry ∈ entriesOf owner made) : entry.2.follows (s.perform task).isAlive = entry.2.follows s.isAlive :=
  Callback.follows_congr (fun r hr => isAlive_perform s task (h.followers _ (mem_entriesOf.1 hm) r hr).2)

/-- A task keeps the records: what is new stays, since its key was never released and a router that listens is made just then;
and nothing was registered yet with an owner that is new. -/
theorem IsLedger.records_perform (h : s.IsLedger made released) (hnamed : s.OutletsExist) (task : Task) (owner : Owner)
    (g : Registry) (hg : (s.perform task).registryOf? owner = some g) :
    g.IsRecord (entriesOf owner (made ++ (s.enrolledBy? task).toList))
      (stays (released ++ (s.releasedBy? task).toList) (s.perform task).isAlive owner) := by
  rcases registryOf?_perform hnamed task owner with hold | ⟨hnone, hempty⟩
  · obtain ⟨old, hregistry, rfl⟩ := Option.map_eq_some_iff.1 (hold.symm.trans hg)
    have hrecord : old.IsRecord (entriesOf owner made) (stays released (s.perform task).isAlive owner) :=
      (h.records owner old hregistry).congr (fun entry hm => by rw [stays, stays, h.follows_perform task hm])
    refine (hrecord.enter (s.enrolledBy? task) ?_).leave (s.releasedBy? task)
    intro registration hnew howner
    obtain ⟨⟨g', hg', hkey⟩, hcallback⟩ := enrolledBy?_cases hnew
    rw [howner] at hg'
    obtain rfl := Option.some.inj (hregistry.symm.trans hg')
    refine ⟨hkey, stays_eq_true_iff.2 ⟨fun hm => ?_, ?_⟩⟩
    · obtain ⟨index, hm⟩ := h.releases _ hm
      exact h.fresh hregistry _ hm
    · rcases hcallback with ⟨hhandler, -⟩ | ⟨name, k, routes, rfl, hhistory, hfollow⟩
      · rw [hhandler]
        rfl
      · rw [hfollow]
        exact (isAlive_openRouter ⟨old, hhistory.symm.trans howner ▸ hregistry⟩ name routes).1
  · obtain rfl := Option.some.inj (hempty.symm.trans hg)
    have hnobody : entriesOf owner (made ++ (s.enrolledBy? task).toList) = [] := by
      rw [List.eq_nil_iff_forall_not_mem]
      intro entry hm
      obtain ⟨g, hg⟩ := h.exists_registryOf? (mem_entriesOf.1 hm)
      rw [hnone] at hg
      cases hg
    rw [hnobody]
    exact Registry.isRecord_empty _

/-- What is held after a task was held before and not released, or is registered by the task. -/
theorem IsLedger.held_perform (h : s.IsLedger made released) (hnamed : s.OutletsExist) (task : Task) (kind : Kind)
    (name : Text) (subscription : Subscription) (hheld : (s.perform task).holding? kind name = some subscription) :
    subscription ∉ released ++ (s.releasedBy? task).toList ∧
      ∃ index, ⟨subscription, .handler index⟩ ∈ made ++ (s.enrolledBy? task).toList := by
  rw [holding?_perform hnamed] at hheld
  split at hheld
  · rename_i hrebinds
    obtain ⟨registration, hnew, rfl⟩ := Option.map_eq_some_iff.1 hheld
    refine ⟨fun hm => ?_, s.handlers.length, List.mem_append_right _ ?_⟩
    · obtain ⟨index, hm⟩ := h.exists_mem_made hm
      exact h.fresh_enrolled hnew _ hm
    · rw [hnew, Option.toList_some, List.mem_singleton]
      obtain ⟨-, ⟨hhandler, -⟩ | ⟨name, k, routes, rfl, -⟩⟩ := enrolledBy?_cases hnew
      · rw [← hhandler]
      · cases hrebinds
  · rename_i hother
    obtain ⟨hleft, index, hm⟩ := h.held kind name subscription hheld
    refine ⟨fun hm => ?_, index, List.mem_append_left _ hm⟩
    rcases List.mem_append.1 hm with hm | hm
    · exact hleft hm
    · exact h.ne_released hheld hother (Option.mem_toList.1 hm)

/-- A task adds what it registers and what it releases to the ledger. -/
theorem IsLedger.perform (h : s.IsLedger made released) (hnamed : s.OutletsExist) (task : Task) :
    (s.perform task).IsLedger (made ++ (s.enrolledBy? task).toList) (released ++ (s.releasedBy? task).toList) where
  records := h.records_perform hnamed task
  owners := by
    intro registration hm
    obtain ⟨g, hg⟩ := h.exists_registryOf? hm
    exact exists_registryOf?_perform hnamed task hg
  followers := by
    intro registration hm r hr
    rcases List.mem_append.1 hm with hm | hm
    · obtain ⟨howner, hlt⟩ := h.followers registration hm r hr
      exact ⟨howner, (renews_perform s task).known (.follow r) hlt⟩
    · obtain ⟨⟨g, hg, -⟩, ⟨hhandler, -⟩ | ⟨name, k, routes, rfl, howner, hfollow⟩⟩ :=
        enrolledBy?_cases (Option.mem_toList.1 hm)
      · rw [hhandler] at hr
        cases hr
      · obtain rfl := Callback.follow.inj (hr.symm.trans hfollow)
        exact ⟨⟨k, howner⟩, (isAlive_openRouter ⟨g, howner ▸ hg⟩ name routes).2⟩
  releases := fun _ hm => (h.exists_mem_made hm).imp (fun _ hm => List.mem_append_left _ hm)
  held := h.held_perform hnamed task
  once := by
    intro kind name kind' name' subscription hheld hheld'
    rw [holding?_perform hnamed] at hheld hheld'
    split at hheld <;> split at hheld'
    · rename_i hrebinds hrebinds'
      exact Prod.mk.inj (Option.some.inj (hrebinds'.symm.trans hrebinds))
    · exact absurd hheld (h.ne_enrolled hheld')
    · exact absurd hheld' (h.ne_enrolled hheld)
    · exact h.once _ _ _ _ _ hheld hheld'

/-- Routers that end leave their histories, and nothing else leaves; routers listen to histories only. -/
theorem IsLedger.sweep (h : s.IsLedger made released) : s.sweep.IsLedger made released where
  records := by
    intro owner g hg
    rcases registryOf?_sweep s owner with ⟨howner, hsame⟩ | hpruned
    · refine (h.records owner g (hsame.symm.trans hg)).congr (fun entry hm => ?_)
      have hfollows : entry.2.follows s.sweep.isAlive = entry.2.follows s.isAlive := by
        refine Callback.follows_congr (fun r hr => ?_)
        obtain ⟨⟨k, hk⟩, -⟩ := h.followers _ (mem_entriesOf.1 hm) r hr
        exact absurd hk (howner k)
      rw [stays, stays, hfollows]
    · obtain ⟨old, hold, rfl⟩ := Option.map_eq_some_iff.1 (hpruned.symm.trans hg)
      refine (h.records owner old hold).ends (fun entry _ hfollows => ?_)
      obtain ⟨key, callback⟩ := entry
      cases callback with
      | handler index => rfl
      | follow r =>
        change s.sweep.isAlive r = true at hfollows
        rw [isAlive_sweep, Bool.and_eq_true] at hfollows
        exact hfollows.1
  owners := by
    intro registration hm
    obtain ⟨g, hg⟩ := h.owners registration hm
    exact exists_registryOf?_sweep hg
  followers := by
    intro registration hm r hr
    obtain ⟨howner, hlt⟩ := h.followers registration hm r hr
    exact ⟨howner, (renews_sweep s).known (.follow r) hlt⟩
  releases := h.releases
  held := h.held
  once := h.once

/-! ## Runs -/

/-- What was registered in the course of a run, in order. -/
def registrations (us : List Session) : List Registration := us.reverse.filterMap enrolled?

/-- The subscriptions that were released in the course of a run, in order. -/
def releases (us : List Session) : List Subscription := us.reverse.filterMap released?

/-- The registration of the latest step comes last. -/
theorem registrations_cons (s : Session) (us : List Session) :
    registrations (s :: us) = registrations us ++ s.enrolled?.toList := filterMap_reverse_cons _ s us

/-- The release of the latest step comes last. -/
theorem releases_cons (s : Session) (us : List Session) : releases (s :: us) = releases us ++ s.released?.toList :=
  filterMap_reverse_cons _ s us

/-- Along every run the registries have what was registered and not released. -/
theorem OpenRun.isLedger (h : OpenRun Session.empty us t) : t.IsLedger (registrations us) (releases us) := by
  induction h with
  | start => exact isLedger_empty
  | @step us l t t' hrun hstep ih =>
    cases hstep with
    | own hown =>
      obtain ⟨task, rest, hfirst, rfl⟩ := (step?_eq_some_iff t t').1 hown
      have hpopped : IsLedger { t with agenda := rest } (registrations us) (releases us) :=
        ih.congr (fun owner => by cases owner <;> rfl) rfl (fun _ _ => rfl)
      obtain ⟨henrolled, hreleased, -⟩ := enrolled?_eq hfirst
      rw [List.singleton_append, registrations_cons, releases_cons, henrolled, hreleased]
      exact (hpopped.perform hrun.outletsExist task).sweep
    | told c hidle => exact ih.congr (fun owner => by cases owner <;> rfl) rfl (fun _ _ => rfl)
    | outside histories hvaries pool hpool tasks htasks =>
      exact ih.congr (registryOf?_congr (listeners_of_varies hvaries) rfl rfl) rfl (fun _ _ => rfl)

/-! ## From registering to releasing -/

/-- The callback is registered under the subscription, whether the owner lives or not. -/
def IsRegistered (s : Session) (subscription : Subscription) (callback : Callback) : Prop :=
  ∃ g, s.registryOf? subscription.owner = some g ∧ (subscription.key, callback) ∈ g.entries

/-- Registered is what was registered before and not released, but for routers that have ended. -/
theorem IsLedger.isRegistered_iff (h : s.IsLedger made released) {callback : Callback} :
    s.IsRegistered subscription callback ↔
      ⟨subscription, callback⟩ ∈ made ∧ subscription ∉ released ∧ callback.follows s.isAlive = true := by
  have hentry : ∀ g, s.registryOf? subscription.owner = some g → ((subscription.key, callback) ∈ g.entries ↔
      ⟨subscription, callback⟩ ∈ made ∧ subscription ∉ released ∧ callback.follows s.isAlive = true) := by
    intro g hg
    rw [(h.records _ g hg).entries, List.mem_filter, mem_entriesOf, stays_eq_true_iff]
  constructor
  · rintro ⟨g, hg, hm⟩
    exact (hentry g hg).1 hm
  · intro hstays
    obtain ⟨g, hg⟩ := h.owners _ hstays.1
    exact ⟨g, hg, (hentry g hg).2 hstays⟩

/-- What is held is registered. -/
theorem IsLedger.exists_isRegistered (h : s.IsLedger made released) (hheld : s.holding? kind name = some subscription) :
    ∃ index, ⟨subscription, .handler index⟩ ∈ made ∧ s.IsRegistered subscription (.handler index) := by
  obtain ⟨hleft, index, hmade⟩ := h.held kind name subscription hheld
  exact ⟨index, hmade, h.isRegistered_iff.2 ⟨hmade, hleft, rfl⟩⟩

/-- A subscription with a callback that is registered is active as long as its owner lives. -/
theorem IsRegistered.isSubscribed_iff {callback : Callback} (h : s.IsRegistered subscription callback) :
    s.isSubscribed subscription = true ↔ s.lives subscription.owner = true := by
  obtain ⟨g, hg, hentry⟩ := h
  unfold isSubscribed
  split
  · rename_i registry hregistry
    obtain ⟨hlives, hsame⟩ := registry_eq_some_iff.1 hregistry
    obtain rfl := Option.some.inj (hg.symm.trans hsame)
    exact iff_of_true (List.any_eq_true.2 ⟨_, hentry, beq_self_eq_true _⟩) hlives
  · rename_i hnone
    refine iff_of_false (by simp) (fun hlives => ?_)
    rw [registry_eq_some_iff.2 ⟨hlives, hg⟩] at hnone
    cases hnone

/-- What was made, is not held and was not released, is never released. -/
theorem OpenRun.notMem_releases (hrun : OpenRun Session.empty us s) (hmade : ⟨subscription, .handler index⟩ ∈ registrations us)
    (hleft : subscription ∉ releases us) (hloose : ∀ kind name, s.holding? kind name ≠ some subscription)
    (hlater : OpenRun s vs t) : ⟨subscription, .handler index⟩ ∈ registrations (vs ++ us) ∧
      subscription ∉ releases (vs ++ us) ∧ ∀ kind name, t.holding? kind name ≠ some subscription := by
  induction hlater with
  | start => exact ⟨hmade, hleft, hloose⟩
  | @step vs l t t' hbefore hstep ih =>
    obtain ⟨hmade, hleft, hloose⟩ := ih
    have hrun' := hrun.trans hbefore
    cases hstep with
    | own hown =>
      rw [List.singleton_append, List.cons_append, registrations_cons, releases_cons]
      refine ⟨List.mem_append_left _ hmade, fun hm => ?_, fun kind name hheld => ?_⟩
      · rcases List.mem_append.1 hm with hm | hm
        · exact hleft hm
        · obtain ⟨kind, name, hheld⟩ := exists_holding?_of_released? (Option.mem_toList.1 hm)
          exact hloose kind name hheld
      · rw [holding?_step hrun'.outletsExist hown] at hheld
        split at hheld
        · obtain ⟨registration, hnew, rfl⟩ := Option.map_eq_some_iff.1 hheld
          obtain ⟨task, -, henrolled⟩ := Option.bind_eq_some_iff.1 hnew
          exact hrun'.isLedger.fresh_enrolled henrolled _ hmade
        · exact hloose kind name hheld
    | told c hidle => exact ⟨hmade, hleft, hloose⟩
    | outside histories hvaries pool hpool tasks htasks => exact ⟨hmade, hleft, hloose⟩

/-- Releasing a subscription takes its callback away, and no other but those of routers that end. -/
theorem OpenRun.isRegistered_of_released (h : OpenRun Session.empty us s) (hstep : s.step? = some t)
    (hreleased : s.released? = some subscription) : (∃ index, s.IsRegistered subscription (.handler index)) ∧
      ∀ other callback, s.IsRegistered other callback →
        (t.IsRegistered other callback ↔ other ≠ subscription ∧ callback.follows t.isAlive = true) := by
  have hlater : OpenRun Session.empty (s :: us) t := h.step (.own hstep)
  obtain ⟨kind, name, hheld⟩ := exists_holding?_of_released? hreleased
  obtain ⟨index, -, hregistered⟩ := h.isLedger.exists_isRegistered hheld
  refine ⟨⟨index, hregistered⟩, fun other callback hbefore => ?_⟩
  obtain ⟨hmade, hleft, -⟩ := h.isLedger.isRegistered_iff.1 hbefore
  rw [hlater.isLedger.isRegistered_iff, registrations_cons, releases_cons, hreleased, Option.toList_some,
    List.mem_append, List.mem_append, List.mem_singleton, not_or]
  exact ⟨fun h => ⟨h.2.1.2, h.2.2⟩, fun h => ⟨Or.inl hmade, ⟨hleft, h.1⟩, h.2⟩⟩

/-- A callback whose subscription is detached stays registered. -/
theorem OpenRun.isRegistered_of_detach (h : OpenRun Session.empty us s) (hstep : s.step? = some t)
    (hdetach : s.agenda.head? = some (.detach name)) (hname : s.names.subscriptions.get? name = some subscription) :
    ∃ index, s.IsRegistered subscription (.handler index) ∧
      ∀ vs u, OpenRun t vs u → u.IsRegistered subscription (.handler index) := by
  have hheld : s.holding? .subscription name = some subscription := hname
  obtain ⟨index, hmade, hregistered⟩ := h.isLedger.exists_isRegistered hheld
  refine ⟨index, hregistered, fun vs u hrun => ?_⟩
  have hlater : OpenRun Session.empty (s :: us) t := h.step (.own hstep)
  have hnew : s.enrolled? = none := by rw [enrolled?, hdetach]; rfl
  have hreleased : s.released? = none := by rw [released?, hdetach]; rfl
  have hrebinding : s.rebinding? = some (.subscription, name) := by rw [rebinding?, hdetach]; rfl
  have hloose : ∀ kind' name', t.holding? kind' name' ≠ some subscription := by
    intro kind' name' hheld'
    rw [holding?_step h.outletsExist hstep, hnew, hrebinding] at hheld'
    split at hheld'
    · cases hheld'
    · rename_i hother
      obtain ⟨rfl, rfl⟩ := h.isLedger.once _ _ _ _ _ hheld hheld'
      exact hother rfl
  have hmade' : ⟨subscription, .handler index⟩ ∈ registrations (s :: us) := by
    rw [registrations_cons]
    exact List.mem_append_left _ hmade
  have hleft : subscription ∉ releases (s :: us) := by
    rw [releases_cons, hreleased, Option.toList_none, List.append_nil]
    exact (h.isLedger.held _ _ _ hheld).1
  obtain ⟨hmade, hleft, -⟩ := hlater.notMem_releases hmade' hleft hloose hrun
  exact (hlater.trans hrun).isLedger.isRegistered_iff.2 ⟨hmade, hleft, rfl⟩

/-- The name of a subscription leads to it: by the name it is asked for, released and detached. -/
structure NamesSubscription (s : Session) (name : Text) (subscription : Subscription) : Prop where
  ask : s.plan (.isSubscribed (.given name)) = .reply (.flag (s.isSubscribed subscription))
  unsubscribe : s.plan (.unsubscribe (.given name)) = .act (.drop .subscription name)
  detach : s.plan (.detach (.given name)) = .act (.detach name)

/-- What a name stands for is what it is asked for, released and detached by. -/
theorem namesSubscription_of_get? (h : s.names.subscriptions.get? name = some subscription) :
    s.NamesSubscription name subscription := by
  have hfound : s.lookUpSubscription (.given name) = .ok subscription := by
    change s.names.subscriptions.find name = _
    rw [Directory.find, h]
  refine ⟨?_, ?_, ?_⟩ <;>
  · rw [plan, planned, hfound]
    rfl

/-! ## In step -/

/-- The registries have given their keys to what was registered with them, in order; they have just what was not released, but
for routers that have ended; and what is held is active as long as its owner lives and its callback is registered. -/
structure IsInStep (s : Session) (made : List Registration) (released : List Subscription) : Prop where
  keys : ∀ owner g, s.registryOf? owner = some g → (entriesOf owner made).map (·.1) = List.range g.nextKey
  entries : ∀ owner g, s.registryOf? owner = some g → g.entries = (entriesOf owner made).filter (stays released s.isAlive owner)
  size : ∀ owner g, s.registryOf? owner = some g → g.size = (entriesOf owner made).countP (stays released s.isAlive owner)
  active : ∀ kind name subscription, s.holding? kind name = some subscription →
    ∃ index, ⟨subscription, .handler index⟩ ∈ made ∧ (s.isSubscribed subscription = true ↔
      s.lives subscription.owner = true ∧ s.IsRegistered subscription (.handler index))

/-- Registries that are as a ledger has them are in step. -/
theorem IsLedger.isInStep (h : s.IsLedger made released) : s.IsInStep made released where
  keys := fun owner g hg => (h.records owner g hg).keys
  entries := fun owner g hg => (h.records owner g hg).entries
  size := by
    intro owner g hg
    rw [Registry.size, (h.records owner g hg).entries, List.countP_eq_length_filter]
  active := by
    intro kind name subscription hheld
    obtain ⟨index, hmade, hregistered⟩ := h.exists_isRegistered hheld
    exact ⟨index, hmade, hregistered.isSubscribed_iff.trans (and_iff_left hregistered).symm⟩

end Session

end PathRouting
