import PathRouting.Proofs.Cancellation
import PathRouting.Proofs.Holdings
import PathRouting.Proofs.Rosters

/-!
# Who listens to a history

A history is listened to by the routers on it that live, and by the handlers that were registered with it and whose
registration was not cancelled. Statements: whatever is done, the registries of all histories go on to list just them, so
that along every run a history has as many listeners as there are of both.
-/

namespace PathRouting

namespace Session

variable {s t : Session} {us : List Session} {made cancelled : List Subscription}

/-- The registries of the histories. -/
def rosters (s : Session) : List Registry := s.histories.map (·.listeners)

/-- Where the routers are. -/
def posts (s : Session) : List (Nat × Bool) := s.routers.map Router.post

/-- All histories have the listeners that they should have after some registrations and cancellations. -/
structure Enlists (s : Session) (made cancelled : List Subscription) : Prop where
  lists : ∀ (h : Nat) (g : Registry), s.rosters[h]? = some g → g.Lists h made cancelled s.posts
  posts : ∀ post ∈ s.posts, post.1 < s.rosters.length
  owners : ∀ subscription ∈ made ++ cancelled, ∀ h, subscription.owner = .history h → h < s.rosters.length
  named : ∀ entry ∈ s.names.subscriptions, entry.2 ∈ made

/-- Nothing was registered with a history, and nobody listens to one. -/
theorem enlists_empty : Enlists Session.empty [] [] where
  lists := fun _ _ hg => nomatch hg
  posts := fun _ hm => absurd hm List.not_mem_nil
  owners := fun _ hm => absurd hm List.not_mem_nil
  named := fun _ hm => absurd hm List.not_mem_nil

/-- What changes neither registries of histories nor where routers are keeps the lists right. -/
theorem Enlists.congr (h : s.Enlists made cancelled) (hrosters : t.rosters = s.rosters) (hposts : t.posts = s.posts)
    (hnames : t.names.subscriptions ⊆ s.names.subscriptions) : t.Enlists made cancelled where
  lists := by
    rw [hrosters, hposts]
    exact h.lists
  posts := by
    rw [hrosters, hposts]
    exact h.posts
  owners := by
    rw [hrosters]
    exact h.owners
  named := fun entry hm => h.named entry (hnames hm)

/-- A change of the registry of a history is that change of its roster. -/
theorem rosters_withHistory (s : Session) (h : Nat) (f : Registry → Registry) :
    (s.withRegistry (.history h) f).rosters = s.rosters.modify h f := 
  map_modify (f := fun g : History => { g with listeners := f g.listeners }) (g := fun g : History => g.listeners)
    (fun _ => rfl) s.histories h

/-- A change of any other registry leaves the rosters as they are. -/
theorem rosters_withRegistry {owner : Owner} (howner : ∀ h, owner ≠ .history h) (s : Session) (f : Registry → Registry) :
    (s.withRegistry owner f).rosters = s.rosters := by
  cases owner with
  | history h => exact absurd rfl (howner h)
  | bare b => rfl
  | router r => rfl

/-- Where a router is does not depend on who observes it. -/
theorem posts_of_desks (h : t.desks = s.desks) : t.posts = s.posts := by
  have hdesks : ∀ u : Session, u.posts = u.desks.map Router.post := fun u => by
    rw [posts, desks, List.map_map]
    rfl
  rw [hdesks, hdesks, h]

/-- A router lives if it is posted as living. -/
theorem isAlive_iff_post {r : Nat} : s.isAlive r = true ↔ ∃ k, s.posts[r]? = some (k, true) := by
  rw [isAlive, posts, List.getElem?_map]
  cases s.routers[r]? <;> simp [Router.post]

/-- Who is registered makes no difference to where routers are. -/
theorem posts_withRegistry (s : Session) (owner : Owner) (f : Registry → Registry) :
    (s.withRegistry owner f).posts = s.posts := by
  cases owner with
  | router r =>
    exact map_modify_of_forall (f := fun g : Router => { g with observers := f g.observers }) (g := Router.post)
      (fun _ => rfl) s.routers r
  | _ => rfl

/-- The registry of a history that lives is its roster. -/
theorem roster_of_registry {h : Nat} {g : Registry} (hg : s.registry? (.history h) = some g) : s.rosters[h]? = some g := by
  unfold registry? at hg
  dsimp only at hg
  rw [rosters, List.getElem?_map]
  cases hhistory : s.histories[h]? with
  | none =>
    rw [hhistory] at hg
    cases hg
  | some history =>
    simp only [hhistory] at hg
    split at hg
    · exact hg
    · cases hg

/-- A handler that is registered is listed, if it is with a history. -/
theorem Enlists.enrol (h : s.Enlists made cancelled) {owner : Owner} {registry : Registry}
    (hregistry : s.registry? owner = some registry) (handler : Handler) :
    (s.enrol owner handler).Enlists (⟨owner, registry.nextKey⟩ :: made) cancelled := by
  have hposts : (s.enrol owner handler).posts = s.posts := posts_withRegistry (s.addHandler handler) owner _
  have hnamed : ∀ entry ∈ (s.enrol owner handler).names.subscriptions, entry.2 ∈ ⟨owner, registry.nextKey⟩ :: made := by
    intro entry hm
    rw [Session.enrol, names_withRegistry] at hm
    exact List.mem_cons_of_mem _ (h.named entry hm)
  by_cases howner : ∃ k, owner = .history k
  · obtain ⟨k, rfl⟩ := howner
    have hrosters : (s.enrol (.history k) handler).rosters = s.rosters.modify k (fun g => g.add (.handler s.handlers.length)) :=
      rosters_withHistory (s.addHandler handler) k _
    have hroster := roster_of_registry hregistry
    refine ⟨?_, ?_, ?_, hnamed⟩
    · intro i g hg
      rw [hrosters] at hg
      rw [hposts]
      rcases getElem?_modify_cases hg with ⟨rfl, g', hg', rfl⟩ | ⟨hne, hg'⟩
      · obtain rfl := Option.some.inj (hroster.symm.trans hg')
        exact (h.lists i registry hg').enrol _
      · exact (h.lists i g hg').made_cons (fun heq => hne (Owner.history.inj heq).symm)
    · rw [hposts, hrosters, List.length_modify]
      exact h.posts
    · rw [hrosters, List.length_modify]
      intro subscription hm i howner
      rcases List.mem_cons.1 hm with rfl | hm
      · obtain rfl := Owner.history.inj howner
        exact (List.getElem?_eq_some_iff.1 hroster).1
      · exact h.owners subscription hm i howner
  · have hother : ∀ k, owner ≠ .history k := fun k heq => howner ⟨k, heq⟩
    have hrosters : (s.enrol owner handler).rosters = s.rosters := rosters_withRegistry hother (s.addHandler handler) _
    refine ⟨?_, ?_, ?_, hnamed⟩
    · rw [hrosters, hposts]
      exact fun i g hg => (h.lists i g hg).made_cons (hother i)
    · rw [hrosters, hposts]
      exact h.posts
    · rw [hrosters]
      intro subscription hm i howner
      rcases List.mem_cons.1 hm with rfl | hm
      · exact absurd howner (hother i)
      · exact h.owners subscription hm i howner

/-- A subscription that is cancelled is listed no more. -/
theorem Enlists.cancel (h : s.Enlists made cancelled) {subscription : Subscription} (hmade : subscription ∈ made) :
    (s.cancel subscription).Enlists made (subscription :: cancelled) := by
  have hposts : (s.cancel subscription).posts = s.posts := posts_withRegistry s subscription.owner _
  have hnamed : ∀ entry ∈ (s.cancel subscription).names.subscriptions, entry.2 ∈ made := by
    intro entry hm
    rw [Session.cancel, names_withRegistry] at hm
    exact h.named entry hm
  have howners : ∀ other ∈ made ++ subscription :: cancelled, ∀ k, other.owner = .history k → k < s.rosters.length := by
    intro other hm k howner
    rcases List.mem_append.1 hm with hm | hm
    · exact h.owners other (List.mem_append_left _ hm) k howner
    · rcases List.mem_cons.1 hm with rfl | hm
      · exact h.owners _ (List.mem_append_left _ hmade) k howner
      · exact h.owners other (List.mem_append_right _ hm) k howner
  by_cases howner : ∃ k, subscription.owner = .history k
  · obtain ⟨owner, key⟩ := subscription
    obtain ⟨k, rfl⟩ := howner
    have hrosters : (s.cancel ⟨.history k, key⟩).rosters = s.rosters.modify k (fun g => g.remove key) :=
      rosters_withHistory s k _
    refine ⟨?_, ?_, ?_, hnamed⟩
    · intro i g hg
      rw [hrosters] at hg
      rw [hposts]
      rcases getElem?_modify_cases hg with ⟨rfl, g', hg', rfl⟩ | ⟨hne, hg'⟩
      · exact (h.lists i g' hg').remove hmade
      · exact (h.lists i g hg').cancelled_cons (fun heq => hne (Owner.history.inj heq).symm)
    · rw [hposts, hrosters, List.length_modify]
      exact h.posts
    · rw [hrosters, List.length_modify]
      exact howners
  · have hother : ∀ k, subscription.owner ≠ .history k := fun k heq => howner ⟨k, heq⟩
    have hrosters : (s.cancel subscription).rosters = s.rosters := rosters_withRegistry hother s _
    refine ⟨?_, ?_, ?_, hnamed⟩
    · rw [hrosters, hposts]
      exact fun i g hg => (h.lists i g hg).cancelled_cons (hother i)
    · rw [hrosters, hposts]
      exact h.posts
    · rw [hrosters]
      exact howners

/-- A new history has an empty roster. -/
theorem Enlists.openHistory (h : s.Enlists made cancelled) (name : Text) (announces : Bool) (path : Text) :
    (s.openHistory name announces path).Enlists made cancelled := by
  have hrosters : (s.openHistory name announces path).rosters = s.rosters ++ [.empty] := List.map_append
  have hnamed : ∀ entry ∈ (s.openHistory name announces path).names.subscriptions, entry.2 ∈ made := by
    cases announces <;> exact h.named
  refine ⟨?_, ?_, ?_, hnamed⟩
  · intro i g hg
    rw [hrosters] at hg
    rcases getElem?_append_singleton_cases hg with hg | ⟨rfl, rfl⟩
    · exact h.lists i g hg
    · exact Registry.lists_empty (fun post hm => Nat.ne_of_lt (h.posts post hm))
        (fun subscription hm howner => absurd (h.owners subscription hm _ howner) (Nat.lt_irrefl _))
  · rw [hrosters, List.length_append]
    exact fun post hm => Nat.lt_add_right _ (h.posts post hm)
  · rw [hrosters, List.length_append]
    exact fun subscription hm k howner => Nat.lt_add_right _ (h.owners subscription hm k howner)

/-- What becomes active leaves routers where they are. -/
theorem posts_activate (s : Session) (r : Nat) (found : Option Match) : (s.activate r found).posts = s.posts :=
  map_routers_activate (fun _ _ _ _ => rfl) s r found

/-- What becomes active leaves the rosters as they are. -/
theorem rosters_activate (s : Session) (r : Nat) (found : Option Match) : (s.activate r found).rosters = s.rosters := by
  cases found <;> rfl

/-- A new router is posted to its history, and listed there. -/
theorem Enlists.openRouter (h : s.Enlists made cancelled) (name : Text) (k : Nat) (routes : List Route) :
    (s.openRouter name k routes).Enlists made cancelled := by
  cases hhistory : s.histories[k]? with
  | none =>
    simp only [Session.openRouter, hhistory]
    exact h
  | some history =>
    have hlt : k < s.rosters.length := by
      rw [rosters, List.length_map]
      exact (List.getElem?_eq_some_iff.1 hhistory).1
    obtain ⟨logs, journal, heq⟩ := openRouter_eq hhistory name routes
    let added : Session := (s.addRouter k routes).recordLogs logs
    let resolved : Session := added.activate s.routers.length (Route.resolve routes history.trail.current)
    let listening : Session := resolved.withRegistry (.history k) (fun g => g.add (.follow s.routers.length))
    have hposts : (s.openRouter name k routes).posts = s.posts ++ [(k, true)] := by
      have hadded : added.posts = s.posts ++ [(k, true)] := List.map_append
      have hlistening : listening.posts = added.posts := (posts_withRegistry _ _ _).trans (posts_activate _ _ _)
      rw [heq]
      exact hlistening.trans hadded
    have hrosters : (s.openRouter name k routes).rosters = s.rosters.modify k (fun g => g.add (.follow s.posts.length)) := by
      have hresolved : resolved.rosters = s.rosters := rosters_activate added _ _
      have hlistening : listening.rosters = s.rosters.modify k (fun g => g.add (.follow s.routers.length)) :=
        hresolved ▸ rosters_withHistory resolved k _
      rw [heq, Session.posts, List.length_map]
      exact hlistening
    have hnamed : ∀ entry ∈ (s.openRouter name k routes).names.subscriptions, entry.2 ∈ made := by
      rw [heq]
      exact h.named
    refine ⟨?_, ?_, ?_, hnamed⟩
    · intro i g hg
      rw [hrosters] at hg
      rw [hposts]
      rcases getElem?_modify_cases hg with ⟨rfl, g', hg', rfl⟩ | ⟨hne, hg'⟩
      · exact (h.lists i g' hg').follow
      · exact (h.lists i g hg').post (fun heq => hne heq.symm)
    · rw [hposts, hrosters, List.length_modify]
      intro post hm
      rcases List.mem_append.1 hm with hm | hm
      · exact h.posts post hm
      · rw [List.mem_singleton.1 hm]
        exact hlt
    · rw [hrosters, List.length_modify]
      exact h.owners

/-- A router that ends is listed no more. -/
theorem Enlists.sweep (h : s.Enlists made cancelled) : s.sweep.Enlists made cancelled := by
  have hlength : s.sweep.rosters.length = s.rosters.length := by
    rw [rosters, rosters, List.length_map, List.length_map]
    exact List.length_mapIdx
  have hposts : ∀ r, s.sweep.posts[r]? = s.posts[r]?.map (fun post => (post.1, post.2 && s.holdsRouter r)) := by
    intro r
    rw [Session.posts, Session.posts, List.getElem?_map, List.getElem?_map, getElem?_routers_sweep, Option.map_map,
      Option.map_map]
    rfl
  refine ⟨?_, ?_, ?_, h.named⟩
  · intro k g hg
    rw [rosters, List.getElem?_map, getElem?_histories_sweep, Option.map_map] at hg
    obtain ⟨history, hhistory, rfl⟩ := Option.map_eq_some_iff.1 hg
    refine (h.lists k history.listeners ?_).prune (fun r => ?_)
    · rw [rosters, List.getElem?_map, hhistory]
      rfl
    · rw [isAlive_sweep, hposts, Session.posts, List.getElem?_map]
      rw [isAlive]
      cases s.routers[r]? with
      | none => simp
      | some router => simp [Router.post, and_assoc]
  · rw [hlength]
    intro post hm
    obtain ⟨r, hr⟩ := List.mem_iff_getElem?.1 hm
    rw [hposts] at hr
    obtain ⟨old, hold, rfl⟩ := Option.map_eq_some_iff.1 hr
    exact h.posts old (List.mem_of_getElem? hold)
  · rw [hlength]
    exact h.owners

/-! ## Runs -/

/-- The subscription that a task makes. -/
def registeredBy? (s : Session) : Task → Option Subscription
  | .subscribe _ owner _ => ( s.registry? owner).map (fun g => ⟨owner, g.nextKey⟩)
  | _ => none

/-- The subscription that a task cancels: it takes its name away, or gives the name to a new subscription. -/
def cancelledBy? (s : Session) : Task → Option Subscription
  | .subscribe name owner _ => ( s.registry? owner).bind (fun _ => s.names.subscriptions.get? name)
  | .drop .subscription name => s.names.subscriptions.get? name
  | _ => none

/-- The subscription that the first task makes. -/
def registered? (s : Session) : Option Subscription := s.agenda.head?.bind s.registeredBy?

/-- The subscription that the first task cancels. -/
def cancelled? (s : Session) : Option Subscription := s.agenda.head?.bind s.cancelledBy?

/-- What a step registers is the subscription that it makes. -/
theorem registered?_eq_some_iff {subscription : Subscription} :
    s.registered? = some subscription ↔ ∃ callback, s.Subscribes callback subscription := by
  constructor
  · intro h
    obtain ⟨task, hfirst, hmade⟩ := Option.bind_eq_some_iff.1 h
    obtain ⟨rest, hagenda⟩ := List.head?_eq_some_iff.1 hfirst
    cases task with
    | subscribe name owner handler =>
      obtain ⟨registry, hregistry, rfl⟩ := Option.map_eq_some_iff.1 hmade
      exact ⟨_, name, owner, handler, rest, registry, hagenda, hregistry, rfl, rfl⟩
    | _ => cases hmade
  · rintro ⟨_, name, owner, handler, rest, registry, hfirst, hregistry, rfl, rfl⟩
    simp only [registered?, hfirst, List.head?_cons, Option.bind_some, registeredBy?, hregistry, Option.map_some]

/-- What a step cancels is the subscription that it takes the name from. -/
theorem cancelled?_eq_some_iff {subscription : Subscription} :
    s.cancelled? = some subscription ↔ s.Cancels subscription := by
  constructor
  · intro h
    obtain ⟨task, hfirst, hcancelled⟩ := Option.bind_eq_some_iff.1 h
    obtain ⟨rest, hagenda⟩ := List.head?_eq_some_iff.1 hfirst
    cases task with
    | subscribe name owner handler =>
      obtain ⟨registry, hregistry, hname⟩ := Option.bind_eq_some_iff.1 hcancelled
      exact Or.inr ⟨name, owner, handler, rest, registry, hagenda, hregistry, hname⟩
    | drop kind name =>
      cases kind with
      | subscription => exact Or.inl ⟨name, rest, hagenda, hcancelled⟩
      | _ => cases hcancelled
    | _ => cases hcancelled
  · rintro (⟨name, rest, hfirst, hname⟩ | ⟨name, owner, handler, rest, registry, hfirst, hregistry, hname⟩)
    · simp only [cancelled?, hfirst, List.head?_cons, Option.bind_some, cancelledBy?, hname]
    · simp only [cancelled?, hfirst, List.head?_cons, Option.bind_some, cancelledBy?, hregistry, hname]

/-- Names of subscriptions that were made may change. -/
theorem Enlists.rename (h : s.Enlists made cancelled) {names : Names}
    (hnames : ∀ entry ∈ names.subscriptions, entry.2 ∈ made) : Enlists { s with names := names } made cancelled where
  lists := h.lists
  posts := h.posts
  owners := h.owners
  named := hnames

/-- A new subscription is listed, and the previous one of the same name is listed no more. -/
theorem Enlists.subscribe (h : s.Enlists made cancelled) (name : Text) (owner : Owner) (handler : Handler) :
    (s.subscribe name owner handler).Enlists ((s.registeredBy? (.subscribe name owner handler)).toList ++ made)
      ((s.cancelledBy? (.subscribe name owner handler)).toList ++ cancelled) := by
  cases hregistry : s.registry? owner with
  | none =>
    simp only [Session.subscribe, registeredBy?, cancelledBy?, hregistry]
    exact h
  | some registry =>
    have henrolled := h.enrol hregistry handler
    let stored : Session := { s.enrol owner handler with names := { (s.enrol owner handler).names with
      subscriptions := (s.enrol owner handler).names.subscriptions.put name ⟨owner, registry.nextKey⟩ } }
    have hstored : stored.Enlists (⟨owner, registry.nextKey⟩ :: made) cancelled := by
      refine henrolled.rename (fun entry he => ?_)
      rcases Directory.mem_put he with he | rfl
      · exact henrolled.named entry he
      · exact List.mem_cons_self ..
    simp only [Session.subscribe, registeredBy?, cancelledBy?, hregistry]
    cases hprevious : s.names.subscriptions.get? name with
    | none => exact hstored
    | some previous => exact hstored.cancel (List.mem_cons_of_mem _ (h.named _ (Directory.mem_of_get? hprevious)))

/-- A subscription that is dropped is listed no more. -/
theorem Enlists.dropSubscription (h : s.Enlists made cancelled) (name : Text) :
    (s.dropSubscription name).Enlists made ((s.names.subscriptions.get? name).toList ++ cancelled) := by
  cases hname : s.names.subscriptions.get? name with
  | none =>
    simp only [Session.dropSubscription, hname]
    exact h
  | some subscription =>
    simp only [Session.dropSubscription, hname]
    have hforgotten : (s.forgetSubscription name).Enlists made cancelled :=
      h.rename (fun entry he => h.named entry (Directory.erase_subset _ _ he))
    exact hforgotten.cancel (h.named _ (Directory.mem_of_get? hname))

end Session

/-- The tasks that make histories or routers, and those that register and cancel. -/
def Task.isListing : Task → Bool
  | .openHistory _ _ _ => true
  | .openRouter _ _ _ => true
  | .subscribe _ _ _ => true
  | .drop .subscription _ => true
  | _ => false

namespace Session

variable {s t : Session} {us : List Session} {made cancelled : List Subscription}

/-- All other tasks leave the registries of histories as they are. -/
theorem rosters_perform (s : Session) {task : Task} (h : task.isListing = false) : (s.perform task).rosters = s.rosters := by
  have hsame : ∀ u : Session, u.histories = s.histories → u.rosters = s.rosters := fun u hu => by rw [rosters, rosters, hu]
  have hwalked : ∀ (k : Nat) (f : History → Trail), (s.withHistory k (fun g => { g with trail := f g })).rosters = s.rosters :=
    fun k f => map_modify_of_forall (f := fun g : History => { g with trail := f g }) (g := fun g : History => g.listeners)
      (fun _ => rfl) s.histories k
  cases houtward : task.isOutward with
  | false => exact hsame _ (staysHome_perform s houtward).histories
  | true =>
    cases task with
    | openOutlet name r handler =>
      change (s.openOutlet name r handler).rosters = s.rosters
      unfold openOutlet
      split
      · rfl
      · exact hsame _ (histories_dropOutlet _ name)
    | drop kind name =>
      cases kind with
      | outlet => exact hsame _ (histories_dropOutlet s name)
      | subscription => cases h
      | _ => rfl
    | push k path =>
      change (s.push k path).rosters = s.rosters
      unfold push
      split
      · rfl
      · simp only
        split <;> exact hwalked k _
    | move k onward =>
      change (s.move k onward).rosters = s.rosters
      unfold move
      split
      · rfl
      · exact hwalked k _
    | navigate r path => exact hsame _ (histories_navigate s r path)
    | resolve r path =>
      obtain ⟨_, _, _, _, heq⟩ := resolve_eq s r path
      rw [perform, heq]
      rfl
    | drain r => exact hsame _ (histories_drain s r)
    | openHistory | openRouter | subscribe => cases h
    | _ => cases houtward

/-- All other tasks leave the routers where they are. -/
theorem posts_perform (s : Session) {task : Task} (h : task.isListing = false) : (s.perform task).posts = s.posts := by
  cases hsteering : task.isSteering with
  | false => exact posts_of_desks (desks_perform s hsteering).1
  | true =>
    refine map_routers_perform (fun _ _ _ _ => rfl) s hsteering ?_
    rintro name k routes rfl
    cases h

/-- All other tasks give no name to a subscription. -/
theorem names_subscriptions_perform (s : Session) {task : Task} (h : task.isListing = false) :
    (s.perform task).names.subscriptions ⊆ s.names.subscriptions := by
  have hrenames := renames_perform s task
  generalize (s.perform task).names = names at hrenames ⊢
  cases hrenames with
  | subscribe => cases h
  | detach name => exact Directory.erase_subset _ _
  | dropSubscription name => exact Directory.erase_subset _ _
  | _ => exact List.Subset.refl _

/-- A task registers and cancels what it says, and leaves the lists right. -/
theorem Enlists.perform (h : s.Enlists made cancelled) (task : Task) : (s.perform task).Enlists
    ((s.registeredBy? task).toList ++ made) ((s.cancelledBy? task).toList ++ cancelled) := by
  cases hlisting : task.isListing with
  | false =>
    have hnone : s.registeredBy? task = none ∧ s.cancelledBy? task = none := by
      cases task with
      | subscribe => cases hlisting
      | drop kind name =>
        cases kind with
        | subscription => cases hlisting
        | _ => exact ⟨rfl, rfl⟩
      | _ => exact ⟨rfl, rfl⟩
    rw [hnone.1, hnone.2]
    exact h.congr (rosters_perform s hlisting) (posts_perform s hlisting) (names_subscriptions_perform s hlisting)
  | true =>
    cases task with
    | openHistory name announces path => exact h.openHistory name announces path
    | openRouter name k routes => exact h.openRouter name k routes
    | subscribe name owner handler => exact h.subscribe name owner handler
    | drop kind name =>
      cases kind with
      | subscription => exact h.dropSubscription name
      | _ => cases hlisting
    | _ => cases hlisting

theorem filterMap_cons {α β : Type} (f : α → Option β) (a : α) (l : List α) :
    (a :: l).filterMap f = (f a).toList ++ l.filterMap f := by
  rw [List.filterMap_cons]
  cases f a <;> rfl

/-- Along every run histories are listened to by their living routers and by the registrations that were not cancelled. -/
theorem OpenRun.enlists (h : OpenRun Session.empty us t) :
    t.Enlists (us.filterMap registered?) (us.filterMap cancelled?) := by
  induction h with
  | start => exact enlists_empty
  | @step us l t t' _ hstep ih =>
    cases hstep with
    | own hown =>
      obtain ⟨task, rest, hfirst, rfl⟩ := (step?_eq_some_iff t t').1 hown
      have hpopped : Enlists { t with agenda := rest } (us.filterMap registered?) (us.filterMap cancelled?) :=
        ih.congr rfl rfl (List.Subset.refl _)
      have hmade : t.registered? = registeredBy? { t with agenda := rest } task := by
        rw [registered?, hfirst, List.head?_cons, Option.bind_some]
        cases task with
        | subscribe name owner handler => cases owner <;> rfl
        | _ => rfl
      have hcancelled : t.cancelled? = cancelledBy? { t with agenda := rest } task := by
        rw [cancelled?, hfirst, List.head?_cons, Option.bind_some]
        cases task with
        | subscribe name owner handler => cases owner <;> rfl
        | drop kind name => cases kind <;> rfl
        | _ => rfl
      rw [List.singleton_append, filterMap_cons, filterMap_cons, hmade, hcancelled]
      exact (hpopped.perform task).sweep
    | told c hidle => exact ih.congr rfl rfl (List.Subset.refl _)
    | outside histories hvaries pool hpool tasks htasks =>
      exact ih.congr (listeners_of_varies hvaries) rfl (List.Subset.refl _)

/-- Along every run a history has as many listeners as there are living routers on it and registrations with it that were
not cancelled. -/
theorem OpenRun.size_listeners (h : OpenRun Session.empty us t) {k : Nat} {history : History}
    (hhistory : t.histories[k]? = some history) : history.listeners.size =
      t.routers.countP (fun router => router.post = (k, true)) +
        (us.filterMap registered?).countP (fun subscription =>
          subscription.owner = .history k ∧ subscription ∉ us.filterMap cancelled?) := by
  have hroster : t.rosters[k]? = some history.listeners := by
    rw [rosters, List.getElem?_map, hhistory]
    rfl
  rw [(h.enlists.lists k history.listeners hroster).size_eq, posts, List.countP_map]
  rfl

end Session

end PathRouting
