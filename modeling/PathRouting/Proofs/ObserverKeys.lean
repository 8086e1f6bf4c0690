import PathRouting.Proofs.DroppedOutlets
import PathRouting.Proofs.Listeners
import PathRouting.Proofs.LoadCalls

/-!
# Keys of observers

A router gives each of its observers a key, and none twice. Statements: outlets and subscriptions that observe a router have
keys that it gave; each step gives new keys only, so that what has a key of its own keeps it; and an observer goes only if
an outlet or a subscription with its key is dropped.
-/

namespace PathRouting

/-- The tasks that make routers and those that change who observes a router. -/
def Task.isObserving : Task → Bool
  | .openRouter _ _ _ => true
  | .openOutlet _ _ _ => true
  | .subscribe _ _ _ => true
  | .drop .outlet _ => true
  | .drop .subscription _ => true
  | _ => false

namespace Session

variable {s t u : Session} {us : List Session} {r key o : Nat} {name : Text} {callback : Callback}

/-- The observers of the routers. -/
def panels (s : Session) : List Registry := s.routers.map (·.observers)

/-- Where the outlets observe: their routers, and their keys there. -/
def stalls (s : Session) : List (Nat × Nat) := s.outlets.map (fun g => (g.router, g.observerKey))

/-- A change of the observers of a router is that change of its panel. -/
theorem panels_observe (s : Session) (r : Nat) (f : Registry → Registry) :
    (s.withRegistry (.router r) f).panels = s.panels.modify r f :=
  map_modify (f := fun g : Router => { g with observers := f g.observers }) (g := fun g : Router => g.observers)
    (fun _ => rfl) s.routers r

/-- What becomes active changes nothing about who observes. -/
theorem panels_activate (s : Session) (r : Nat) (found : Option Match) : (s.activate r found).panels = s.panels :=
  map_routers_activate (fun _ _ _ _ => rfl) s r found

/-- Routers that end keep their observers. -/
theorem panels_sweep (s : Session) : s.sweep.panels = s.panels := by
  refine List.ext_getElem? (fun r => ?_)
  rw [panels, List.getElem?_map, getElem?_routers_sweep, Option.map_map, panels, List.getElem?_map]
  rfl

/-- The registry of a router that lives is its panel. -/
theorem panel_of_registry {g : Registry} (h : s.registry? (.router r) = some g) : s.panels[r]? = some g := by
  unfold registry? at h
  dsimp only at h
  rw [panels, List.getElem?_map]
  cases hrouter : s.routers[r]? with
  | none =>
    rw [hrouter] at h
    cases h
  | some router =>
    simp only [hrouter] at h
    split at h
    · exact h
    · cases h

/-- All other tasks leave the observers of routers as they are. -/
theorem panels_perform (s : Session) {task : Task} (h : task.isObserving = false) : (s.perform task).panels = s.panels := by
  cases hsteering : task.isSteering with
  | true =>
    refine map_routers_perform (fun _ _ _ _ => rfl) s hsteering ?_
    rintro name k routes rfl
    cases h
  | false =>
    cases houtward : task.isOutward with
    | false => rw [panels, panels, (staysHome_perform s houtward).routers]
    | true =>
      cases task with
      | openHistory name announces path => cases announces <;> rfl
      | drop kind name => cases kind <;> first | rfl | cases h
      | push k path =>
        obtain ⟨_, _, heq⟩ := push_eq s k path
        rw [perform, heq]
        rfl
      | move k onward =>
        obtain ⟨_, _, _, heq⟩ := move_eq s k onward
        rw [perform, heq]
        rfl
      | openOutlet | subscribe => cases h
      | openRouter | navigate | resolve | drain => cases hsteering
      | _ => cases houtward

/-- Only new outlets change where outlets observe. -/
theorem stalls_perform (s : Session) {task : Task} (h : ∀ name r handler, task ≠ .openOutlet name r handler) :
    (s.perform task).stalls = s.stalls := by
  cases hpresenting : task.isPresenting with
  | false => rw [stalls, stalls, outlets_perform s hpresenting]
  | true =>
    cases task with
    | openOutlet name r handler => exact absurd rfl (h name r handler)
    | render o =>
      rcases outlets_render s o with heq | ⟨_, id, slot, _, _, heq⟩
      · rw [stalls, stalls, perform, heq]
      · rw [stalls, stalls, perform, heq]
        exact map_modify_of_forall (f := fun g : Outlet => { g with shown := some id, slot := slot }) (fun _ => rfl)
          s.outlets o
    | poll =>
      rcases outlets_poll s with heq | ⟨o, value, heq⟩
      · rw [stalls, stalls, perform, heq]
      · rw [stalls, stalls, perform, heq]
        exact map_modify_of_forall (f := fun g : Outlet => { g with slot := some value }) (fun _ => rfl) s.outlets o
    | _ => cases hpresenting

/-! ## Keys -/

/-- The router has given the key to an observer. -/
def IsGiven (s : Session) (r key : Nat) : Prop := ∃ panel, s.panels[r]? = some panel ∧ key < panel.nextKey

/-- The second session gives the key, and the first has not. -/
def IsIssued (s t : Session) (r key : Nat) : Prop := ¬s.IsGiven r key ∧ t.IsGiven r key

/-- Outlets and subscriptions of the second session observe with the keys that they had in the first, or with new ones. -/
structure Issues (s t : Session) : Prop where
  given : ∀ r key, s.IsGiven r key → t.IsGiven r key
  stalls : ∀ (o r key : Nat), t.stalls[o]? = some (r, key) → s.stalls[o]? = some (r, key) ∨ IsIssued s t r key
  subscriptions : ∀ entry ∈ t.names.subscriptions, entry ∈ s.names.subscriptions ∨
    ∀ r, entry.2.owner = .router r → IsIssued s t r entry.2.key

theorem Issues.refl (s : Session) : Issues s s := ⟨fun _ _ h => h, fun _ _ _ h => Or.inl h, fun _ h => Or.inl h⟩

theorem Issues.trans (h : Issues s t) (h' : Issues t u) : Issues s u := by
  have hfirst : ∀ {r key}, IsIssued s t r key → IsIssued s u r key := fun hnew => ⟨hnew.1, h'.given _ _ hnew.2⟩
  have hsecond : ∀ {r key}, IsIssued t u r key → IsIssued s u r key :=
    fun hnew => ⟨fun hgiven => hnew.1 (h.given _ _ hgiven), hnew.2⟩
  refine ⟨fun r key hgiven => h'.given r key (h.given r key hgiven), ?_, ?_⟩
  · intro o r key ho
    rcases h'.stalls o r key ho with ho | hnew
    · exact (h.stalls o r key ho).imp_right hfirst
    · exact Or.inr (hsecond hnew)
  · intro entry he
    rcases h'.subscriptions entry he with he | hnew
    · exact (h.subscriptions entry he).imp_right (fun hnew r howner => hfirst (hnew r howner))
    · exact Or.inr (fun r howner => hsecond (hnew r howner))

/-- Where observers and outlets are as before and subscriptions get no new names, no key is given. -/
theorem issues_of_eq (hpanels : t.panels = s.panels) (hstalls : t.stalls = s.stalls)
    (hnames : t.names.subscriptions ⊆ s.names.subscriptions) : Issues s t where
  given := by
    intro r key h
    rw [IsGiven, hpanels]
    exact h
  stalls := fun o r key ho => Or.inl (hstalls ▸ ho)
  subscriptions := fun entry he => Or.inl (hnames he)

/-- A key that was given stays given, if the next keys of panels do not decrease. -/
theorem isGiven_modify {panels : List Registry} {f : Registry → Registry} (hf : ∀ g : Registry, g.nextKey ≤ (f g).nextKey)
    {i : Nat} (h : ∃ panel, panels[r]? = some panel ∧ key < panel.nextKey) :
    ∃ panel, (panels.modify i f)[r]? = some panel ∧ key < panel.nextKey := by
  obtain ⟨panel, hpanel, hkey⟩ := h
  rw [List.getElem?_modify, hpanel]
  refine ⟨if i = r then f panel else panel, rfl, ?_⟩
  split
  · exact Nat.lt_of_lt_of_le hkey (hf panel)
  · exact hkey

/-- A registry whose next key does not decrease gives no key to an outlet or a subscription. -/
theorem issues_withRegistry {f : Registry → Registry} (hf : ∀ g : Registry, g.nextKey ≤ (f g).nextKey) (s : Session)
    (owner : Owner) : Issues s (s.withRegistry owner f) := by
  cases owner with
  | router r =>
    refine ⟨fun r' key h => ?_, fun _ _ _ ho => Or.inl ho, fun _ he => Or.inl he⟩
    rw [IsGiven, panels_observe]
    exact isGiven_modify hf h
  | _ => exact issues_of_eq rfl rfl (List.Subset.refl _)

/-- To cancel a subscription gives no key. -/
theorem issues_cancel (s : Session) (subscription : Subscription) : Issues s (s.cancel subscription) :=
  issues_withRegistry (f := fun g => g.remove subscription.key) (fun _ => Nat.le_refl _) s subscription.owner

/-- To register a handler takes a key, and gives it to no outlet or subscription yet. -/
theorem issues_enrol (s : Session) (owner : Owner) (handler : Handler) : Issues s (s.enrol owner handler) := by
  have hadded : Issues s (s.addHandler handler) := issues_of_eq rfl rfl (List.Subset.refl _)
  exact hadded.trans (issues_withRegistry (f := fun g => g.add (.handler s.handlers.length))
    (fun g => Nat.le_succ g.nextKey) (s.addHandler handler) owner)

/-- A handler that observes a router comes last in its panel. -/
theorem panels_enrol {registry : Registry} (hregistry : s.registry? (.router r) = some registry) (handler : Handler) :
    (s.enrol (.router r) handler).panels[r]? = some (registry.add (.handler s.handlers.length)) := by
  have hadded : (s.enrol (.router r) handler).panels = s.panels.modify r (fun g => g.add (.handler s.handlers.length)) :=
    panels_observe (s.addHandler handler) r _
  rw [hadded, List.getElem?_modify_eq, panel_of_registry hregistry]
  rfl

/-- What is registered with a router gets a new key. -/
theorem isIssued_enrol {registry : Registry} (hregistry : s.registry? (.router r) = some registry) (handler : Handler) :
    IsIssued s (s.enrol (.router r) handler) r registry.nextKey := by
  refine ⟨?_, _, panels_enrol hregistry handler, Nat.lt_succ_self _⟩
  rintro ⟨panel, hsame, hkey⟩
  rw [Option.some.inj ((panel_of_registry hregistry).symm.trans hsame)] at hkey
  exact Nat.lt_irrefl _ hkey

/-- To drop an outlet gives no key. -/
theorem issues_dropOutlet (s : Session) (name : Text) : Issues s (s.dropOutlet name) := by
  unfold dropOutlet
  split
  · exact Issues.refl s
  · have herased : Issues s { s with names := { s.names with outlets := s.names.outlets.erase name } } :=
      issues_of_eq rfl rfl (List.Subset.refl _)
    simp only
    split
    · exact herased
    · exact herased.trans (issues_cancel _ _)

/-- To drop a subscription gives no key. -/
theorem issues_dropSubscription (s : Session) (name : Text) : Issues s (s.dropSubscription name) := by
  unfold dropSubscription
  split
  · exact Issues.refl s
  · have hforgotten : Issues s (s.forgetSubscription name) := issues_of_eq rfl rfl (Directory.erase_subset _ _)
    exact hforgotten.trans (issues_cancel _ _)

/-- A subscription gets the key that is given for it. -/
theorem issues_subscribe (s : Session) (name : Text) (owner : Owner) (handler : Handler) :
    Issues s (s.subscribe name owner handler) := by
  cases hregistry : s.registry? owner with
  | none =>
    simp only [subscribe, hregistry]
    exact Issues.refl s
  | some registry =>
    let enrolled := s.enrol owner handler
    let stored : Session := { enrolled with names := { enrolled.names with
      subscriptions := enrolled.names.subscriptions.put name ⟨owner, registry.nextKey⟩ } }
    have henrolled := issues_enrol s owner handler
    have hstored : Issues s stored := by
      refine ⟨henrolled.given, henrolled.stalls, fun entry he => ?_⟩
      rcases Directory.mem_put he with he | rfl
      · exact henrolled.subscriptions entry he
      · refine Or.inr (fun r howner => ?_)
        cases howner
        exact isIssued_enrol hregistry handler
    simp only [subscribe, hregistry]
    split
    · exact hstored
    · exact hstored.trans (issues_cancel stored _)

/-- A new outlet observes its router with the key that it is made with. -/
theorem stalls_addOutlet (s : Session) (r key : Nat) (handler : Handler) :
    (s.addOutlet r key handler).stalls = s.stalls ++ [(r, key)] := List.map_append

/-- A new outlet gets the key that is given for it. -/
theorem issues_addOutlet {observers : Registry} (hregistry : s.registry? (.router r) = some observers) (handler : Handler) :
    Issues s (s.addOutlet r observers.nextKey handler) := by
  have henrolled := issues_enrol s (.router r) handler
  refine ⟨henrolled.given, fun o r' key ho => ?_, henrolled.subscriptions⟩
  rw [stalls_addOutlet] at ho
  rcases getElem?_append_singleton_cases ho with ho | ⟨-, hnew⟩
  · exact Or.inl ho
  · cases hnew
    exact Or.inr (isIssued_enrol hregistry handler)

/-- An outlet that is opened gets the key that is given for it, if its router lives. -/
theorem issues_openOutlet (s : Session) (name : Text) (r : Nat) (handler : Handler) :
    Issues s (s.openOutlet name r handler) := by
  cases hregistry : s.registry? (.router r) with
  | none =>
    simp only [openOutlet, hregistry]
    exact Issues.refl s
  | some observers =>
    have hfreed := (issues_addOutlet hregistry handler).trans (issues_dropOutlet _ name)
    rw [openOutlet_eq hregistry]
    exact hfreed.trans (issues_of_eq rfl rfl (List.Subset.refl _))

/-- A new router has no observers yet. -/
theorem panels_openRouter {k : Nat} {history : History} (hhistory : s.histories[k]? = some history) (name : Text)
    (routes : List Route) : (s.openRouter name k routes).panels = s.panels ++ [.empty] := by
  obtain ⟨logs, journal, heq⟩ := openRouter_eq hhistory name routes
  rw [heq]
  exact (panels_activate ((s.addRouter k routes).recordLogs logs) s.routers.length _).trans List.map_append

/-- To make a router gives no key to an observer. -/
theorem issues_openRouter (s : Session) (name : Text) (k : Nat) (routes : List Route) :
    Issues s (s.openRouter name k routes) := by
  cases hhistory : s.histories[k]? with
  | none =>
    simp only [openRouter, hhistory]
    exact Issues.refl s
  | some history =>
    have hother : ∀ name' r handler, Task.openRouter name k routes ≠ .openOutlet name' r handler := by simp
    have hstalls : (s.openRouter name k routes).stalls = s.stalls := stalls_perform s hother
    have hnames : (s.openRouter name k routes).names.subscriptions = s.names.subscriptions := by
      rcases openRouter_names s name k routes with hnames | hnames <;> rw [hnames]
    refine ⟨?_, fun _ _ _ ho => Or.inl (hstalls ▸ ho), fun _ he => Or.inl (hnames ▸ he)⟩
    rintro r key ⟨panel, hpanel, hkey⟩
    rw [IsGiven, panels_openRouter hhistory]
    exact ⟨panel, getElem?_append_of_some hpanel _, hkey⟩

/-- A task gives new keys only. -/
theorem issues_perform (s : Session) (task : Task) : Issues s (s.perform task) := by
  cases hobserving : task.isObserving with
  | false =>
    have hpanels := panels_perform s hobserving
    have hstalls : (s.perform task).stalls = s.stalls := by
      refine stalls_perform s ?_
      rintro name r handler rfl
      cases hobserving
    cases hlisting : task.isListing with
    | false => exact issues_of_eq hpanels hstalls (names_subscriptions_perform s hlisting)
    | true =>
      cases task with
      | openHistory name announces path =>
        refine issues_of_eq hpanels hstalls ?_
        cases announces <;> exact List.Subset.refl _
      | drop kind name =>
        cases kind with
        | subscription => cases hobserving
        | _ => cases hlisting
      | openRouter | subscribe => cases hobserving
      | _ => cases hlisting
  | true =>
    cases task with
    | openRouter name k routes => exact issues_openRouter s name k routes
    | openOutlet name r handler => exact issues_openOutlet s name r handler
    | subscribe name owner handler => exact issues_subscribe s name owner handler
    | drop kind name =>
      cases kind with
      | outlet => exact issues_dropOutlet s name
      | subscription => exact issues_dropSubscription s name
      | _ => cases hobserving
    | _ => cases hobserving

/-- Routers that end give no key. -/
theorem issues_sweep (s : Session) : Issues s s.sweep := issues_of_eq (panels_sweep s) rfl (List.Subset.refl _)

/-- Each step gives new keys only. -/
theorem OpenStep.issues {l : List Session} (hstep : OpenStep s l t) : Issues s t := by
  cases hstep with
  | own hown =>
    obtain ⟨task, rest, _, rfl⟩ := (step?_eq_some_iff s t).1 hown
    have htaken : Issues s { s with agenda := rest } := issues_of_eq rfl rfl (List.Subset.refl _)
    exact (htaken.trans (issues_perform _ task)).trans (issues_sweep _)
  | told c hidle => exact issues_of_eq rfl rfl (List.Subset.refl _)
  | outside histories hvaries pool hpool tasks htasks => exact issues_of_eq rfl rfl (List.Subset.refl _)

/-- Outlets and subscriptions observe with keys that their routers have given. -/
structure Numbered (s : Session) : Prop where
  stalls : ∀ (o r key : Nat), s.stalls[o]? = some (r, key) → s.IsGiven r key
  subscriptions : ∀ entry ∈ s.names.subscriptions, ∀ r, entry.2.owner = .router r → s.IsGiven r entry.2.key

/-- Outlets and subscriptions go on to have keys that were given. -/
theorem Numbered.issues (h : s.Numbered) (hissues : Issues s t) : t.Numbered where
  stalls := by
    intro o r key ho
    rcases hissues.stalls o r key ho with hold | hnew
    · exact hissues.given r key (h.stalls o r key hold)
    · exact hnew.2
  subscriptions := by
    intro entry he r howner
    rcases hissues.subscriptions entry he with hold | hnew
    · exact hissues.given r _ (h.subscriptions entry hold r howner)
    · exact (hnew r howner).2

/-- Along every run outlets and subscriptions observe with keys that were given. -/
theorem OpenRun.numbered (h : OpenRun Session.empty us t) : t.Numbered := by
  induction h with
  | start => exact ⟨fun _ _ _ h => (nomatch h), fun _ h => absurd h List.not_mem_nil⟩
  | step _ hstep ih => exact ih.issues hstep.issues

/-! ## Observing -/

/-- The callback observes the router with the key. -/
def Observes (s : Session) (r key : Nat) (callback : Callback) : Prop :=
  ∃ panel, s.panels[r]? = some panel ∧ (key, callback) ∈ panel.entries

/-- Where the panels are the same, so are the observers. -/
theorem Observes.congr (h : s.Observes r key callback) (hpanels : t.panels = s.panels) : t.Observes r key callback := by
  rw [Observes, hpanels]
  exact h

/-- An observer stays, if the change of its own panel keeps it. -/
theorem observes_modify {panels : List Registry} {f : Registry → Registry} {i : Nat}
    (hf : i = r → ∀ g : Registry, (key, callback) ∈ g.entries → (key, callback) ∈ (f g).entries)
    (h : ∃ panel, panels[r]? = some panel ∧ (key, callback) ∈ panel.entries) :
    ∃ panel, (panels.modify i f)[r]? = some panel ∧ (key, callback) ∈ panel.entries := by
  obtain ⟨panel, hpanel, hentry⟩ := h
  rw [List.getElem?_modify, hpanel]
  refine ⟨if i = r then f panel else panel, rfl, ?_⟩
  split
  · rename_i hi
    exact hf hi panel hentry
  · exact hentry

/-- An observer stays when a handler is registered. -/
theorem Observes.enrol (h : s.Observes r key callback) (owner : Owner) (handler : Handler) :
    (s.enrol owner handler).Observes r key callback := by
  cases owner with
  | router i =>
    have hadded : (s.enrol (.router i) handler).panels = s.panels.modify i (fun g => g.add (.handler s.handlers.length)) :=
      panels_observe (s.addHandler handler) i _
    rw [Observes, hadded]
    exact observes_modify (fun _ g hentry => List.mem_append_left _ hentry) h
  | _ => exact h

/-- An observer stays if the registration that is cancelled is another one. -/
theorem Observes.cancel (h : s.Observes r key callback) {subscription : Subscription}
    (hother : subscription ≠ ⟨.router r, key⟩) : (s.cancel subscription).Observes r key callback := by
  obtain ⟨owner, key'⟩ := subscription
  cases owner with
  | router i =>
    rw [Observes, Session.cancel, panels_observe]
    refine observes_modify (fun hi g hentry => List.mem_filter.2 ⟨hentry, ?_⟩) h
    rw [bne_iff_ne]
    rintro rfl
    exact hother (by rw [hi])
  | _ => exact h

/-- An observer stays when an outlet is dropped that does not observe with its key. -/
theorem Observes.dropOutlet (h : s.Observes r key callback)
    (hother : ∀ o, s.names.outlets.get? name = some o → s.stalls[o]? ≠ some (r, key)) :
    (s.dropOutlet name).Observes r key callback := by
  unfold Session.dropOutlet
  split
  · exact h
  · rename_i o hname
    have herased : Observes { s with names := { s.names with outlets := s.names.outlets.erase name } } r key callback := h
    simp only
    split
    · exact herased
    · rename_i outlet ho
      have hstall : s.stalls[o]? = some (outlet.router, outlet.observerKey) := by
        rw [stalls, List.getElem?_map]
        exact congrArg (Option.map _) ho
      refine herased.cancel (fun hsame => hother o hname ?_)
      obtain ⟨hrouter, hkey⟩ := Subscription.mk.inj hsame
      rw [hstall, Owner.router.inj hrouter, hkey]

/-- An observer stays when a subscription is made, unless it was the previous one of the same name. -/
theorem Observes.subscribe (h : s.Observes r key callback) {owner : Owner} {handler : Handler}
    (hother : ∀ subscription, s.names.subscriptions.get? name = some subscription → subscription ≠ ⟨.router r, key⟩) :
    (s.subscribe name owner handler).Observes r key callback := by
  cases hregistry : s.registry? owner with
  | none =>
    simp only [Session.subscribe, hregistry]
    exact h
  | some registry =>
    let enrolled := s.enrol owner handler
    let stored : Session := { enrolled with names := { enrolled.names with
      subscriptions := enrolled.names.subscriptions.put name ⟨owner, registry.nextKey⟩ } }
    have hstored : stored.Observes r key callback := h.enrol owner handler
    simp only [Session.subscribe, hregistry]
    split
    · exact hstored
    · rename_i previous hprevious
      exact hstored.cancel (hother previous hprevious)

/-- An observer stays when a subscription is dropped that has another key. -/
theorem Observes.dropSubscription (h : s.Observes r key callback)
    (hother : ∀ subscription, s.names.subscriptions.get? name = some subscription → subscription ≠ ⟨.router r, key⟩) :
    (s.dropSubscription name).Observes r key callback := by
  unfold Session.dropSubscription
  split
  · exact h
  · rename_i subscription hname
    have hforgotten : (s.forgetSubscription name).Observes r key callback := h
    exact hforgotten.cancel (hother subscription hname)

/-- An observer stays when an outlet is opened, unless it was that of the previous outlet of the same name. -/
theorem Observes.openOutlet (h : s.Observes r key callback) (hgiven : s.IsGiven r key) {r' : Nat} {handler : Handler}
    (hother : ∀ o observers, s.registry? (.router r') = some observers → s.names.outlets.get? name = some o →
      s.stalls[o]? ≠ some (r, key)) : (s.openOutlet name r' handler).Observes r key callback := by
  cases hregistry : s.registry? (.router r') with
  | none =>
    simp only [Session.openOutlet, hregistry]
    exact h
  | some observers =>
    have hadded : (s.addOutlet r' observers.nextKey handler).Observes r key callback := h.enrol (.router r') handler
    have hdropped : ((s.addOutlet r' observers.nextKey handler).dropOutlet name).Observes r key callback := by
      refine hadded.dropOutlet (fun o hname hstall => ?_)
      rw [stalls_addOutlet] at hstall
      rcases getElem?_append_singleton_cases hstall with hold | ⟨-, hnew⟩
      · exact hother o observers hregistry hname hold
      · cases hnew
        exact (isIssued_enrol hregistry handler).1 hgiven
    rw [openOutlet_eq hregistry]
    exact hdropped

/-- An outlet has a name, and observes a router with a key that is its own. -/
structure Watches (s : Session) (name : Text) (o r key : Nat) (callback : Callback) : Prop where
  named : s.names.outlets.get? name = some o
  observes : s.Observes r key callback
  given : s.IsGiven r key
  stalls : ∀ o', s.stalls[o']? = some (r, key) → o' = o
  subscriptions : ∀ entry ∈ s.names.subscriptions, entry.2 ≠ ⟨.router r, key⟩

theorem Watches.congr (h : s.Watches name o r key callback) (hpanels : t.panels = s.panels) (hstalls : t.stalls = s.stalls)
    (hnames : t.names = s.names) : t.Watches name o r key callback where
  named := hnames ▸ h.named
  observes := h.observes.congr hpanels
  given := by
    rw [IsGiven, hpanels]
    exact h.given
  stalls := hstalls ▸ h.stalls
  subscriptions := hnames ▸ h.subscriptions

/-- To drop an outlet takes no name from another one. -/
theorem get?_names_dropOutlet (hnamed : s.names.outlets.get? name = some o) {other : Text}
    (hother : s.names.outlets.get? other ≠ some o) : (s.dropOutlet other).names.outlets.get? name = some o := by
  rcases names_dropOutlet s other with hnames | hnames
  · rw [hnames]
    exact hnamed
  · have hne : name ≠ other := by
      rintro rfl
      exact hother hnamed
    rw [hnames]
    exact (Directory.get?_erase _ hne).trans hnamed

/-- The name of an outlet stands for it until the outlet is dropped. -/
theorem named_step (hnamed : s.names.outlets.get? name = some o) (hnot : ¬s.DropsOutlet o) (hstep : s.step? = some t) :
    t.names.outlets.get? name = some o := by
  obtain ⟨task, rest, hfirst, rfl⟩ := (step?_eq_some_iff s t).1 hstep
  let popped : Session := { s with agenda := rest }
  change (popped.perform task).names.outlets.get? name = some o
  have hsame : (popped.perform task).names.outlets = s.names.outlets →
      (popped.perform task).names.outlets.get? name = some o := fun heq => heq ▸ hnamed
  cases hnaming : task.isNaming with
  | false => exact hsame (by rw [names_perform popped hnaming])
  | true =>
    cases task with
    | openHistory name' announces path => exact hsame (by cases announces <;> rfl)
    | openRouter name' k routes =>
      refine hsame ?_
      rcases openRouter_names popped name' k routes with hnames | hnames <;> rw [perform, hnames]
    | subscribe name' owner handler =>
      obtain ⟨_, hnames⟩ := subscribe_names popped name' owner handler
      exact hsame (by rw [perform, hnames])
    | drop kind other =>
      cases kind with
      | outlet =>
        refine get?_names_dropOutlet (s := popped) hnamed (fun hname => hnot ?_)
        exact Or.inl ⟨other, rest, hfirst, hname⟩
      | subscription =>
        rcases dropSubscription_names popped other with hnames | hnames <;> exact hsame (by rw [perform, drop, hnames])
      | _ => exact hsame rfl
    | openOutlet other r handler =>
      cases hregistry : popped.registry? (.router r) with
      | none => exact hsame (by simp only [perform, openOutlet, hregistry]; rfl)
      | some observers =>
        have hother : popped.names.outlets.get? other ≠ some o := fun hname =>
          hnot (Or.inr ⟨other, r, handler, rest, observers, hfirst, hregistry, hname⟩)
        have hne : name ≠ other := by
          rintro rfl
          exact hother hnamed
        rw [perform, openOutlet_eq hregistry]
        exact (Directory.get?_put _ hne _).trans
          (get?_names_dropOutlet (s := popped.addOutlet r observers.nextKey handler) hnamed hother)
    | _ => first | exact hsame rfl | cases hnaming

/-- An outlet observes its router until it is dropped. -/
theorem Watches.observes_step (h : s.Watches name o r key callback) (hnot : ¬s.DropsOutlet o) (hstep : s.step? = some t) :
    t.Observes r key callback := by
  obtain ⟨task, rest, hfirst, rfl⟩ := (step?_eq_some_iff s t).1 hstep
  let popped : Session := { s with agenda := rest }
  have hpopped : popped.Observes r key callback := h.observes
  have hcancelled : ∀ name' subscription, popped.names.subscriptions.get? name' = some subscription →
      subscription ≠ ⟨.router r, key⟩ := fun _ _ hname => h.subscriptions _ (Directory.mem_of_get? hname)
  refine Observes.congr (s := popped.perform task) ?_ (panels_sweep _)
  cases hobserving : task.isObserving with
  | false => exact hpopped.congr (panels_perform popped hobserving)
  | true =>
    cases task with
    | openRouter name' k routes =>
      change (popped.openRouter name' k routes).Observes r key callback
      cases hhistory : popped.histories[k]? with
      | none =>
        simp only [openRouter, hhistory]
        exact hpopped
      | some history =>
        obtain ⟨panel, hpanel, hentry⟩ := hpopped
        rw [Observes, panels_openRouter hhistory]
        exact ⟨panel, getElem?_append_of_some hpanel _, hentry⟩
    | openOutlet other r' handler =>
      refine hpopped.openOutlet h.given (fun o' observers hregistry hname hstall => ?_)
      obtain rfl := h.stalls o' hstall
      exact hnot (Or.inr ⟨other, r', handler, rest, observers, hfirst, hregistry, hname⟩)
    | subscribe name' owner handler => exact hpopped.subscribe (hcancelled name')
    | drop kind other =>
      cases kind with
      | outlet =>
        refine hpopped.dropOutlet (fun o' hname hstall => ?_)
        obtain rfl := h.stalls o' hstall
        exact hnot (Or.inl ⟨other, rest, hfirst, hname⟩)
      | subscription => exact hpopped.dropSubscription (hcancelled other)
      | _ => cases hobserving
    | _ => cases hobserving

/-- An outlet goes on to observe its router until it is dropped. -/
theorem Watches.step (h : s.Watches name o r key callback) (hnot : ¬s.DropsOutlet o) (hstep : s.step? = some t) :
    t.Watches name o r key callback := by
  have hissues := (OpenStep.own hstep).issues
  refine ⟨named_step h.named hnot hstep, h.observes_step hnot hstep, hissues.given r key h.given, ?_, ?_⟩
  · intro o' ho'
    rcases hissues.stalls o' r key ho' with hold | hnew
    · exact h.stalls o' hold
    · exact absurd h.given hnew.1
  · rintro entry he hsame
    rcases hissues.subscriptions entry he with hold | hnew
    · exact h.subscriptions entry hold hsame
    · rw [hsame] at hnew
      exact (hnew r rfl).1 h.given

/-- Along every run an outlet goes on observing, as long as it is not dropped. -/
theorem OpenRun.watches (h : OpenRun s us t) (hs : s.Watches name o r key callback) (hnot : ∀ u ∈ us, ¬u.DropsOutlet o) :
    t.Watches name o r key callback := by
  induction h with
  | start => exact hs
  | @step us l t t' _ hstep ih =>
    have ht := ih (fun u hu => hnot u (List.mem_append_right l hu))
    cases hstep with
    | own hown => exact ht.step (hnot t (List.mem_cons_self ..)) hown
    | told c hidle => exact ht.congr rfl rfl rfl
    | outside histories hvaries pool hpool tasks htasks => exact ht.congr rfl rfl rfl

/-! ## New outlets -/

/-- The first task makes an outlet. -/
def OpensOutlet (s : Session) (o : Nat) : Prop := ∃ name r handler rest observers,
  s.agenda = .openOutlet name r handler :: rest ∧ s.registry? (.router r) = some observers ∧ o = s.outlets.length

/-- A new outlet observes its router. -/
theorem OpensOutlet.exists_watches (h : s.OpensOutlet o) (hs : Settled us s) (hnumbered : s.Numbered)
    (hstep : s.step? = some t) : ∃ name outlet, t.outlets[o]? = some outlet ∧ outlet.handler = s.handlers.length ∧
      t.Watches name o outlet.router outlet.observerKey (.handler outlet.handler) := by
  obtain ⟨name, r, handler, rest, observers, hfirst, hregistry, rfl⟩ := h
  obtain rfl := eq_of_step? hfirst hstep
  let popped : Session := { s with agenda := rest }
  let made : Session := popped.addOutlet r observers.nextKey handler
  have hregistry' : popped.registry? (.router r) = some observers := hregistry
  obtain ⟨hnew, hgiven⟩ := isIssued_enrol hregistry' handler
  have hmade : made.stalls = s.stalls ++ [(r, observers.nextKey)] := stalls_addOutlet popped r observers.nextKey handler
  have hstalls : ∀ o, made.stalls[o]? = some (r, observers.nextKey) → o = s.outlets.length := by
    intro o ho
    rw [hmade] at ho
    rcases getElem?_append_singleton_cases ho with hold | ⟨hlast, -⟩
    · exact absurd (hnumbered.stalls o r _ hold) hnew
    · rw [hlast, stalls, List.length_map]
  have hobserves : made.Observes r observers.nextKey (.handler s.handlers.length) :=
    ⟨_, panels_enrol hregistry' handler, List.mem_append_right _ (List.mem_singleton_self _)⟩
  have hunnamed : ∀ o, s.names.outlets.get? name = some o → made.stalls[o]? ≠ some (r, observers.nextKey) := by
    intro o hname hstall
    obtain ⟨outlet, ho, _⟩ := hs.named _ (Directory.mem_of_get? hname)
    rw [hstalls o hstall, List.getElem?_eq_none (Nat.le_refl _)] at ho
    cases ho
  have heq := openOutlet_eq hregistry' name handler
  have houtlets : (popped.openOutlet name r handler).outlets =
      s.outlets ++ [⟨r, observers.nextKey, none, none, s.handlers.length⟩] := by
    rw [heq]
    exact (keeps_dropOutlet made name).outlets
  refine ⟨name, ⟨r, observers.nextKey, none, none, s.handlers.length⟩, ?_, rfl, ?_⟩
  · change (popped.openOutlet name r handler).outlets[s.outlets.length]? = _
    rw [houtlets, List.getElem?_concat_length]
  · refine Watches.congr (s := popped.openOutlet name r handler) ?_ (panels_sweep _) rfl rfl
    refine ⟨?_, ?_, ?_, ?_, ?_⟩
    · rw [heq]
      exact Directory.get?_put_self _ _ _
    · rw [heq]
      exact hobserves.dropOutlet hunnamed
    · rw [heq]
      exact (issues_dropOutlet made name).given _ _ hgiven
    · intro o ho
      rw [stalls, houtlets, List.map_append] at ho
      exact hstalls o (hmade ▸ ho)
    · intro entry he hsame
      have hunlisted : (Task.openOutlet name r handler).isListing = false := rfl
      have hold := names_subscriptions_perform popped hunlisted he
      have hkey := hnumbered.subscriptions entry hold r (congrArg Subscription.owner hsame)
      rw [hsame] at hkey
      exact hnew hkey

end Session

end PathRouting
