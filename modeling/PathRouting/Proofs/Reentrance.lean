import PathRouting.Proofs.Agreement

/-!
# Re-entrance

Observers that are told of a resolution may navigate their router again, and may move the history. Statements: the
navigations are done one after the other, whatever happens meanwhile; a router that is alone with its history agrees with
it whenever nothing is left, if observers do not move the history; and if they do, the two disagree exactly where the
history moved between the two halves of the last navigation.
-/

namespace PathRouting

namespace Session

variable {s s' t : Session} {us us₀ : List Session} {r h : Nat}

/-! ## A router and its history -/

/-- The router lives and is in no navigation, and it is the only listener of its history, which lives and announces no
entries. -/
structure IsAlone (s : Session) (r h : Nat) : Prop where
  alive : s.isAlive r = true
  router : ∃ router, s.routers[r]? = some router ∧ router.history = h ∧ router.navigating = false
  sole : ∃ key history, IsSole s r h key history

/-- The session with a router over a history that shows nothing yet. -/
def addRouter (s : Session) (h : Nat) (routes : List Route) : Session :=
  { s with routers := s.routers ++ [⟨routes, h, none, .empty, false, [], true⟩] }

/-- A new router comes last, with nothing active and an empty queue. -/
theorem getElem?_routers_addRouter (s : Session) (h : Nat) (routes : List Route) :
    (s.addRouter h routes).routers[s.routers.length]? = some ⟨routes, h, none, .empty, false, [], true⟩ := by
  rw [addRouter, List.getElem?_append_right (Nat.le_refl _), Nat.sub_self]
  rfl

variable {name : Text} {routes : List Route} {history : History}

/-- A router is made by adding it, resolving the path of the history on it, listening, and naming it. -/
theorem openRouter_eq (hhistory : s.histories[h]? = some history) (name : Text) (routes : List Route) :
    ∃ (logs : List LogEvent) (journal : List Event), s.openRouter name h routes =
      { (((s.addRouter h routes).recordLogs logs).activate s.routers.length
          (Route.resolve routes history.trail.current)).withRegistry (.history h)
          (fun g => g.add (.follow s.routers.length)) with
        names := { s.names with routers := s.names.routers.put name s.routers.length }, journal := journal } := by
  simp only [openRouter, hhistory]
  cases Route.resolve routes history.trail.current <;> exact ⟨_, _, rfl⟩

/-- A router that was made lives, is in no navigation, and shows what the path of the history resolves to. -/
theorem shows_openRouter (hhistory : s.histories[h]? = some history) :
    (s.openRouter name h routes).course? s.routers.length = some ⟨routes, h, false, []⟩ ∧
      (s.openRouter name h routes).isAlive s.routers.length = true ∧
      (s.openRouter name h routes).active? s.routers.length = Route.resolve routes history.trail.current := by
  obtain ⟨logs, journal, heq⟩ := openRouter_eq hhistory name routes
  rw [heq]
  let added : Session := (s.addRouter h routes).recordLogs logs
  have hadded : added.routers[s.routers.length]? = _ := getElem?_routers_addRouter s h routes
  refine ⟨?_, ?_, ?_⟩
  · refine (course?_activate added s.routers.length s.routers.length _).trans ?_
    rw [course?, hadded]
    rfl
  · refine (isAlive_activate added s.routers.length s.routers.length _).trans ?_
    rw [isAlive, hadded]
  · exact active?_activate added hadded _

/-- A router that was made is held by its name. -/
theorem holdsRouter_openRouter (hhistory : s.histories[h]? = some history) :
    (s.openRouter name h routes).holdsRouter s.routers.length = true := by
  obtain ⟨logs, journal, heq⟩ := openRouter_eq hhistory name routes
  rw [heq]
  have hname : (s.names.routers.put name s.routers.length).holds (· == s.routers.length) = true := by
    simp [Directory.holds, Directory.put]
  simp only [holdsRouter, hname, Bool.true_or]

/-- A router that was made listens to its history. -/
theorem isSole_openRouter (hhistory : s.histories[h]? = some history) (halive : history.alive = true)
    (hannounces : history.announces = false) (hlisteners : history.listeners.entries = []) :
    IsSole (s.openRouter name h routes) s.routers.length h history.listeners.nextKey
      { history with listeners := history.listeners.add (.follow s.routers.length) } := by
  obtain ⟨logs, journal, heq⟩ := openRouter_eq hhistory name routes
  rw [heq]
  refine ⟨?_, hannounces, halive, ?_⟩
  · let added : Session := (s.addRouter h routes).recordLogs logs
    have hsame : (added.activate s.routers.length (Route.resolve routes history.trail.current)).histories = s.histories := by
      cases Route.resolve routes history.trail.current <;> rfl
    change ((added.activate s.routers.length _).histories.modify h _)[h]? = _
    rw [hsame, List.getElem?_modify_eq, hhistory]
    rfl
  · rw [Registry.add, hlisteners]
    rfl

/-- A router that is made over a history without listeners is alone with it and agrees with it. -/
theorem isAlone_of_openRouter {rest : List Task} (hagenda : s.agenda = .openRouter name h routes :: rest)
    (hhistory : s.histories[h]? = some history) (halive : history.alive = true)
    (hannounces : history.announces = false) (hlisteners : history.listeners.entries = []) :
    ∃ t, s.step? = some t ∧ IsAlone t s.routers.length h ∧ Agrees t s.routers.length h := by
  let opened : Session := ({ s with agenda := rest } : Session).openRouter name h routes
  have hpopped : ({ s with agenda := rest } : Session).histories[h]? = some history := hhistory
  have hstep : s.step? = some opened.sweep := (step?_eq_some_iff s _).2 ⟨_, rest, hagenda, rfl⟩
  obtain ⟨hcourse, hlives, hshows⟩ : opened.course? s.routers.length = _ ∧ opened.isAlive s.routers.length = true ∧
    opened.active? s.routers.length = _ := shows_openRouter hpopped
  have hheld : opened.holdsRouter s.routers.length = true := holdsRouter_openRouter hpopped
  have hsole : IsSole opened s.routers.length h _ _ := isSole_openRouter hpopped halive hannounces hlisteners
  obtain ⟨router, hrouter, hrouterCourse⟩ := Option.map_eq_some_iff.1 hcourse
  have hroutes : router.routes = routes := congrArg Course.routes hrouterCourse
  have hplace : router.history = h := congrArg Course.history hrouterCourse
  have hsweeps : opened.sweep.isAlive s.routers.length = true := by rw [isAlive_sweep, hlives, hheld, Bool.and_self]
  have hsole' := hsole.sweep hsweeps hrouter hplace
  have hswept : opened.sweep.routers[s.routers.length]? =
      some { router with alive := router.alive && opened.holdsRouter s.routers.length } := by
    rw [getElem?_routers_sweep, hrouter]
    rfl
  refine ⟨_, hstep, ⟨hsweeps, ⟨_, hswept, hplace, congrArg Course.navigating hrouterCourse⟩, _, _, hsole'⟩, _, _, hswept,
    hsole'.found, ?_⟩
  rw [active?_sweep, hroutes]
  exact hshows

/-! ## Runs of the two -/

/-- Along a run of a router that is alone with its history and agrees with it, the two agree again if the path that was
resolved last and the one of the entry resolve to the same. No navigation is on its way. -/
theorem settled_of_observedRun {moves : Bool} (hrun : OpenRun Session.empty us₀ s) (halone : IsAlone s r h)
    (hagrees : Agrees s r h) (hspares : ∀ task ∈ s.agenda, task.Spares r h true)
    (hobserved : ObservedRun r h moves s us t) (hidle : t.agenda = []) (halive : t.isAlive r = true) :
    ∃ router start, t.routers[r]? = some router ∧ Watch.IsSettled moves (changes r h us) ∧
      (Agrees t r h ↔ Route.resolve router.routes (Change.shownPath start (changes r h us)) =
        Route.resolve router.routes (Change.entryPath start (changes r h us))) := by
  obtain ⟨_, ⟨router, hrouter, rfl, hnavigating⟩, key, history, hsole⟩ := halone
  obtain ⟨router', history', hrouter', hhistory', hshows⟩ := hagrees
  obtain rfl := Option.some.inj (hrouter.symm.trans hrouter')
  obtain rfl := Option.some.inj (hsole.found.symm.trans hhistory')
  let w : Watch := ⟨r, router.history, key, router.routes, history.trail.current⟩
  have hcourse : s.course? r = some router.course := by
    rw [course?, hrouter]
    rfl
  have hqueue : router.queue = [] := (hrun.isOrderly r _ hcourse).2 hnavigating
  have hstands : w.Stands false [] [] s := by
    refine ⟨?_, history, hsole, rfl⟩
    rw [hcourse, Router.course, hnavigating, hqueue]
  have hstart : w.Phase moves [] s := by
    refine Watch.Phase.calm ⟨[], s.agenda, [], ?_, hstands, Watch.Follows.shows hshows, hspares, fun _ => rfl⟩
      Watch.IsSettled.start
    rw [List.nil_append, List.append_nil]
  obtain ⟨_, hphase⟩ := Watch.phase_of_observedRun hrun hstart ⟨_, hcourse⟩ hobserved
  obtain ⟨hends, hshown, hsettled⟩ := (hphase halive).of_idle hidle
  obtain ⟨last, hlast, hlastCourse⟩ := Option.map_eq_some_iff.1 hends.course
  have hroutes : last.routes = router.routes := congrArg Course.routes hlastCourse
  refine ⟨last, history.trail.current, hlast, hsettled, ?_⟩
  rw [hroutes]
  exact hends.agrees_iff.trans (by rw [hshown])

/-! ## Navigations inside navigations -/

/-- Re-entrant navigations, in three parts, along any run.
1. Whatever callbacks, histories and executors do meanwhile: a navigation of a router that is in none, if it returns, first
   resolves and adds its path, and then resolves and adds, one after the other, the paths that the router was asked to
   navigate to meanwhile, in the order in which it was asked, each once. It leaves nothing queued.
2. A router that is made over a history without listeners that announces no entries is alone with it and agrees with it.
3. If the two are alone and agree, and observers ask for navigations of the router and for subscriptions but do not move the
   history, then the two agree whenever nothing is left to do, whatever comes from outside: navigations of the router and
   moves of the history. -/
theorem reentrant_navigations (hrun : OpenRun Session.empty us₀ s) :
    (∀ (r : Nat) (path : Text) (rest : List Task) (router : Router) (s' t : Session) (us : List Session),
      s.agenda = .navigate r path :: rest → s.routers[r]? = some router → router.navigating = false →
      s.step? = some s' → CallRun rest s' us t → t.agenda = rest →
        acts r router.history (us ++ [s]) = (path :: requests r us).flatMap deeds ∧
          ∃ last, t.routers[r]? = some last ∧ last.history = router.history ∧ last.navigating = false ∧
            last.queue = []) ∧
    (∀ (name : Text) (h : Nat) (routes : List Route) (rest : List Task) (history : History),
      s.agenda = .openRouter name h routes :: rest → s.histories[h]? = some history → history.alive = true →
      history.announces = false → history.listeners.entries = [] →
        ∃ t, s.step? = some t ∧ IsAlone t s.routers.length h ∧ Agrees t s.routers.length h) ∧
    (∀ (r h : Nat) (t : Session) (us : List Session),
      IsAlone s r h → Agrees s r h → (∀ task ∈ s.agenda, task.Spares r h true) →
      ObservedRun r h false s us t → t.agenda = [] → t.isAlive r = true → Agrees t r h) := by
  refine ⟨?_, ?_, ?_⟩
  · intro r path rest router s' t us hnavigate hrouter hidle hstep hcall hreturn
    obtain ⟨_, hacts, routes, hcourse⟩ := isOver_of_navigate hrun hnavigate hrouter hidle hstep hcall hreturn
    have hfirst : requests r (us ++ [s]) = path :: requests r us := by
      simp [requests, hnavigate, request?]
    obtain ⟨last, hlast, hlastCourse⟩ := Option.map_eq_some_iff.1 hcourse
    rw [hfirst] at hacts
    exact ⟨hacts, last, hlast, congrArg Course.history hlastCourse, congrArg Course.navigating hlastCourse,
      congrArg Course.queue hlastCourse⟩
  · intro name h routes rest history hagenda hhistory halive hannounces hlisteners
    exact isAlone_of_openRouter hagenda hhistory halive hannounces hlisteners
  · intro r h t us halone hagrees hspares hobserved hidle halive
    obtain ⟨router, start, _, hsettled, hiff⟩ :=
      settled_of_observedRun hrun halone hagrees hspares hobserved hidle halive
    exact hiff.2 (by rw [hsettled.shownPath_eq start])

/-- A field that is given as a text. -/
def given (text : String) : Field Text := .given (Text.ofString text)

/-- A history `h` that starts at `/`. -/
def historyAtRoot : Session := empty.doStep 9 (.mk none (.newMemory (given "h") .absent .absent))

/-- The routes `/`, `/a` and `/b`, as they are compiled. -/
def threeRoutes : List Route := ["/", "/a", "/b"].map (fun text => ⟨.literal (Text.ofString text), none⟩)

/-- A router `r` with these routes over the history. -/
def makeRouter : Command :=
  let specs : List RouteSpec :=
    ["/", "/a", "/b"].map (fun text => ⟨.ok (some (.pattern (Text.ofString text))), .absent⟩)
  .mk none (.newRouter (given "r") (given "h") (.given specs))

/-- The router is about to be made. -/
def routerAsked : Session := finishTasks 2 (historyAtRoot.begin makeRouter)

/-- A navigation of the router. -/
def navigateTo (path : String) : Command := .mk none (.navigate (given "r") (given path))

/-- The router is at `/a`, and an observer `o` will carry out a command when it is told of a resolution. -/
def routerObserved (c : Command) : Session :=
  ((finishTasks 9 routerAsked).doStep 20 (navigateTo "/a")).doStep 9
    (.mk none (.subscribe (given "o") (given "r") (.mk (.given [c]) .absent .absent)))

/-- The router of the example is asked for in a run. -/
theorem exists_openRun_routerAsked : ∃ us, OpenRun empty us routerAsked := by
  have hhistory : ∃ us, OpenRun empty us historyAtRoot := exists_openRun_doStep ⟨[], OpenRun.start⟩ rfl 9 _
  obtain ⟨us, hus⟩ := hhistory
  exact ⟨_, (hus.step (OpenStep.told makeRouter rfl)).goOn 2⟩

/-- The router of the example is observed in a run, whatever the observer does. -/
theorem exists_openRun_routerObserved (c : Command) : ∃ us, OpenRun empty us (routerObserved c) := by
  obtain ⟨us, hus⟩ := exists_openRun_routerAsked
  refine exists_openRun_doStep ?_ rfl 9 _
  exact exists_openRun_doStep ⟨_, hus.goOn 9⟩ rfl 20 _

/-- The router of the example is the only one that listens, and agrees with its history. -/
theorem isAlone_routerObserved (c : Command) : IsAlone (routerObserved c) 0 0 ∧ Agrees (routerObserved c) 0 0 :=
  ⟨⟨rfl, ⟨_, rfl, rfl, rfl⟩, 0, _, rfl, rfl, rfl, rfl⟩, _, _, rfl, rfl, rfl⟩

/-- The router is about to navigate to `/b`, and the observer will navigate it to `/`. -/
def redirectAsked : Session := finishTasks 1 ((routerObserved (navigateTo "/")).begin (navigateTo "/b"))

/-- An observer redirects a navigation: both paths are resolved and added, one after the other. Before, the router was made
and agreed with its history, and it does so again afterwards. -/
theorem reentrant_navigations_redirect :
    (∃ us t, redirectAsked.step? = some t ∧
      CallRun [.answer false none (.ok (.activeOf 0))] t us (finishTasks 19 t) ∧
      acts 0 0 (us ++ [redirectAsked]) = deeds (Text.ofString "/b") ++ deeds (Text.ofString "/")) ∧
    (∃ t, routerAsked.step? = some t ∧ IsAlone t 0 0 ∧ Agrees t 0 0) ∧
    (∃ us t, ObservedRun 0 0 false (routerObserved (navigateTo "/")) us t ∧ t.agenda = [] ∧ Agrees t 0 0) := by
  obtain ⟨us₀, hmade⟩ := exists_openRun_routerAsked
  obtain ⟨us₁, hobserved⟩ := exists_openRun_routerObserved (navigateTo "/")
  have hasked : OpenRun empty _ redirectAsked := (hobserved.step (OpenStep.told (navigateTo "/b") rfl)).goOn 1
  refine ⟨?_, ?_, ?_⟩
  · obtain ⟨t, hstep⟩ : ∃ t, redirectAsked.step? = some t := ⟨_, rfl⟩
    obtain rfl : t = finishTasks 2 ((routerObserved (navigateTo "/")).begin (navigateTo "/b")) :=
      Option.some.inj (hstep.symm.trans rfl)
    have hcall : CallRun [.answer false none (.ok (.activeOf 0))]
        (finishTasks 2 ((routerObserved (navigateTo "/")).begin (navigateTo "/b"))) _ _ :=
      CallRun.start.goOn 19 (by decide +kernel)
    obtain ⟨hacts, _⟩ := (reentrant_navigations hasked).1 0 (Text.ofString "/b") _ _ _ _ _ rfl rfl rfl hstep hcall rfl
    exact ⟨_, _, hstep, hcall, hacts.trans rfl⟩
  · exact (reentrant_navigations hmade).2.1 (Text.ofString "r") 0 _ _ _ rfl rfl rfl rfl rfl
  · obtain ⟨halone, hagrees⟩ := isAlone_routerObserved (navigateTo "/")
    have hrun : ObservedRun 0 0 false (routerObserved (navigateTo "/")) _ _ :=
      ObservedRun.start.doStep rfl 40 (navigateTo "/b") (by decide +kernel)
    exact ⟨_, _, hrun, rfl, (reentrant_navigations hobserved).2.2 0 0 _ _ halone hagrees
      (fun _ hm => absurd hm List.not_mem_nil) hrun rfl rfl⟩

/-! ## Moves inside navigations -/

/-- If a router is alone with its history and agrees with it, and observers navigate the router and move the history, then,
whenever nothing is left to do, the two agree exactly if the last thing that happened to them was not an entry that a
navigation added right after the history had moved to a path that resolves to something else. -/
theorem agrees_iff_of_observedRun (hrun : OpenRun Session.empty us₀ s) (halone : IsAlone s r h) (hagrees : Agrees s r h)
    (hspares : ∀ task ∈ s.agenda, task.Spares r h true) (hobserved : ObservedRun r h true s us t)
    (hidle : t.agenda = []) (halive : t.isAlive r = true) :
    ∃ router, t.routers[r]? = some router ∧ (Agrees t r h ↔
      ∀ path other older, changes r h us = .pushed path :: .moved other :: older →
        Route.resolve router.routes other = Route.resolve router.routes path) := by
  obtain ⟨router, start, hrouter, hsettled, hiff⟩ :=
    settled_of_observedRun hrun halone hagrees hspares hobserved hidle halive
  exact ⟨router, hrouter, hiff.trans (hsettled.resolve_eq_iff start router.routes)⟩

/-- A move of the history back. -/
def moveBack : Command := .mk none (.back (given "h"))

/-- The router was told to navigate to `/b`, and the observer moved the history back to `/` before the entry was added. -/
def movedMeanwhile : Session := (routerObserved moveBack).doStep 40 (navigateTo "/b")

/-- The navigation of the example returns with the move of its observer in between. -/
theorem exists_observedRun_movedMeanwhile : ∃ us, ObservedRun 0 0 true (routerObserved moveBack) us movedMeanwhile ∧
    changes 0 0 us =
      [.pushed (Text.ofString "/b"), .moved (Text.ofString "/"), .resolved (Text.ofString "/b")] := by
  have hrun : ObservedRun 0 0 true (routerObserved moveBack) _ movedMeanwhile :=
    ObservedRun.start.doStep rfl 40 (navigateTo "/b") (by decide +kernel)
  exact ⟨_, hrun, rfl⟩

/-- After a move inside a navigation, the two agree exactly if `/` and `/b` resolve to the same. -/
theorem agrees_movedMeanwhile_iff : ∃ router, movedMeanwhile.routers[0]? = some router ∧
    (Agrees movedMeanwhile 0 0 ↔ Route.resolve router.routes (Text.ofString "/") =
      Route.resolve router.routes (Text.ofString "/b")) := by
  obtain ⟨us₀, hrun⟩ := exists_openRun_routerObserved moveBack
  obtain ⟨us, hobserved, hchanges⟩ := exists_observedRun_movedMeanwhile
  obtain ⟨halone, hagrees⟩ := isAlone_routerObserved moveBack
  obtain ⟨router, hrouter, hiff⟩ := agrees_iff_of_observedRun hrun halone hagrees
    (fun _ hm => absurd hm List.not_mem_nil) hobserved rfl rfl
  refine ⟨router, hrouter, hiff.trans ?_⟩
  rw [hchanges]
  constructor
  · intro hsame
    exact hsame _ _ _ rfl
  · rintro hsame _ _ _ ⟨⟩
    exact hsame

/-- A router and its history may disagree although nothing is left to do: an observer moved the history between the two
halves of a navigation, so that the newest entry does not belong to the active route. -/
theorem not_agrees_of_moves : ¬∀ (us₀ us : List Session) (s t : Session) (r h : Nat), OpenRun Session.empty us₀ s →
    IsAlone s r h → Agrees s r h → (∀ task ∈ s.agenda, task.Spares r h true) → ObservedRun r h true s us t →
    t.agenda = [] → t.isAlive r = true → Agrees t r h := by
  intro hall
  obtain ⟨us₀, hrun⟩ := exists_openRun_routerObserved moveBack
  obtain ⟨us, hobserved, _⟩ := exists_observedRun_movedMeanwhile
  obtain ⟨halone, hagrees⟩ := isAlone_routerObserved moveBack
  obtain ⟨router, history, hrouter, hhistory, hshows⟩ := hall us₀ us _ movedMeanwhile 0 0 hrun halone hagrees
    (fun _ hm => absurd hm List.not_mem_nil) hobserved rfl rfl
  have hactive : (movedMeanwhile.active? 0).map (·.route) = some 0 := rfl
  have hroutes : movedMeanwhile.routers[0]?.map (·.routes) = some threeRoutes := rfl
  have hentry : movedMeanwhile.histories[0]?.map (·.trail.current) = some (Text.ofString "/b") := rfl
  have hresolved : (Route.resolve threeRoutes (Text.ofString "/b")).map (·.route) = some 2 := rfl
  rw [hrouter] at hroutes
  rw [hhistory] at hentry
  obtain hroutes : router.routes = threeRoutes := Option.some.inj hroutes
  obtain hentry : history.trail.current = Text.ofString "/b" := Option.some.inj hentry
  rw [hshows, hroutes, hentry, hresolved] at hactive
  cases hactive

end Session

end PathRouting
