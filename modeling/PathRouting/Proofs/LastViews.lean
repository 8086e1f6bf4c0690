import PathRouting.Proofs.Dues
import PathRouting.Proofs.Reentrance

/-!
# What observers see last

An observer of a router looks at the active match when it is called. Rounds nest: an observer may resolve another path
while earlier rounds go on, which then call the other observers with what is active by now. Statements: only resolving a
path on a router changes what is active there, and once nothing is left to do, each observer that was registered before
the last resolution and still is was called after it, and what it saw then is what is active.
-/

namespace PathRouting

namespace Session

variable {s t u u' : Session} {callback : Callback} {us later older : List Session} {inMemory : Nat → Prop} {r : Nat}

/-- The first task resolves a path on the router. -/
def resolves (r : Nat) (s : Session) : Bool :=
  match s.agenda with
  | .resolve r' _ :: _ => r' == r
  | _ => false

/-- A router resolves when a resolve of its own comes up. -/
theorem resolves_iff : s.resolves r = true ↔ ∃ path rest, s.agenda = .resolve r path :: rest := by
  unfold resolves
  split
  · rename_i r' path rest hfirst
    simp only [hfirst, beq_iff_eq, List.cons.injEq, Task.resolve.injEq]
    exact ⟨fun h => ⟨path, rest, ⟨h, rfl⟩, rfl⟩, fun ⟨_, _, h, _⟩ => h.1⟩
  · rename_i hne
    refine ⟨fun h => absurd h Bool.false_ne_true, ?_⟩
    rintro ⟨path, rest, hfirst⟩
    exact absurd hfirst (hne r path rest)

/-! ## What is active -/

/-- The active resolution of a router rests on the faces alone. -/
theorem activeResolution?_congr (h : t.faces = s.faces) (r : Nat) : t.activeResolution? r = s.activeResolution? r := by
  rw [activeResolution?_eq_faces, activeResolution?_eq_faces, h]

/-- Only resolving a path on a router changes what is active there. -/
theorem activeResolution?_perform {task : Task} (hr : r < s.routers.length) (hne : ∀ path, task ≠ .resolve r path) :
    (s.perform task).activeResolution? r = s.activeResolution? r := by
  cases hsteering : task.isSteering with
  | false =>
    refine activeResolution?_congr ?_ r
    rw [faces_eq_desks, faces_eq_desks, (desks_perform s hsteering).1]
  | true =>
    cases task with
    | openRouter name h routes =>
      change (s.openRouter name h routes).activeResolution? r = s.activeResolution? r
      unfold openRouter
      split
      · rfl
      · rename_i history _
        refine (activeResolution?_activate _ s.routers.length r (Route.resolve routes history.trail.current)).trans ?_
        rw [if_neg (Nat.ne_of_lt hr)]
        simp only [activeResolution?, recordLogs, List.getElem?_append_left hr]
    | navigate r' path => exact activeResolution?_congr (faces_navigate s r' path).1 r
    | drain r' => exact activeResolution?_congr (faces_drain s r').1 r
    | resolve r' path =>
      have hr' : r ≠ r' := fun h => hne path (by rw [h])
      change (s.resolve r' path).activeResolution? r = s.activeResolution? r
      unfold resolve
      split
      · rfl
      · exact (activeResolution?_activate _ r' r _).trans (if_neg hr')
    | _ => cases hsteering

/-- A step that is no resolve of a router leaves its active resolution as it is. -/
theorem activeResolution?_step (hr : r < s.routers.length) (hne : s.resolves r = false) (hstep : s.step? = some t) :
    t.activeResolution? r = s.activeResolution? r := by
  obtain ⟨task, rest, hfirst, rfl⟩ := (step?_eq_some_iff s t).1 hstep
  rw [activeResolution?_sweep]
  refine activeResolution?_perform (s := { s with agenda := rest }) hr ?_
  rintro path rfl
  rw [resolves_iff.2 ⟨path, rest, hfirst⟩] at hne
  cases hne

/-- What is active on a router stays so while no path is resolved there. -/
theorem RegularRun.activeResolution?_eq (h : RegularRun inMemory s us t) (hr : r < s.routers.length)
    (hno : ∀ v ∈ us, v.resolves r = false) : t.activeResolution? r = s.activeResolution? r := by
  induction h with
  | start => rfl
  | @step us l t t' hbefore hstep ih =>
    have hsame := ih (fun v hv => hno v (List.mem_append_right l hv))
    cases hstep with
    | own hown =>
      have hr' : r < t.routers.length := hbefore.openRun.renews.known (.follow r) hr
      exact (activeResolution?_step hr' (hno t (List.mem_cons_self ..)) hown).trans hsame
    | told c hidle => exact hsame
    | outside histories hvaries hsame' pool hpool tasks htasks => exact hsame

/-! ## The round of the last resolution -/

/-- A router that has a callback is alive. -/
theorem exists_router_of_mem {entry : Nat × Callback} (h : entry ∈ s.callbacks (.router r)) :
    ∃ router, s.routers[r]? = some router ∧ router.alive = true := by
  rw [callbacks_router] at h
  cases hrouter : s.routers[r]? with
  | none =>
    rw [hrouter] at h
    cases h
  | some router =>
    rw [hrouter, Option.map_some, Option.getD_some] at h
    refine ⟨router, rfl, ?_⟩
    by_contra hdead
    rw [if_neg hdead] at h
    cases h

/-- A path that is resolved on a router is owed to its observers. -/
theorem owed_ne_nil_of_resolves (h : u.resolves r = true) {router : Router} (hrouter : u.routers[r]? = some router)
    (hstep : u.step? = some u') (callback : Callback) : owed (some (.router r)) callback u'.agenda ≠ [] := by
  obtain ⟨path, rest, hfirst⟩ := resolves_iff.1 h
  obtain rfl := eq_of_step? hfirst hstep
  have hrouter' : ({ u with agenda := rest } : Session).routers[r]? = some router := hrouter
  have hnotified : (({ u with agenda := rest } : Session).perform (.resolve r path)).agenda =
      .notify (.router r) path :: rest := by
    change (resolve _ r path).agenda = _
    simp only [resolve, hrouter']
    exact congrArg ([Task.notify (.router r) path] ++ ·) (agenda_activate _ _ _)
  change owed _ _ (({ u with agenda := rest } : Session).perform (.resolve r path)).agenda ≠ []
  rw [hnotified, owed_cons, Task.owes, if_pos rfl]
  exact List.cons_ne_nil _ _

/-- The first task calls the callback. -/
def calls (callback : Callback) (s : Session) : Bool := (s.calledWith? callback).isSome

/-- A callback that was called has a last call. -/
theorem exists_find?_of_callsOf (h : callsOf callback us ≠ []) : ∃ v ∈ us, us.find? (calls callback) = some v := by
  cases hfind : us.find? (calls callback) with
  | some v => exact ⟨v, List.mem_of_find?_eq_some hfind, rfl⟩
  | none =>
    refine absurd (List.filterMap_eq_nil_iff.2 (fun v hv => ?_)) h
    exact Option.not_isSome_iff_eq_none.1 (List.find?_eq_none.1 hfind v (List.mem_reverse.1 hv))

/-- Whatever observers do when they are called, and in whatever depth: when nothing is left to do, each observer that was
registered before the last resolution of a path on its router and still is was called, and what was active when it was
called last is what is active now: the same resolution, or none. -/
theorem exists_lastCall_of_resolves (hrun : RegularRun inMemory Session.empty us t) (hidle : t.agenda = [])
    (hlast : us.find? (resolves r) = some u) :
    ∀ entry ∈ u.callbacks (.router r), entry ∈ t.callbacks (.router r) →
      ∃ v, us.find? (calls entry.2) = some v ∧ v.isAlive r = true ∧
        v.activeResolution? r = t.activeResolution? r := by
  intro entry hu ht
  obtain ⟨hresolves, later, older, rfl, hno⟩ := List.find?_eq_some_iff_append.1 hlast
  have hnone : ∀ v ∈ later, v.resolves r = false := fun v hv => by simpa using hno v hv
  obtain ⟨u', holder, hstep, hlater⟩ := hrun.cut rfl
  have hplaced : Placed u := holder.openRun.placed
  have hresolved : Renews u u' := renews_step hstep
  have hplaced' : Placed u' := hplaced.renews hresolved
  have hu' : entry ∈ u'.callbacks (.router r) :=
    hlater.openRun.renews.mem_callbacks (hresolved.known _ (hplaced.isKnown hu)) ht
  obtain ⟨router, hrouter, _⟩ := exists_router_of_mem hu
  have howed := owed_ne_nil_of_resolves hresolves hrouter hstep entry.2
  have hcalled : callsOf entry.2 later ≠ [] := by
    refine (hlater.callsOf_or_owed (by rintro h ⟨⟩) (fun v hv => hlater.isAt hplaced' hu' ht hv) howed).resolve_right ?_
    rw [hidle]
    exact fun h => h rfl
  obtain ⟨v, hv, hfind⟩ := exists_find?_of_callsOf hcalled
  refine ⟨v, by rw [List.find?_append, hfind]; rfl, ?_, ?_⟩
  · obtain ⟨g, hg, halive⟩ := exists_router_of_mem (hlater.mem_callbacks hplaced' hu' ht hv)
    rw [isAlive, hg]
    exact halive
  · have hr : r < u'.routers.length := hresolved.known (.follow r) (List.getElem?_eq_some_iff.1 hrouter).1
    obtain ⟨after, before, rfl⟩ := List.append_of_mem hv
    obtain ⟨v', hbefore, _, _⟩ := hlater.cut rfl
    rw [hlater.activeResolution?_eq hr hnone]
    exact hbefore.activeResolution?_eq hr
      (fun w hw => hnone w (List.mem_append_right after (List.mem_cons_of_mem v hw)))

/-! ## A round in a round -/

/-- A resolution of a path on the router. -/
def resolveTo (path : String) : Command := .mk none (.setRoute (given "r") (given path))

/-- The first observer of the router will resolve `/b` once it is told of a resolution, and there is a second one. -/
def resolverObserves : Session :=
  (routerObserved (resolveTo "/b")).doStep 9 (.mk none (.subscribe (given "p") (given "r") (.mk .absent .absent .absent)))

/-- The router was told to resolve `/`, and the first observer is about to resolve `/b`. -/
def resolveAsked : Session := finishTasks 7 (resolverObserves.begin (resolveTo "/"))

/-- The resolve of the example comes up in a run. -/
theorem exists_regularRun_resolveAsked : ∃ us, RegularRun (fun _ => True) empty us resolveAsked := by
  have hhistory : ∃ us, RegularRun (fun _ => True) empty us historyAtRoot :=
    exists_regularRun_doStep ⟨[], RegularRun.start⟩ rfl 9 _
  obtain ⟨us, hus⟩ := hhistory
  have hrouter : ∃ us, RegularRun (fun _ => True) empty us (finishTasks 9 routerAsked) :=
    ⟨_, ((hus.step (RegularStep.told makeRouter rfl)).goOn 2).goOn 9⟩
  have hobserves : ∃ us, RegularRun (fun _ => True) empty us resolverObserves := by
    refine exists_regularRun_doStep ?_ rfl 9 _
    refine exists_regularRun_doStep ?_ rfl 9 _
    exact exists_regularRun_doStep hrouter rfl 20 _
  obtain ⟨us', hus'⟩ := hobserves
  exact ⟨_, (hus'.step (RegularStep.told (resolveTo "/") rfl)).goOn 7⟩

/-- Both rounds are over. -/
def bothResolved : Session := finishTasks 13 resolveAsked

/-- The second observer is called for `/b` and then for `/`, and both times it sees the match of `/b`. -/
theorem lastCall_bothResolved : ∃ us v, RegularRun (fun _ => True) resolveAsked us bothResolved ∧
    callsOf (.handler 1) us = [Text.ofString "/b", Text.ofString "/"] ∧ us.find? (calls (.handler 1)) = some v ∧
    v.activeResolution? 0 = bothResolved.activeResolution? 0 ∧ (bothResolved.active? 0).map (·.route) = some 2 := by
  obtain ⟨older, hrun⟩ := exists_regularRun_resolveAsked
  have hall : RegularRun (fun _ => True) empty _ bothResolved := hrun.goOn 13
  have hlast : (passed 13 resolveAsked ++ older).find? (resolves 0) = some resolveAsked := rfl
  obtain ⟨v, hv, _, hsame⟩ := exists_lastCall_of_resolves hall rfl hlast (1, .handler 1) (by decide +kernel)
    (by decide +kernel)
  have hcall : (passed 13 resolveAsked).find? (calls (.handler 1)) = some v := by
    rw [← hv]
    rfl
  exact ⟨passed 13 resolveAsked ++ [], v, RegularRun.start.goOn 13, rfl, by rw [List.append_nil, hcall], hsame, rfl⟩

end Session

end PathRouting
