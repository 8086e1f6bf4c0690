import PathRouting.Proofs.LastViews
import PathRouting.Proofs.LookUps
import PathRouting.Proofs.Rendering

/-!
# The identity of snapshots

A snapshot of what is active on a router stands for one resolution, and the router is asked later whether that is still
the active one. Statements: resolutions are only added, each resolved path makes a new one or leaves the router without
any, and so a snapshot is of what is active on a router exactly if it was taken from this router and no path was resolved
there since.
-/

namespace PathRouting

namespace Session

variable {s t : Session} {us vs : List Session} {r id : Nat}

/-- What a router finds when it is asked whether the resolution of a snapshot is the one that is active on it. -/
def isActive (s : Session) (r id : Nat) : Bool := s.activeResolution? r == some id

theorem isActive_iff : s.isActive r id = true ↔ s.activeResolution? r = some id := beq_iff_eq

/-! ## Resolutions are only added -/

theorem resolutions_openRouter (s : Session) (name : Text) (h : Nat) (routes : List Route) :
    s.resolutions <+: (s.openRouter name h routes).resolutions := by
  unfold openRouter
  split
  · exact List.prefix_rfl
  · rename_i history _
    simp only [recordLogs, withRegistry, withHistory, resolutions_activate]
    exact List.prefix_append _ _

theorem resolutions_resolve (s : Session) (r : Nat) (path : Text) : s.resolutions <+: (s.resolve r path).resolutions := by
  unfold resolve
  split
  · exact List.prefix_rfl
  · simp only [first, recordLogs, resolutions_activate]
    exact List.prefix_append _ _

/-- No task takes a resolution away or changes one. -/
theorem resolutions_perform (s : Session) (task : Task) : s.resolutions <+: (s.perform task).resolutions := by
  have hsame : (s.perform task).resolutions = s.resolutions → s.resolutions <+: (s.perform task).resolutions := by
    intro h
    simp only [h, List.prefix_rfl]
  cases hsteering : task.isSteering with
  | false => exact hsame (desks_perform s hsteering).2
  | true =>
    cases task with
    | openRouter name h routes => exact resolutions_openRouter s name h routes
    | navigate r path => exact hsame (faces_navigate s r path).2
    | drain r => exact hsame (faces_drain s r).2
    | resolve r path => exact resolutions_resolve s r path
    | _ => cases hsteering

theorem resolutions_step (hstep : s.step? = some t) : s.resolutions <+: t.resolutions := by
  obtain ⟨task, rest, _, rfl⟩ := (step?_eq_some_iff s t).1 hstep
  exact resolutions_perform { s with agenda := rest } task

/-- A resolution that was made stays what it is. -/
theorem OpenRun.resolutions (h : OpenRun s vs t) : s.resolutions <+: t.resolutions := by
  induction h with
  | start => exact List.prefix_rfl
  | step _ hstep ih =>
    cases hstep with
    | own hown => exact ih.trans (resolutions_step hown)
    | told c _ => exact ih
    | outside histories _ pool _ tasks _ => exact ih

/-! ## Each resolved path replaces what is active -/

/-- Resolving a path on a router makes a new resolution the active one there, or none. -/
theorem activeResolution?_step_of_resolves (h : s.resolves r = true) (hr : r < s.routers.length)
    (hstep : s.step? = some t) :
    ∃ found : Option Match, t.activeResolution? r = found.map (fun _ => s.resolutions.length) := by
  obtain ⟨path, rest, hfirst⟩ := resolves_iff.1 h
  obtain rfl := eq_of_step? hfirst hstep
  have hrouter : ({ s with agenda := rest } : Session).routers[r]? = some s.routers[r] := List.getElem?_eq_getElem hr
  refine ⟨Route.resolve s.routers[r].routes path, ?_⟩
  rw [activeResolution?_sweep]
  change (resolve _ r path).activeResolution? r = _
  simp only [resolve, hrouter]
  refine (activeResolution?_activate _ r r _).trans ?_
  rw [if_pos rfl]
  change ({ s with agenda := rest } : Session).routers[r]?.bind _ = _
  rw [hrouter]
  rfl

/-- A resolution that was active on a router is so for as long as no path is resolved there, and never again. -/
theorem OpenRun.isActive_iff (h : OpenRun s vs t) (hr : r < s.routers.length) (hid : id < s.resolutions.length)
    (hactive : s.activeResolution? r = some id) : t.isActive r id = true ↔ ∀ v ∈ vs, v.resolves r = false := by
  rw [Session.isActive_iff]
  induction h with
  | start => exact iff_of_true hactive (fun _ hv => absurd hv List.not_mem_nil)
  | @step vs l t t' hbefore hstep ih =>
    cases hstep with
    | own hown =>
      have hr' : r < t.routers.length := hbefore.renews.known (.follow r) hr
      rw [List.singleton_append, List.forall_mem_cons]
      cases hresolves : t.resolves r with
      | false =>
        rw [activeResolution?_step hr' hresolves hown, ih]
        exact (and_iff_right rfl).symm
      | true =>
        obtain ⟨found, hfound⟩ := activeResolution?_step_of_resolves hresolves hr' hown
        have hold : id < t.resolutions.length := Nat.lt_of_lt_of_le hid hbefore.resolutions.length_le
        refine iff_of_false (fun hsame => ?_) (fun h => Bool.false_ne_true h.1.symm)
        obtain ⟨_, _, hnew⟩ := Option.map_eq_some_iff.1 (hfound.symm.trans hsame)
        exact Nat.lt_irrefl _ (hnew ▸ hold)
    | told c hidle => exact ih
    | outside histories hvaries pool hpool tasks htasks => exact ih

/-! ## What a snapshot says -/

/-- The answer to whether a snapshot is of what is active on a router. -/
theorem plan_isActive {router snap : Field Text} {r' : Nat} {g : Router} {resolution : Resolution}
    (hrouter : s.lookUpRouter router = .ok (r', g)) (hsnap : s.lookUpSnapshot snap "snap" = .ok (id, resolution)) :
    s.plan (.isActive router snap) = .reply (.flag (s.isActive r' id)) := by
  have hactive : s.activeResolution? r' = g.active := by
    rw [activeResolution?, (yields_lookUpRouter s router _ hrouter).1]
    rfl
  simp only [isActive, hactive, plan, planned, hrouter, hsnap, bind, Except.bind, pure, Except.pure]

/-- Whatever callbacks did between, with any number of routers: a snapshot that was taken of what is active on a router is
of what is active there later exactly if no path was resolved on this router since, be it to an equal match; and it is
never of what is active on another router. That is what a router answers when it is asked. -/
theorem isActive_iff_of_active (hrun : OpenRun Session.empty us s) (hactive : s.activeResolution? r = some id)
    (hlater : OpenRun s vs t) :
    (t.isActive r id = true ↔ ∀ v ∈ vs, v.resolves r = false) ∧ (∀ r', r' ≠ r → t.isActive r' id = false) ∧
      ∀ router snap r' g resolution, t.lookUpRouter router = .ok (r', g) →
        t.lookUpSnapshot snap "snap" = .ok (id, resolution) →
        t.plan (.isActive router snap) = .reply (.flag (t.isActive r' id)) := by
  obtain ⟨found, hfound⟩ := hrun.settled.active r id hactive
  have hid : id < s.resolutions.length := (List.getElem?_eq_some_iff.1 hfound).1
  obtain ⟨g, hg, _⟩ := Option.bind_eq_some_iff.1 hactive
  have hr : r < s.routers.length := (List.getElem?_eq_some_iff.1 hg).1
  refine ⟨hlater.isActive_iff hr hid hactive, fun r' hne => ?_, fun _ _ _ _ _ => plan_isActive⟩
  cases hother : t.isActive r' id with
  | false => rfl
  | true =>
    obtain ⟨found', hfound'⟩ := (hrun.trans hlater).settled.active r' id (Session.isActive_iff.1 hother)
    obtain ⟨new, hnew⟩ := hlater.resolutions
    rw [← hnew, getElem?_append_of_some hfound] at hfound'
    exact absurd (congrArg Resolution.router (Option.some.inj hfound')).symm hne

/-- There is a router at `/`, and a snapshot of what is active on it. -/
def snapshotTaken : Session := (finishTasks 9 routerAsked).doStep 9 (.mk none (.snap (given "p") (given "r")))

/-- The router has resolved `/` once more. -/
def resolvedAgain : Session := snapshotTaken.doStep 9 (resolveTo "/")

theorem passed_resolvedAgain : (passed 9 (snapshotTaken.begin (resolveTo "/"))).any (resolves 0) = true := by decide +kernel

/-- A snapshot is of what is active until the same path is resolved again, which makes an equal match the active one. -/
theorem isActive_resolvedAgain : ∃ us vs, OpenRun empty us snapshotTaken ∧ OpenRun snapshotTaken vs resolvedAgain ∧
    resolvedAgain.active? 0 = snapshotTaken.active? 0 ∧
    snapshotTaken.plan (.isActive (given "r") (given "p")) = .reply (.flag true) ∧
    resolvedAgain.plan (.isActive (given "r") (given "p")) = .reply (.flag false) := by
  obtain ⟨us, hrouter⟩ := exists_openRun_routerAsked
  obtain ⟨us', htaken⟩ : ∃ us, OpenRun empty us snapshotTaken := exists_openRun_doStep ⟨_, hrouter.goOn 9⟩ rfl 9 _
  have hagain : OpenRun snapshotTaken (passed 9 (snapshotTaken.begin (resolveTo "/")) ++ []) resolvedAgain :=
    (OpenRun.start.step (OpenStep.told (resolveTo "/") rfl)).goOn 9
  have hactive : snapshotTaken.activeResolution? 0 = some 0 := rfl
  obtain ⟨hnow, _, hanswers⟩ := isActive_iff_of_active htaken hactive OpenRun.start
  obtain ⟨hthen, _, hanswers'⟩ := isActive_iff_of_active htaken hactive hagain
  have htrue : snapshotTaken.isActive 0 0 = true := hnow.2 (fun _ hv => absurd hv List.not_mem_nil)
  have hfalse : resolvedAgain.isActive 0 0 = false := by
    obtain ⟨v, hv, hresolves⟩ := List.any_eq_true.1 passed_resolvedAgain
    refine Bool.eq_false_iff.2 (fun hstill => Bool.false_ne_true ?_)
    rw [← hthen.1 hstill v (List.mem_append_left _ hv), hresolves]
  have hrouterNow : (snapshotTaken.lookUpRouter (given "r")).map (·.1) = .ok 0 := rfl
  have hsnapNow : (snapshotTaken.lookUpSnapshot (given "p") "snap").map (·.1) = .ok 0 := rfl
  have hrouterThen : (resolvedAgain.lookUpRouter (given "r")).map (·.1) = .ok 0 := rfl
  have hsnapThen : (resolvedAgain.lookUpSnapshot (given "p") "snap").map (·.1) = .ok 0 := rfl
  obtain ⟨_, hrouterNow⟩ := exists_of_map_fst hrouterNow
  obtain ⟨_, hsnapNow⟩ := exists_of_map_fst hsnapNow
  obtain ⟨_, hrouterThen⟩ := exists_of_map_fst hrouterThen
  obtain ⟨_, hsnapThen⟩ := exists_of_map_fst hsnapThen
  have hmatchNow : snapshotTaken.active? 0 = some ⟨0, []⟩ := rfl
  have hmatchThen : resolvedAgain.active? 0 = some ⟨0, []⟩ := rfl
  refine ⟨us', _, htaken, hagain, hmatchThen.trans hmatchNow.symm, ?_, ?_⟩
  · rw [hanswers _ _ _ _ _ hrouterNow hsnapNow, htrue]
  · rw [hanswers' _ _ _ _ _ hrouterThen hsnapThen, hfalse]

end Session

end PathRouting
