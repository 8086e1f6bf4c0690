import PathRouting.Proofs.Faces

/-!
# Where routers stand

A router has routes and a history for good, and it is in a navigation or not, with others queued. Statements: only
navigating the router and going on with its queue change that, each in its own way.
-/

namespace PathRouting

/-- Where a router stands: its routes and history, whether it navigates, and the navigations that are queued. -/
structure Course where
  routes : List Route
  history : Nat
  navigating : Bool
  queue : List Text

/-- Where the router stands. -/
def Router.course (g : Router) : Course := ⟨g.routes, g.history, g.navigating, g.queue⟩

namespace Session

variable {s t : Session} {r : Nat} {course : Course}

/-- Where a router stands in a session. -/
def course? (s : Session) (r : Nat) : Option Course := s.routers[r]?.map Router.course

/-- The course of a router is part of its desk. -/
theorem course?_eq_desks (s : Session) (r : Nat) : s.course? r = s.desks[r]?.map Router.course := by
  rw [course?, desks, List.getElem?_map, Option.map_map]
  rfl

/-- A change of one router that leaves where it stands leaves where all routers stand. -/
theorem course?_modify {f : Router → Router} (hf : ∀ g, (f g).course = g.course) (s : Session) (r' r : Nat) :
    (s.withRouter r' f).course? r = s.course? r := by
  have hcourses : (s.routers.modify r' f).map Router.course = s.routers.map Router.course :=
    map_modify_of_forall hf s.routers r'
  have hget : ((s.routers.modify r' f).map Router.course)[r]? = (s.routers.map Router.course)[r]? := by rw [hcourses]
  rw [List.getElem?_map, List.getElem?_map] at hget
  exact hget

/-- A change of another router leaves where a router stands. -/
theorem course?_modify_of_ne {r' : Nat} (h : r' ≠ r) (s : Session) (f : Router → Router) :
    (s.withRouter r' f).course? r = s.course? r := by
  simp [course?, withRouter, h]

/-- What becomes active makes no difference to courses. -/
theorem course?_activate (s : Session) (r' r : Nat) (found : Option Match) :
    (s.activate r' found).course? r = s.course? r := by
  cases found with
  | none => exact course?_modify (f := fun g => { g with active := none }) (fun _ => rfl) s r' r
  | some m =>
    exact course?_modify (f := fun g => { g with active := some s.resolutions.length }) (fun _ => rfl)
      { s with resolutions := s.resolutions ++ [⟨r', m⟩] } r' r

/-- A resolve makes no difference to courses. -/
theorem course?_resolve (s : Session) (r' : Nat) (path : Text) (r : Nat) :
    (s.resolve r' path).course? r = s.course? r := by
  unfold resolve
  split
  · rfl
  · exact course?_activate _ _ _ _

/-- A new router leaves the courses of the others as they are. -/
theorem course?_openRouter (h : s.course? r = some course) (name : Text) (k : Nat) (routes : List Route) :
    (s.openRouter name k routes).course? r = some course := by
  unfold openRouter
  split
  · exact h
  · rename_i history _
    let made : Router := ⟨routes, k, none, .empty, false, [], true⟩
    have hadded : ({ s with routers := s.routers ++ [made] } : Session).course? r = some course := by
      obtain ⟨router, hr, hcourse⟩ := Option.map_eq_some_iff.1 h
      have hlt := (List.getElem?_eq_some_iff.1 hr).1
      simp only [course?, List.getElem?_append_left hlt, hr, Option.map_some, hcourse]
    exact (course?_activate _ s.routers.length r (Route.resolve routes history.trail.current)).trans hadded

/-- A navigation of another router makes no difference to a course. -/
theorem course?_navigate_of_ne {r' : Nat} (h : r' ≠ r) (s : Session) (path : Text) :
    (s.navigate r' path).course? r = s.course? r := by
  unfold navigate
  split
  · rfl
  · split <;> exact course?_modify_of_ne h _ _

/-- Draining the queue of another router makes no difference to a course. -/
theorem course?_drain_of_ne {r' : Nat} (h : r' ≠ r) (s : Session) : (s.drain r').course? r = s.course? r := by
  unfold drain
  split
  · rfl
  · split <;> exact course?_modify_of_ne h _ _

/-- A change to a router changes its course as it changes the part of the router. -/
theorem course?_withRouter (hcourse : s.course? r = some course) {f : Router → Router} {course' : Course}
    (hf : ∀ g : Router, g.course = course → (f g).course = course') : (s.withRouter r f).course? r = some course' := by
  obtain ⟨router, hr, hg⟩ := Option.map_eq_some_iff.1 hcourse
  simp [course?, withRouter, hr, hf router hg]

/-- A navigation is queued while another one runs. -/
theorem navigate_of_navigating (hcourse : s.course? r = some course) (h : course.navigating = true) (path : Text) :
    (s.navigate r path).course? r = some { course with queue := course.queue ++ [path] } ∧
      (s.navigate r path).agenda = s.agenda := by
  obtain ⟨router, hr, rfl⟩ := Option.map_eq_some_iff.1 hcourse
  have hnavigating : router.navigating = true := h
  simp only [navigate, hr, hnavigating, if_true]
  refine ⟨course?_withRouter (s := s.recordLogs _) hcourse ?_, rfl⟩
  rintro g hg
  rw [← hg]
  rfl

/-- A navigation of an idle router begins. -/
theorem navigate_of_idle (hcourse : s.course? r = some course) (h : course.navigating = false) (path : Text) :
    (s.navigate r path).course? r = some { course with navigating := true } ∧
      (s.navigate r path).agenda = .resolve r path :: .push course.history path :: .drain r :: s.agenda := by
  obtain ⟨router, hr, rfl⟩ := Option.map_eq_some_iff.1 hcourse
  have hidle : router.navigating = false := h
  simp only [navigate, hr, hidle]
  refine ⟨course?_withRouter (s := s) hcourse ?_, rfl⟩
  rintro g hg
  rw [← hg]
  rfl

/-- With nothing queued a navigation ends. -/
theorem drain_of_nil (hcourse : s.course? r = some course) (h : course.queue = []) :
    (s.drain r).course? r = some { course with navigating := false } ∧ (s.drain r).agenda = s.agenda := by
  obtain ⟨router, hr, rfl⟩ := Option.map_eq_some_iff.1 hcourse
  have hqueue : router.queue = [] := h
  simp only [drain, hr, hqueue]
  refine ⟨course?_withRouter (s := s) hcourse ?_, rfl⟩
  rintro g hg
  rw [← hg]
  rfl

/-- A navigation goes on with what is queued. -/
theorem drain_of_cons (hcourse : s.course? r = some course) {path : Text} {later : List Text}
    (h : course.queue = path :: later) : (s.drain r).course? r = some { course with queue := later } ∧
      (s.drain r).agenda = .resolve r path :: .push course.history path :: .drain r :: s.agenda := by
  obtain ⟨router, hr, rfl⟩ := Option.map_eq_some_iff.1 hcourse
  have hqueue : router.queue = path :: later := h
  simp only [drain, hr, hqueue]
  refine ⟨course?_withRouter (s := s) hcourse ?_, rfl⟩
  rintro g hg
  rw [← hg]
  rfl

/-- A router that is made is in no navigation. -/
theorem course?_of_none {task : Task} (hnone : s.course? r = none) (hcourse : (s.perform task).course? r = some course) :
    course.navigating = false ∧ course.queue = [] := by
  have habsent : s.routers[r]? = none := Option.map_eq_none_iff.1 hnone
  have hsame : ∀ u : Session, u.course? r = s.course? r → u.course? r = some course → False := by
    intro u hu hc
    rw [hu, hnone] at hc
    cases hc
  cases hsteering : task.isSteering with
  | false =>
    refine absurd hcourse (fun hc => hsame _ ?_ hc)
    rw [course?_eq_desks, (desks_perform s hsteering).1, ← course?_eq_desks]
  | true =>
    cases task with
    | openRouter name k routes =>
      change (s.openRouter name k routes).course? r = some course at hcourse
      unfold openRouter at hcourse
      split at hcourse
      · exact absurd hcourse (fun hc => hsame _ rfl hc)
      · rename_i history _
        let made : Router := ⟨routes, k, none, .empty, false, [], true⟩
        have hadded := (course?_activate _ s.routers.length r (Route.resolve routes history.trail.current)).symm.trans
          hcourse
        have hr : ((s.routers ++ [made])[r]?).map Router.course = some course := hadded
        rw [List.getElem?_append_right (List.getElem?_eq_none_iff.1 habsent)] at hr
        obtain ⟨router, hrouter, rfl⟩ := Option.map_eq_some_iff.1 hr
        rw [List.mem_singleton.1 (List.mem_of_getElem? hrouter)]
        exact ⟨rfl, rfl⟩
    | navigate r' path =>
      change (s.navigate r' path).course? r = some course at hcourse
      by_cases hr : r' = r
      · subst hr
        rw [navigate, habsent] at hcourse
        exact absurd hcourse (fun hc => hsame _ rfl hc)
      · exact absurd hcourse (fun hc => hsame _ (course?_navigate_of_ne hr s path) hc)
    | resolve r' path => exact absurd hcourse (fun hc => hsame _ (course?_resolve s r' path r) hc)
    | drain r' =>
      change (s.drain r').course? r = some course at hcourse
      by_cases hr : r' = r
      · subst hr
        rw [drain, habsent] at hcourse
        exact absurd hcourse (fun hc => hsame _ rfl hc)
      · exact absurd hcourse (fun hc => hsame _ (course?_drain_of_ne hr s) hc)
    | _ => cases hsteering

/-- Only navigating a router and going on with its queue change where it stands. -/
theorem course?_perform {task : Task} (hcourse : s.course? r = some course) (hnavigate : ∀ path, task ≠ .navigate r path)
    (hdrain : task ≠ .drain r) : (s.perform task).course? r = some course := by
  cases hsteering : task.isSteering with
  | false =>
    rw [course?_eq_desks, (desks_perform s hsteering).1, ← course?_eq_desks]
    exact hcourse
  | true =>
    cases task with
    | openRouter name k routes => exact course?_openRouter hcourse name k routes
    | navigate r' path =>
      have hne : r' ≠ r := fun e => hnavigate path (e ▸ rfl)
      exact (course?_navigate_of_ne hne s path).trans hcourse
    | resolve r' path => exact (course?_resolve s r' path r).trans hcourse
    | drain r' =>
      have hne : r' ≠ r := fun e => hdrain (e ▸ rfl)
      exact (course?_drain_of_ne hne s).trans hcourse
    | _ => cases hsteering

/-- No task takes a router away. -/
theorem exists_course?_perform (hcourse : s.course? r = some course) (task : Task) :
    ∃ course', (s.perform task).course? r = some course' := by
  by_cases hdrain : task = .drain r
  · subst hdrain
    cases hqueue : course.queue with
    | nil => exact ⟨_, (drain_of_nil hcourse hqueue).1⟩
    | cons path later => exact ⟨_, (drain_of_cons hcourse hqueue).1⟩
  · by_cases hnavigate : ∃ path, task = .navigate r path
    · obtain ⟨path, rfl⟩ := hnavigate
      cases hnavigating : course.navigating with
      | true => exact ⟨_, (navigate_of_navigating hcourse hnavigating path).1⟩
      | false => exact ⟨_, (navigate_of_idle hcourse hnavigating path).1⟩
    · exact ⟨course, course?_perform hcourse (fun path e => hnavigate ⟨path, e⟩) hdrain⟩

/-- What ends routers leaves where they stand. -/
theorem course?_sweep (s : Session) (r : Nat) : s.sweep.course? r = s.course? r := by
  rw [course?, getElem?_routers_sweep, Option.map_map]
  rfl

end Session

end PathRouting
