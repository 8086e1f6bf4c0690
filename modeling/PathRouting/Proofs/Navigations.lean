import PathRouting.Proofs.Courses
import PathRouting.Proofs.Leads

/-!
# Navigations one after the other

While a router navigates, callbacks and the history may ask it for further navigations, at any depth. Statements: it does
all of them in the order they were asked for, each once, and each by resolving the path and adding the entry right after
that, before it does another one.
-/

namespace PathRouting

/-- What happens between a router and its history: the router resolves a path that it navigates to, it adds the entry, or
the history moves to an entry. -/
inductive Change where
  | resolved (path : Text)
  | pushed (path : Text)
  | moved (path : Text)
  deriving DecidableEq, Repr

/-- The path that the first task asks a router to navigate to. -/
def request? (r : Nat) : List Task → Option Text
  | .navigate r' path :: _ => if r' = r then some path else none
  | _ => none

/-- What the first task does as a part of a navigation of a router over a history. A part of a navigation has the rest of
the navigation behind it; what a callback asks for has not. -/
def act? (r h : Nat) : List Task → Option Change
  | .resolve r' path :: .push h' path' :: .drain r'' :: _ =>
    if r' = r ∧ h' = h ∧ path' = path ∧ r'' = r then some (.resolved path) else none
  | .push h' path :: .drain r' :: _ => if h' = h ∧ r' = r then some (.pushed path) else none
  | _ => none

/-- A navigation as it is to be done: a path is resolved and then added. -/
def deeds (path : Text) : List Change := [.resolved path, .pushed path]

/-- What a navigation of a router that is at a path has still to do, and what it did with the path. -/
inductive Stage (r h : Nat) (path : Text) : List Task → List Change → Prop
  | asked : Stage r h path [.resolve r path, .push h path, .drain r] []
  | resolved : Stage r h path [.push h path, .drain r] [.resolved path]
  | pushed : Stage r h path [.drain r] [.resolved path, .pushed path]

/-- The tasks that could be taken for a part of a navigation if the rest of one stood behind them. -/
def Task.IsBare : Task → Prop
  | .resolve _ _ => True
  | .push _ _ => True
  | .call (.follow _) _ => True
  | _ => False

namespace Session

variable {s t : Session} {us : List Session} {r h : Nat}

/-- The paths that a router was asked to navigate to in a run, in order. -/
def requests (r : Nat) (us : List Session) : List Text := us.reverse.filterMap (fun u => request? r u.agenda)

/-- What a router did in a run to navigate, in order. -/
def acts (r h : Nat) (us : List Session) : List Change := us.reverse.filterMap (fun u => act? r h u.agenda)

/-- The requests up to a session are those before it and its own. -/
theorem requests_cons (r : Nat) (u : Session) (us : List Session) :
    requests r (u :: us) = requests r us ++ (request? r u.agenda).toList := filterMap_reverse_cons _ u us

/-- The acts up to a session are those before it and its own. -/
theorem acts_cons (r h : Nat) (u : Session) (us : List Session) :
    acts r h (u :: us) = acts r h us ++ (act? r h u.agenda).toList := filterMap_reverse_cons _ u us

/-- Only a navigation of the router asks it for a path. -/
theorem request?_eq_none {task : Task} (h : ∀ path, task ≠ .navigate r path) (rest : List Task) :
    request? r (task :: rest) = none := by
  unfold request?
  split
  · rename_i r' path _ heq
    obtain ⟨rfl, _⟩ := List.cons.inj heq
    exact if_neg (fun hr => h path (by rw [hr]))
  · rfl

/-- A part of a navigation is a resolve with the push of its path behind it, or a push, and the rest of the navigation comes
after. -/
theorem act?_eq_some {tasks : List Task} {change : Change} (hact : act? r h tasks = some change) :
    (∃ path rest, tasks = .resolve r path :: .push h path :: .drain r :: rest ∧ change = .resolved path) ∨
      ∃ path rest, tasks = .push h path :: .drain r :: rest ∧ change = .pushed path := by
  unfold act? at hact
  split at hact
  · split at hact
    · rename_i heq
      obtain ⟨rfl, rfl, rfl, rfl⟩ := heq
      exact Or.inl ⟨_, _, rfl, (Option.some.inj hact).symm⟩
    · cases hact
  · split at hact
    · rename_i heq
      obtain ⟨rfl, rfl⟩ := heq
      exact Or.inr ⟨_, _, rfl, (Option.some.inj hact).symm⟩
    · cases hact
  · cases hact

/-! ## What stands before a navigation -/

/-- Tasks that stand before those of a navigation of a router and cannot be taken for a part of it. -/
def Covers (r : Nat) (tasks : List Task) : Prop :=
  .drain r ∉ tasks ∧ ∀ task, tasks.getLast? = some task → ¬task.IsBare

/-- An empty agenda has nothing to cover. -/
theorem covers_nil (r : Nat) : Covers r [] := ⟨List.not_mem_nil, fun _ h => by cases h⟩

/-- A task that could not be taken for a part of a navigation, and does not end one, covers it. -/
theorem covers_singleton {task : Task} (hdrain : task ≠ .drain r) (hbare : ¬task.IsBare) : Covers r [task] := by
  refine ⟨fun hm => hdrain (List.mem_singleton.1 hm).symm, ?_⟩
  rintro _ ⟨⟩
  exact hbare

/-- Tasks from outside can stand before a navigation. -/
theorem Covers.outside {tasks above : List Task} (h : Covers r above) (htasks : ∀ task ∈ tasks, task.IsOutside) :
    Covers r (tasks ++ above) := by
  constructor
  · intro hm
    rcases List.mem_append.1 hm with hm | hm
    · exact htasks _ hm
    · exact h.1 hm
  · intro task hlast
    rw [List.getLast?_append] at hlast
    cases habove : above.getLast? with
    | some last =>
      rw [habove] at hlast
      exact h.2 task (habove.trans hlast)
    | none =>
      rw [habove, Option.none_or] at hlast
      have houtside := htasks task (List.mem_of_getLast? hlast)
      cases task <;> first
        | exact houtside.elim
        | exact not_false

/-- What a task leads to can stand before a navigation where the task could, unless it begins a navigation itself. -/
theorem Covers.leads {task : Task} {above new : List Task} (h : Covers r (task :: above)) (hleads : Leads s task new)
    (hnavigate : ∀ path, task = .navigate r path → new = []) : Covers r (new ++ above) := by
  have hdrain : task ≠ .drain r := fun e => h.1 (e ▸ List.mem_cons_self ..)
  have hnew : .drain r ∉ new ∧ (¬task.IsBare → ∀ last, new.getLast? = some last → ¬last.IsBare) := by
    cases hleads with
    | nothing => exact ⟨List.not_mem_nil, fun _ _ hl => by cases hl⟩
    | command nested c =>
      constructor
      · intro hm
        rcases List.mem_append.1 hm with hm | hm
        · exact isAsking_plan s c.step _ hm
        · cases List.mem_singleton.1 hm
      · intro _ last hl
        rw [List.getLast?_append, List.getLast?_singleton] at hl
        obtain rfl := Option.some.inj hl
        exact not_false
    | navigated path hrouter hidle =>
      rename_i r' router
      have hne : r ≠ r' := fun e => by cases hnavigate path (e ▸ rfl)
      refine ⟨by simpa using hne, fun _ last hl => ?_⟩
      obtain rfl := Option.some.inj hl
      exact not_false
    | drained hrouter hqueue =>
      rename_i r' router path later
      have hne : r ≠ r' := fun e => hdrain (e ▸ rfl)
      refine ⟨by simpa using hne, fun _ last hl => ?_⟩
      obtain rfl := Option.some.inj hl
      exact not_false
    | followed r' path => exact ⟨by simp, fun hbare => absurd trivial hbare⟩
    | _ =>
      refine ⟨by simp, fun _ last hl => ?_⟩
      obtain rfl := Option.some.inj hl
      exact not_false
  constructor
  · intro hm
    rcases List.mem_append.1 hm with hm | hm
    · exact hnew.1 hm
    · exact h.1 (List.mem_cons_of_mem _ hm)
  · intro last hlast
    rw [List.getLast?_append] at hlast
    cases habove : above with
    | nil =>
      rw [habove, List.getLast?_nil, Option.none_or] at hlast
      refine hnew.2 ?_ last hlast
      exact h.2 task (by rw [habove]; rfl)
    | cons next later =>
      refine h.2 last ?_
      rw [habove, List.getLast?_cons_cons]
      rw [habove, List.getLast?_eq_some_getLast (List.cons_ne_nil next later), Option.some_or] at hlast
      rw [List.getLast?_eq_some_getLast (List.cons_ne_nil next later)]
      exact hlast

/-- With tasks before it, a navigation does not go on. -/
theorem Covers.act?_eq_none {above : List Task} (h : Covers r above) (habove : above ≠ []) (k : Nat) (below : List Task) :
    act? r k (above ++ below) = none := by
  obtain ⟨hdrain, hlast⟩ := h
  cases hact : act? r k (above ++ below) with
  | none => rfl
  | some change =>
    exfalso
    rcases act?_eq_some hact with ⟨path, rest, hagenda, _⟩ | ⟨path, rest, hagenda, _⟩
    · rcases above with _ | ⟨first, _ | ⟨second, _ | ⟨third, above⟩⟩⟩
      · exact habove rfl
      · obtain ⟨rfl, _⟩ := List.cons.inj hagenda
        exact hlast _ rfl trivial
      · obtain ⟨_, hagenda⟩ := List.cons.inj hagenda
        obtain ⟨rfl, _⟩ := List.cons.inj hagenda
        exact hlast _ rfl trivial
      · obtain ⟨_, hagenda⟩ := List.cons.inj hagenda
        obtain ⟨_, hagenda⟩ := List.cons.inj hagenda
        obtain ⟨rfl, _⟩ := List.cons.inj hagenda
        exact hdrain (by simp)
    · rcases above with _ | ⟨first, _ | ⟨second, above⟩⟩
      · exact habove rfl
      · obtain ⟨rfl, _⟩ := List.cons.inj hagenda
        exact hlast _ rfl trivial
      · obtain ⟨_, hagenda⟩ := List.cons.inj hagenda
        obtain ⟨rfl, _⟩ := List.cons.inj hagenda
        exact hdrain (by simp)

/-! ## Navigations -/

/-- A navigation of a router is on its way: it is at a path, other paths are queued, and what was done is what had to be
done with the paths before. -/
def IsMidway (r h : Nat) (rest : List Task) (us : List Session) (t : Session) : Prop :=
  ∃ routes queue done path above left did, t.course? r = some ⟨routes, h, true, queue⟩ ∧ Covers r above ∧
    Stage r h path left did ∧ t.agenda = above ++ (left ++ rest) ∧ requests r us = done ++ path :: queue ∧
    acts r h us = done.flatMap deeds ++ did

/-- A navigation of a router is over: all that had to be done was done, and nothing is queued. -/
def IsOver (r h : Nat) (rest : List Task) (us : List Session) (t : Session) : Prop :=
  t.agenda = rest ∧ acts r h us = (requests r us).flatMap deeds ∧
    ∃ routes, t.course? r = some ⟨routes, h, false, []⟩

/-- What stands before a navigation is done, or more comes to stand there. A request that is made meanwhile is queued. -/
theorem IsMidway.above {rest above : List Task} {task : Task} {routes : List Route} {queue done : List Text}
    {path : Text} {left : List Task} {did : List Change} (hcourse : t.course? r = some ⟨routes, h, true, queue⟩)
    (hcovers : Covers r (task :: above)) (hstage : Stage r h path left did)
    (hagenda : t.agenda = task :: (above ++ (left ++ rest))) (hrequests : requests r us = done ++ path :: queue)
    (hacts : acts r h us = done.flatMap deeds ++ did) :
    IsMidway r h rest (t :: us) (({ t with agenda := above ++ (left ++ rest) } : Session).perform task).sweep := by
  let popped : Session := { t with agenda := above ++ (left ++ rest) }
  have hpopped : popped.course? r = some ⟨routes, h, true, queue⟩ := hcourse
  have hnot : act? r h t.agenda = none := by
    rw [hagenda]
    exact hcovers.act?_eq_none (List.cons_ne_nil _ _) h (left ++ rest)
  have hacts' : acts r h (t :: us) = done.flatMap deeds ++ did := by
    rw [acts_cons, hnot, hacts, Option.toList_none, List.append_nil]
  obtain ⟨new, hnew, hleads⟩ := leads_perform popped task
  have hagenda' : (popped.perform task).sweep.agenda = (new ++ above) ++ (left ++ rest) := by
    rw [List.append_assoc]
    exact hnew
  have hdrain : task ≠ .drain r := fun e => hcovers.1 (e ▸ List.mem_cons_self ..)
  by_cases hasks : ∃ asked, task = .navigate r asked
  · obtain ⟨asked, rfl⟩ := hasks
    have hnone : new = [] := by
      cases hleads with
      | nothing => rfl
      | navigated _ hrouter hidle =>
        rw [course?, hrouter] at hpopped
        cases hidle.symm.trans (congrArg Course.navigating (Option.some.inj hpopped))
    refine ⟨routes, queue ++ [asked], done, path, new ++ above, left, did, ?_, ?_, hstage, hagenda', ?_, hacts'⟩
    · rw [course?_sweep]
      exact (navigate_of_navigating hpopped rfl asked).1
    · exact hcovers.leads hleads (fun _ _ => hnone)
    · rw [requests_cons, hrequests, hagenda, request?, if_pos rfl]
      simp
  · have hother : ∀ asked, task ≠ .navigate r asked := fun asked e => hasks ⟨asked, e⟩
    refine ⟨routes, queue, done, path, new ++ above, left, did, ?_, ?_, hstage, hagenda', ?_, hacts'⟩
    · rw [course?_sweep]
      exact course?_perform hpopped hother hdrain
    · exact hcovers.leads hleads (fun asked e => absurd e (hother asked))
    · rw [requests_cons, hrequests, hagenda, request?_eq_none hother, Option.toList_none, List.append_nil]

/-- A navigation goes on with its next part. The last part begins with the next path that is queued, or ends it all. -/
theorem IsMidway.next {rest below left : List Task} {task : Task} {routes : List Route} {queue done : List Text}
    {path : Text} {did : List Change} (hcourse : t.course? r = some ⟨routes, h, true, queue⟩)
    (hstage : Stage r h path left did) (hagenda : t.agenda = left ++ rest) (hhead : t.agenda = task :: below)
    (hrequests : requests r us = done ++ path :: queue) (hacts : acts r h us = done.flatMap deeds ++ did) :
    IsMidway r h rest (t :: us) (({ t with agenda := below } : Session).perform task).sweep ∨
      IsOver r h rest (t :: us) (({ t with agenda := below } : Session).perform task).sweep := by
  let popped : Session := { t with agenda := below }
  have hpopped : popped.course? r = some ⟨routes, h, true, queue⟩ := hcourse
  have hrequests' : (∀ asked, task ≠ .navigate r asked) → requests r (t :: us) = done ++ path :: queue := by
    intro hother
    rw [requests_cons, hrequests, hhead, request?_eq_none hother, Option.toList_none, List.append_nil]
  cases hstage with
  | asked =>
    obtain ⟨rfl, rfl⟩ := List.cons.inj (hhead.symm.trans hagenda)
    obtain ⟨new, hnew, hleads⟩ := leads_resolve popped r path
    have hcovers : Covers r new := by
      cases hleads with
      | nothing => exact covers_nil r
      | resolved => exact covers_singleton (by simp) not_false
    refine Or.inl ⟨routes, queue, done, path, new, _, _, ?_, hcovers, Stage.resolved, hnew, ?_, ?_⟩
    · rw [course?_sweep]
      exact (course?_resolve popped r path r).trans hpopped
    · exact hrequests' (by simp)
    · rw [acts_cons, hacts, hagenda]
      simp [act?]
  | resolved =>
    obtain ⟨rfl, rfl⟩ := List.cons.inj (hhead.symm.trans hagenda)
    obtain ⟨new, hnew, hleads⟩ := leads_push popped h path
    have hcovers : Covers r new := by
      cases hleads with
      | nothing => exact covers_nil r
      | announced => exact covers_singleton (by simp) not_false
    refine Or.inl ⟨routes, queue, done, path, new, _, _, ?_, hcovers, Stage.pushed, hnew, ?_, ?_⟩
    · have hkept : (popped.perform (.push h path)).course? r = _ := course?_perform hpopped (by simp) (by simp)
      rw [course?_sweep]
      exact hkept
    · exact hrequests' (by simp)
    · rw [acts_cons, hacts, hagenda]
      simp [act?]
  | pushed =>
    obtain ⟨rfl, rfl⟩ := List.cons.inj (hhead.symm.trans hagenda)
    have hacts' : acts r h (t :: us) = (done ++ [path]).flatMap deeds := by
      rw [acts_cons, hacts, hagenda]
      simp [act?, deeds]
    cases queue with
    | nil =>
      obtain ⟨hends, hleft⟩ := drain_of_nil hpopped rfl
      refine Or.inr ⟨hleft, ?_, routes, ?_⟩
      · rw [hacts', hrequests' (by simp)]
      · rw [course?_sweep]
        exact hends
    | cons next later =>
      obtain ⟨hgoes, hleft⟩ := drain_of_cons hpopped rfl
      refine Or.inl ⟨routes, later, done ++ [path], next, [], _, _, ?_, covers_nil r, Stage.asked, hleft, ?_, ?_⟩
      · rw [course?_sweep]
        exact hgoes
      · rw [hrequests' (by simp), List.append_assoc]
        rfl
      · rw [hacts', List.append_nil]

/-- A navigation that is on its way is still on its way after a step, or it is over. -/
theorem IsMidway.step {rest : List Task} (hmidway : IsMidway r h rest us t) {t' : Session} (hstep : t.step? = some t') :
    IsMidway r h rest (t :: us) t' ∨ IsOver r h rest (t :: us) t' := by
  obtain ⟨routes, queue, done, path, above, left, did, hcourse, hcovers, hstage, hagenda, hrequests, hacts⟩ := hmidway
  obtain ⟨task, below, hhead, rfl⟩ := (step?_eq_some_iff t t').1 hstep
  cases above with
  | nil => exact IsMidway.next hcourse hstage hagenda hhead hrequests hacts
  | cons first above =>
    obtain ⟨rfl, rfl⟩ := List.cons.inj (hhead.symm.trans hagenda)
    exact Or.inl (IsMidway.above hcourse hcovers hstage hagenda hrequests hacts)

/-- Whatever callbacks, histories and executors do, a navigation that was begun is on its way or over. -/
theorem IsMidway.callRun {rest : List Task} {vs : List Session} (hmidway : IsMidway r h rest us s)
    (hrun : CallRun rest s vs t) : IsMidway r h rest (vs ++ us) t ∨ IsOver r h rest (vs ++ us) t := by
  induction hrun with
  | start => exact Or.inl hmidway
  | step hbefore hrunning hstep ih =>
    rcases ih with hmidway | hover
    · cases hstep with
      | own hown => exact hmidway.step hown
      | told c hidle =>
        obtain ⟨routes, queue, done, path, above, left, did, _, _, hstage, hagenda, _, _⟩ := hmidway
        rw [hidle] at hagenda
        cases hstage <;> simp at hagenda
      | outside histories _ pool _ tasks htasks =>
        obtain ⟨routes, queue, done, path, above, left, did, hcourse, hcovers, hstage, hagenda, hrest⟩ := hmidway
        refine Or.inl ⟨routes, queue, done, path, tasks ++ above, left, did, hcourse, hcovers.outside htasks, hstage, ?_,
          hrest⟩
        rw [List.append_assoc, ← hagenda]
        rfl
    · exact absurd hover.1 hrunning

/-! ## Queues -/

/-- A router that navigates has the rest of the navigation among the tasks, and any other one has nothing queued. -/
def IsOrderly (t : Session) : Prop :=
  ∀ r course, t.course? r = some course →
    (course.navigating = true → .drain r ∈ t.agenda) ∧ (course.navigating = false → course.queue = [])

/-- At the start no router is navigating. -/
theorem isOrderly_empty : IsOrderly Session.empty := by
  intro r course hcourse
  cases hcourse

/-- A task leaves the queues in order. -/
theorem IsOrderly.perform {rest : List Task} {task : Task} (h : IsOrderly t) (hagenda : t.agenda = task :: rest) :
    IsOrderly (({ t with agenda := rest } : Session).perform task) := by
  let popped : Session := { t with agenda := rest }
  obtain ⟨new, hnew, hleads⟩ := leads_perform popped task
  intro r course hcourse
  rw [hnew]
  have hold : task ≠ .drain r → .drain r ∈ t.agenda → .drain r ∈ new ++ rest := by
    intro hdrain hm
    rw [hagenda] at hm
    exact List.mem_append_right new ((List.mem_cons.1 hm).resolve_left (Ne.symm hdrain))
  cases hbefore : popped.course? r with
  | none =>
    obtain ⟨hidle, hqueue⟩ := course?_of_none hbefore hcourse
    exact ⟨fun hnavigating => absurd (hidle.symm.trans hnavigating) (by simp), fun _ => hqueue⟩
  | some before =>
    obtain ⟨hdraining, hempty⟩ := h r before hbefore
    by_cases hdrain : task = .drain r
    · subst hdrain
      cases hqueue : before.queue with
      | nil =>
        obtain rfl := Option.some.inj ((drain_of_nil hbefore hqueue).1.symm.trans hcourse)
        exact ⟨fun hnavigating => (by cases hnavigating), fun _ => hqueue⟩
      | cons path later =>
        obtain ⟨hgoes, hleft⟩ := drain_of_cons hbefore hqueue
        obtain rfl := Option.some.inj (hgoes.symm.trans hcourse)
        refine ⟨fun _ => ?_, fun hidle => absurd (hempty hidle) (by simp [hqueue])⟩
        rw [← hnew, Session.perform, hleft]
        simp
    · by_cases hasks : ∃ path, task = .navigate r path
      · obtain ⟨path, rfl⟩ := hasks
        cases hnavigating : before.navigating with
        | true =>
          obtain rfl := Option.some.inj ((navigate_of_navigating hbefore hnavigating path).1.symm.trans hcourse)
          exact ⟨fun _ => hold hdrain (hdraining hnavigating),
            fun hidle => absurd (hnavigating.symm.trans hidle) (by simp)⟩
        | false =>
          obtain ⟨hbegins, hleft⟩ := navigate_of_idle hbefore hnavigating path
          obtain rfl := Option.some.inj (hbegins.symm.trans hcourse)
          refine ⟨fun _ => ?_, fun hidle => by cases hidle⟩
          rw [← hnew, Session.perform, hleft]
          simp
      · have hother : ∀ path, task ≠ .navigate r path := fun path e => hasks ⟨path, e⟩
        obtain rfl := Option.some.inj ((course?_perform hbefore hother hdrain).symm.trans hcourse)
        exact ⟨fun hnavigating => hold hdrain (hdraining hnavigating), hempty⟩

/-- The queues are in order along every run. -/
theorem OpenRun.isOrderly (h : OpenRun Session.empty us t) : IsOrderly t := by
  induction h with
  | start => exact isOrderly_empty
  | step hbefore hstep ih =>
    cases hstep with
    | own hown =>
      obtain ⟨task, rest, hagenda, rfl⟩ := (step?_eq_some_iff _ _).1 hown
      intro r course hcourse
      rw [course?_sweep] at hcourse
      exact ih.perform hagenda r course hcourse
    | told c hidle =>
      intro r course hcourse
      obtain ⟨hdraining, hempty⟩ := ih r course hcourse
      refine ⟨fun hnavigating => ?_, hempty⟩
      have hm := hdraining hnavigating
      rw [hidle] at hm
      cases hm
    | outside histories _ pool _ tasks _ =>
      intro r course hcourse
      obtain ⟨hdraining, hempty⟩ := ih r course hcourse
      exact ⟨fun hnavigating => List.mem_append_right tasks (hdraining hnavigating), hempty⟩

/-- Whatever callbacks, histories and executors do meanwhile, a navigation of an idle router that returns did all
navigations it was asked for, in order, each once and in one piece, and it left nothing queued. -/
theorem isOver_of_navigate {router : Router} {path : Text} {rest : List Task} {us₀ : List Session} {s' : Session}
    (hrun : OpenRun Session.empty us₀ s) (hnavigate : s.agenda = .navigate r path :: rest)
    (hrouter : s.routers[r]? = some router) (hidle : router.navigating = false) (hstep : s.step? = some s')
    (hcall : CallRun rest s' us t) (hreturn : t.agenda = rest) : IsOver r router.history rest (us ++ [s]) t := by
  have hcourse : s.course? r = some router.course := congrArg (Option.map Router.course) hrouter
  have hqueue : router.queue = [] := (hrun.isOrderly r _ hcourse).2 hidle
  obtain ⟨task, below, hhead, rfl⟩ := (step?_eq_some_iff s s').1 hstep
  obtain ⟨rfl, rfl⟩ := List.cons.inj (hnavigate.symm.trans hhead)
  have hbegun : IsMidway r router.history rest [s]
      (({ s with agenda := rest } : Session).perform (.navigate r path)).sweep := by
    obtain ⟨hbegins, hleft⟩ := navigate_of_idle (s := { s with agenda := rest }) hcourse hidle path
    refine ⟨router.routes, [], [], path, [], _, _, ?_, covers_nil r, Stage.asked, hleft, ?_, ?_⟩
    · rw [course?_sweep, ← hqueue]
      exact hbegins
    · simp [requests, hnavigate, request?]
    · simp [acts, hnavigate, act?]
  rcases hbegun.callRun hcall with hmidway | hover
  · obtain ⟨_, _, _, _, above, left, _, _, _, hstage, hagenda, _, _⟩ := hmidway
    have hlength := congrArg List.length (hreturn.symm.trans hagenda)
    cases hstage <;> simp at hlength <;> omega
  · exact hover

end Session

end PathRouting
