import PathRouting.Proofs.Navigations
import PathRouting.Proofs.Observed

/-!
# Whether a router agrees with its history

A router that is alone with its history shows what the path resolves to that it resolved last, and the history is at the
entry that it was moved to or that was added last. Statements: the two agree whenever nothing is left to do, except where
an observer moved the history between the two halves of the last navigation.
-/

namespace PathRouting

namespace Change

/-- The path that was resolved last: by a navigation, or because the history had moved to it. The latest change comes
first. -/
def shownPath (start : Text) : List Change → Text
  | [] => start
  | .resolved path :: _ => path
  | .moved path :: _ => path
  | .pushed _ :: older => shownPath start older

/-- The path of the entry that the history is at. -/
def entryPath (start : Text) : List Change → Text
  | [] => start
  | .resolved _ :: older => entryPath start older
  | .moved path :: _ => path
  | .pushed path :: _ => path

end Change

namespace Session

variable {s t : Session} {us : List Session}

/-- The move that the first task makes on a history, if there is an entry to move to. -/
def movement? (h : Nat) (s : Session) : Option Change :=
  match s.agenda with
  | .move h' onward :: _ =>
    if h' = h then (s.moved? h onward).map (fun trail => .moved trail.current) else none
  | _ => none

/-- What the first task does to a router and its history. -/
def changeOf? (r h : Nat) (s : Session) : Option Change := (act? r h s.agenda).or (s.movement? h)

/-- What happened between a router and its history in a run, the latest first. -/
def changes (r h : Nat) (us : List Session) : List Change := us.filterMap (changeOf? r h)

theorem changes_cons (r h : Nat) (u : Session) (us : List Session) :
    changes r h (u :: us) = (changeOf? r h u).toList ++ changes r h us := by
  rw [changes, List.filterMap_cons]
  cases changeOf? r h u <;> rfl

/-- The router shows what the entry resolves to that the history is at. -/
def Agrees (s : Session) (r h : Nat) : Prop :=
  ∃ router history, s.routers[r]? = some router ∧ s.histories[h]? = some history ∧
    s.active? r = Route.resolve router.routes history.trail.current

end Session

/-- A router and its history that are watched together: their places, the key that the router listens with, its routes,
and the entry that the history was at when one began to watch. -/
structure Watch where
  router : Nat
  history : Nat
  key : Nat
  routes : List Route
  start : Text

namespace Watch

open Session

variable {w : Watch} {s t : Session} {us : List Session} {moves navigating : Bool} {queue : List Text}
  {cs : List Change}

/-- What a move of the history leads to, up to the task that resolves the path on the router. -/
inductive Turn (w : Watch) (path : Text) : List Task → Prop
  | moved : Turn w path [.notify (.history w.history) path]
  | round : Turn w path [.round (.history w.history) [(w.key, .follow w.router)] path]
  | called : Turn w path [.call (.follow w.router) path, .round (.history w.history) [] path]
  | resolving : Turn w path [.resolve w.router path, .round (.history w.history) [] path]

/-- The router navigates or not, and the history has the router as its only listener and is where the changes put it. -/
structure Stands (w : Watch) (navigating : Bool) (queue : List Text) (cs : List Change) (s : Session) : Prop where
  course : s.course? w.router = some ⟨w.routes, w.history, navigating, queue⟩
  sole : ∃ history, IsSole s w.router w.history w.key history ∧ history.trail.current = Change.entryPath w.start cs

/-- The router shows what it resolved last, or the first tasks will make it resolve what the history has moved to. -/
inductive Follows (w : Watch) (cs : List Change) (s : Session) : List Task → Prop
  | shows (hactive : s.active? w.router = Route.resolve w.routes (Change.shownPath w.start cs)) : Follows w cs s []
  | turns {path : Text} {older : List Change} {turn : List Task} (hmoved : cs = .moved path :: older)
      (hturn : Turn w path turn) : Follows w cs s turn

/-! ## What keeps the two where they are -/

/-- The router is there, with its routes and its history. -/
theorem Stands.exists_router (h : w.Stands navigating queue cs s) :
    ∃ router, s.routers[w.router]? = some router ∧ router.routes = w.routes ∧ router.history = w.history := by
  obtain ⟨router, hrouter, hcourse⟩ := Option.map_eq_some_iff.1 h.course
  exact ⟨router, hrouter, congrArg Course.routes hcourse, congrArg Course.history hcourse⟩

/-- What leaves the histories as they are changes nothing but how the router navigates. -/
theorem Stands.congr {navigating' : Bool} {queue' : List Text} (h : w.Stands navigating queue cs s)
    (hcourse : t.course? w.router = some ⟨w.routes, w.history, navigating', queue'⟩)
    (hhistories : t.histories = s.histories) : w.Stands navigating' queue' cs t where
  course := hcourse
  sole := by
    obtain ⟨history, hsole, hcurrent⟩ := h.sole
    exact ⟨history, hsole.congr (by rw [hhistories]), hcurrent⟩

/-- The router and its history stand as they did after the rest has ended, if the router lives. -/
theorem Stands.sweep (h : w.Stands navigating queue cs s) (halive : s.sweep.isAlive w.router = true) :
    w.Stands navigating queue cs s.sweep where
  course := (course?_sweep s w.router).trans h.course
  sole := by
    obtain ⟨history, hsole, hcurrent⟩ := h.sole
    obtain ⟨router, hrouter, _, hhistory⟩ := h.exists_router
    exact ⟨history, hsole.sweep halive hrouter hhistory, hcurrent⟩

/-- What is active is the same after the rest has ended. -/
theorem Follows.sweep {turn : List Task} (h : w.Follows cs s turn) : w.Follows cs s.sweep turn := by
  cases h with
  | shows hactive => exact Follows.shows ((active?_sweep s w.router).trans hactive)
  | turns hmoved hturn => exact Follows.turns hmoved hturn

/-- Only what is active matters. -/
theorem Follows.congr {turn : List Task} (h : w.Follows cs s turn) (hactive : t.active? w.router = s.active? w.router) :
    w.Follows cs t turn := by
  cases h with
  | shows hshows => exact Follows.shows (hactive.trans hshows)
  | turns hmoved hturn => exact Follows.turns hmoved hturn

/-- A task that steers no router leaves what is active. -/
theorem active?_perform {r : Nat} {task : Task} (hsteering : task.isSteering = false) :
    (s.perform task).active? r = s.active? r := by
  obtain ⟨hdesks, hresolutions⟩ := desks_perform s hsteering
  exact active?_congr (by rw [faces_eq_desks, faces_eq_desks, hdesks]) hresolutions r

/-- What leaves the two alone, but for navigations and moves, keeps them. -/
theorem Stands.perform {task : Task} (h : w.Stands navigating queue cs s) (hregistered : Registered s)
    (hspares : task.Spares w.router w.history moves) (hnavigate : ∀ path, task ≠ .navigate w.router path)
    (hmove : ∀ onward, task ≠ .move w.history onward) : w.Stands navigating queue cs (s.perform task) ∧
      (s.perform task).active? w.router = s.active? w.router := by
  have hdrain : task ≠ .drain w.router := by
    rintro rfl
    exact hspares
  have hsteering : task.isSteering = false := by
    cases task with
    | navigate r path => exact absurd (congrArg (Task.navigate · path) hspares) (hnavigate path)
    | openRouter => exact hspares.elim
    | resolve => exact hspares.elim
    | drain => exact hspares.elim
    | _ => rfl
  obtain ⟨history, hsole, hcurrent⟩ := h.sole
  exact ⟨⟨course?_perform h.course hnavigate hdrain, history, hsole.perform hregistered hspares hmove, hcurrent⟩,
    active?_perform hsteering⟩

/-- A move takes the history to another entry, and its notification comes next. -/
theorem Stands.move {trail : Trail} {onward : Bool} (h : w.Stands navigating queue cs s)
    (hmoved : s.moved? w.history onward = some trail) :
    w.Stands navigating queue (.moved trail.current :: cs) (s.move w.history onward) ∧
      (s.move w.history onward).agenda = .notify (.history w.history) trail.current :: s.agenda := by
  obtain ⟨history, hsole, _⟩ := h.sole
  have hperformed : (s.perform (.move w.history onward)).course? w.router = _ :=
    course?_perform h.course (by simp) (by simp)
  refine ⟨⟨hperformed, { history with trail := trail }, ⟨?_, hsole.announces, hsole.alive, hsole.entries⟩, rfl⟩, ?_⟩
  · simp only [Session.move, hmoved]
    change (s.histories.modify w.history _)[w.history]? = _
    rw [List.getElem?_modify_eq, hsole.found]
    rfl
  · simp only [Session.move, hmoved]
    rfl

/-- A navigation during another one is queued. -/
theorem Stands.queued (h : w.Stands true queue cs s) (path : Text) :
    w.Stands true (queue ++ [path]) cs (s.navigate w.router path) :=
  h.congr (navigate_of_navigating h.course rfl path).1 (histories_navigate s w.router path)

/-- A navigation that begins is in progress from then on. -/
theorem Stands.begun (h : w.Stands false queue cs s) (path : Text) :
    w.Stands true queue cs (s.navigate w.router path) :=
  h.congr (navigate_of_idle h.course rfl path).1 (histories_navigate s w.router path)

/-- A navigation is over when none is queued. -/
theorem Stands.ended (h : w.Stands navigating [] cs s) : w.Stands false [] cs (s.drain w.router) :=
  h.congr (drain_of_nil h.course rfl).1 (histories_drain s w.router)

/-- The navigation that was queued first is taken up next. -/
theorem Stands.continued {path : Text} (h : w.Stands navigating (path :: queue) cs s) :
    w.Stands navigating queue cs (s.drain w.router) :=
  h.congr (drain_of_cons h.course rfl).1 (histories_drain s w.router)

/-- A path that is resolved on the router is what the router shows, and its observers are told. -/
theorem Stands.resolve (h : w.Stands navigating queue cs s) (path : Text) :
    w.Stands navigating queue cs (s.resolve w.router path) ∧
      (s.resolve w.router path).active? w.router = Route.resolve w.routes path ∧
      (s.resolve w.router path).agenda = .notify (.router w.router) path :: s.agenda := by
  obtain ⟨router, hrouter, hroutes, _⟩ := h.exists_router
  have hcourse := (course?_resolve s w.router path w.router).trans h.course
  refine ⟨h.congr hcourse ?_, ?_⟩
  · simp only [Session.resolve, hrouter]
    cases Route.resolve router.routes path <;> rfl
  simp only [Session.resolve, hrouter, hroutes]
  constructor
  · exact active?_activate (s.recordLogs _) hrouter _
  · exact congrArg (Task.notify (.router w.router) path :: ·) (agenda_activate _ _ _)

/-- An entry that is added is where the history is then. Nobody is told. -/
theorem Stands.push (h : w.Stands navigating queue cs s) (hregistered : Registered s) (path : Text) :
    w.Stands navigating queue (.pushed path :: cs) (s.push w.history path) ∧
      (s.push w.history path).agenda = s.agenda := by
  obtain ⟨history, hsole, _⟩ := h.sole
  have hperformed : (s.perform (.push w.history path)).course? w.router = _ :=
    course?_perform h.course (by simp) (by simp)
  have hsound : history.trail.IsSound := hregistered.trails history (List.mem_of_getElem? hsole.found)
  have hcurrent : (history.trail.push path).current = path := by
    unfold Trail.IsSound at hsound
    simp only [Trail.current, Trail.current?, Trail.push]
    rw [List.getElem?_append_right (by rw [List.length_take]; omega), List.length_take,
      Nat.min_eq_left (by omega), Nat.sub_self]
    rfl
  have hpushed : s.push w.history path =
      s.withHistory w.history (fun g => { g with trail := g.trail.push path }) := by
    simp only [Session.push, hsole.found, hsole.announces]
    rfl
  refine ⟨⟨hperformed, { history with trail := history.trail.push path }, ⟨?_, hsole.announces, hsole.alive,
    hsole.entries⟩, hcurrent⟩, ?_⟩
  · rw [hpushed]
    change (s.histories.modify w.history _)[w.history]? = _
    rw [List.getElem?_modify_eq, hsole.found]
    rfl
  · rw [hpushed]
    rfl

/-! ## Where callbacks act -/

/-- Callbacks act before some tasks: first of all the router follows the history, if it has to, and everything else
leaves the two alone. A router that does not navigate has nothing queued. -/
def Open (w : Watch) (moves navigating : Bool) (below : List Task) (cs : List Change) (s : Session) : Prop :=
  ∃ turn above queue, s.agenda = turn ++ (above ++ below) ∧ w.Stands navigating queue cs s ∧ w.Follows cs s turn ∧
    (∀ task ∈ above, task.Spares w.router w.history moves) ∧ (navigating = false → queue = [])

/-- What leaves the two alone is neither a part of a navigation nor, unless it is one, a move. -/
theorem changeOf?_eq_none {task : Task} {rest : List Task} (hagenda : s.agenda = task :: rest)
    (hresolve : ∀ path, task ≠ .resolve w.router path) (hpush : ∀ path, task ≠ .push w.history path)
    (hmove : ∀ onward, task ≠ .move w.history onward) : changeOf? w.router w.history s = none := by
  have hact : act? w.router w.history s.agenda = none := by
    cases hact : act? w.router w.history s.agenda with
    | none => rfl
    | some change =>
      rcases act?_eq_some hact with ⟨path, later, heq, _⟩ | ⟨path, later, heq, _⟩
      · exact absurd (List.cons.inj (hagenda.symm.trans heq)).1 (hresolve path)
      · exact absurd (List.cons.inj (hagenda.symm.trans heq)).1 (hpush path)
  have hmovement : s.movement? w.history = none := by
    unfold movement?
    rw [hagenda]
    split
    · rename_i h' onward _ heq
      obtain ⟨rfl, _⟩ := List.cons.inj heq
      exact if_neg (fun e => hmove onward (by rw [e]))
    · rfl
  rw [changeOf?, hact, hmovement]
  rfl

/-- The router follows a move of its history. -/
theorem Stands.turn {path : Text} {older : List Change} {turn below : List Task} {task : Task}
    (h : w.Stands navigating queue cs s) (hmoved : cs = .moved path :: older) (hturn : w.Turn path (task :: turn))
    (hagenda : s.agenda = turn ++ below) (halive : s.isAlive w.router = true) :
    ∃ turn' above', (s.perform task).agenda = turn' ++ (above' ++ below) ∧ w.Stands navigating queue cs (s.perform task) ∧
      w.Follows cs (s.perform task) turn' ∧ ∀ next ∈ above', next.Spares w.router w.history false := by
  have hnothing : ∀ next ∈ ([] : List Task), next.Spares w.router w.history false :=
    fun _ hm => absurd hm List.not_mem_nil
  have hkept : task.isSteering = false → (s.perform task).histories = s.histories →
      w.Stands navigating queue cs (s.perform task) := by
    intro hquiet hhistories
    refine h.congr (course?_perform h.course ?_ ?_) hhistories
    · rintro asked rfl
      cases hquiet
    · rintro rfl
      cases hquiet
  cases hturn with
  | moved =>
    obtain ⟨history, hsole, _⟩ := h.sole
    have hcallbacks : s.callbacks (.history w.history) = [(w.key, .follow w.router)] := by
      simp only [callbacks, registry?, hsole.found, hsole.alive, if_true, hsole.entries]
    refine ⟨[.round (.history w.history) [(w.key, .follow w.router)] path], [], ?_, hkept rfl rfl,
      Follows.turns hmoved Turn.round, hnothing⟩
    simp only [Session.perform, notify, hcallbacks, Session.first, hagenda, List.nil_append]
  | round =>
    refine ⟨[.call (.follow w.router) path, .round (.history w.history) [] path], [], ?_, hkept rfl rfl,
      Follows.turns hmoved Turn.called, hnothing⟩
    simp only [Session.perform, Session.round, Session.first, hagenda, List.nil_append]
  | called =>
    refine ⟨[.resolve w.router path, .round (.history w.history) [] path], [], ?_, ?_,
      Follows.turns hmoved Turn.resolving, hnothing⟩
    · simp only [Session.perform, call, halive, if_true, Session.first, hagenda]
      rfl
    · refine hkept rfl ?_
      simp only [Session.perform, call, halive, if_true]
      rfl
  | resolving =>
    obtain ⟨hstands, hactive, hafter⟩ := h.resolve path
    refine ⟨[], [.notify (.router w.router) path, .round (.history w.history) [] path], ?_, hstands, ?_, ?_⟩
    · rw [Session.perform, hafter, hagenda]
      rfl
    · refine Follows.shows (hactive.trans ?_)
      rw [hmoved]
      rfl
    · simp [Task.Spares]

/-- Inside a turn nothing is pushed and no path is resolved. -/
theorem Turn.changeOf?_eq_none {path : Text} {turn rest : List Task} {task : Task} (hturn : w.Turn path (task :: turn))
    (hagenda : s.agenda = task :: (turn ++ rest)) : changeOf? w.router w.history s = none := by
  cases hturn with
  | moved => exact Watch.changeOf?_eq_none hagenda (by simp) (by simp) (by simp)
  | round => exact Watch.changeOf?_eq_none hagenda (by simp) (by simp) (by simp)
  | called => exact Watch.changeOf?_eq_none hagenda (by simp) (by simp) (by simp)
  | resolving =>
    rw [changeOf?, movement?, hagenda]
    rfl

/-- A router that lives after a task lived before it. -/
theorem Stands.isAlive {task : Task} (h : w.Stands navigating queue cs s)
    (halive : (s.perform task).sweep.isAlive w.router = true) : s.isAlive w.router = true := by
  obtain ⟨router, hrouter, _⟩ := h.exists_router
  rw [isAlive_sweep, Bool.and_eq_true, isAlive_perform s task (List.getElem?_eq_some_iff.1 hrouter).1] at halive
  exact halive.1

/-- What the first task leads to where callbacks act: everything stays open, and the history has moved if it may, or a
navigation of a router that is in none begins. -/
inductive Goes (w : Watch) (moves navigating : Bool) (below : List Task) (cs : List Change) (s t : Session) : Prop
  | stays (hnone : changeOf? w.router w.history s = none) (hopen : w.Open moves navigating below cs t)
  | moved {path : Text} (hmoves : moves = true) (hmoved : changeOf? w.router w.history s = some (.moved path))
      (hopen : w.Open moves navigating below (.moved path :: cs) t)
  | begins {path : Text} {above : List Task} (hidle : navigating = false)
      (hnone : changeOf? w.router w.history s = none) (hstands : w.Stands true [] cs t)
      (hagenda : t.agenda = .resolve w.router path :: .push w.history path :: .drain w.router :: (above ++ below))
      (habove : ∀ task ∈ above, task.Spares w.router w.history moves)

section Goes

variable {above below : List Task}

/-- What tasks are left does not change where the two are. -/
theorem Stands.popped (h : w.Stands navigating queue cs s) (rest : List Task) :
    w.Stands navigating queue cs { s with agenda := rest } := h.congr h.course rfl

/-- The router goes on through a turn, task by task. -/
theorem Stands.goes_turn {task : Task} {turn : List Task} (h : w.Stands navigating queue cs s)
    (hfollows : w.Follows cs s (task :: turn)) (hagenda : s.agenda = task :: (turn ++ (above ++ below)))
    (habove : ∀ next ∈ above, next.Spares w.router w.history moves) (hqueue : navigating = false → queue = [])
    (halive : (({ s with agenda := turn ++ (above ++ below) } : Session).perform task).sweep.isAlive w.router = true) :
    w.Goes moves navigating below cs s (({ s with agenda := turn ++ (above ++ below) } : Session).perform task).sweep := by
  have hpopped := h.popped (turn ++ (above ++ below))
  cases hfollows with
  | turns hmoved hturn =>
    obtain ⟨turn', above', hafter, hstands, hfollows, hspares⟩ :=
      hpopped.turn hmoved hturn rfl (hpopped.isAlive halive)
    refine Goes.stays (hturn.changeOf?_eq_none hagenda)
      ⟨turn', above' ++ above, queue, ?_, hstands.sweep halive, hfollows.sweep, ?_, hqueue⟩
    · rw [List.append_assoc]
      exact hafter
    · intro next hm
      rcases List.mem_append.1 hm with hm | hm
      · exact (hspares next hm).mono (by simp)
      · exact habove next hm

/-- A move of the history opens a turn, which resolves where the history has come to. -/
theorem Stands.goes_move {onward : Bool} (h : w.Stands navigating queue cs s) (hfollows : w.Follows cs s [])
    (hagenda : s.agenda = .move w.history onward :: (above ++ below)) (hmoves : moves = true)
    (habove : ∀ next ∈ above, next.Spares w.router w.history moves) (hqueue : navigating = false → queue = [])
    (halive : (({ s with agenda := above ++ below } : Session).move w.history onward).sweep.isAlive w.router = true) :
    w.Goes moves navigating below cs s (({ s with agenda := above ++ below } : Session).move w.history onward).sweep := by
  let popped : Session := { s with agenda := above ++ below }
  have hpopped : w.Stands navigating queue cs popped := h.popped (above ++ below)
  have hchange : changeOf? w.router w.history s =
      (popped.moved? w.history onward).map (fun trail => .moved trail.current) := by
    rw [changeOf?, movement?, hagenda]
    simp [act?, popped, moved?]
  cases hmoved : popped.moved? w.history onward with
  | none =>
    have hsame : popped.move w.history onward = popped := by simp only [Session.move, hmoved]
    have hopen : w.Open moves navigating below cs (popped.move w.history onward).sweep := by
      have hshows : w.Follows cs popped [] := hfollows.congr rfl
      rw [hsame] at halive ⊢
      exact ⟨[], above, queue, rfl, hpopped.sweep halive, hshows.sweep, habove, hqueue⟩
    exact Goes.stays (by rw [hchange, hmoved]; rfl) hopen
  | some trail =>
    obtain ⟨hstands, hafter⟩ := hpopped.move hmoved
    exact Goes.moved hmoves (by rw [hchange, hmoved]; rfl) ⟨[.notify (.history w.history) trail.current], above, queue,
      hafter, hstands.sweep halive, Follows.turns rfl Turn.moved, habove, hqueue⟩

/-- A navigation is queued, or opens its first half. -/
theorem Stands.goes_navigate {path : Text} (h : w.Stands navigating queue cs s) (hfollows : w.Follows cs s [])
    (hagenda : s.agenda = .navigate w.router path :: (above ++ below))
    (habove : ∀ next ∈ above, next.Spares w.router w.history moves) (hqueue : navigating = false → queue = [])
    (halive : (({ s with agenda := above ++ below } : Session).navigate w.router path).sweep.isAlive w.router = true) :
    w.Goes moves navigating below cs s
      (({ s with agenda := above ++ below } : Session).navigate w.router path).sweep := by
  let popped : Session := { s with agenda := above ++ below }
  have hpopped : w.Stands navigating queue cs popped := h.popped (above ++ below)
  have hnone : changeOf? w.router w.history s = none :=
    Watch.changeOf?_eq_none hagenda (by simp) (by simp) (by simp)
  have hsame : (popped.navigate w.router path).active? w.router = popped.active? w.router :=
    active?_congr (faces_navigate popped w.router path).1 (faces_navigate popped w.router path).2 w.router
  cases navigating with
  | true =>
    refine Goes.stays hnone ⟨[], above, queue ++ [path], (navigate_of_navigating hpopped.course rfl path).2,
      (hpopped.queued path).sweep halive, (hfollows.congr hsame).sweep, habove, ?_⟩
    exact fun h => by cases h
  | false =>
    obtain rfl := hqueue rfl
    exact Goes.begins rfl hnone ((hpopped.begun path).sweep halive) (navigate_of_idle hpopped.course rfl path).2 habove

/-- What leaves the two alone, and is neither a navigation nor a move, leads to tasks that leave them alone. -/
theorem Stands.goes_on {task : Task} (h : w.Stands navigating queue cs s) (hregistered : Registered s)
    (hplan : ∀ nested c, task = .command nested c → ∀ asked ∈ (s.plan c.step).tasks,
      asked.Spares w.router w.history moves)
    (hfollows : w.Follows cs s []) (hagenda : s.agenda = task :: (above ++ below))
    (hspares : ∀ next ∈ task :: above, next.Spares w.router w.history moves) (hqueue : navigating = false → queue = [])
    (hnavigate : ∀ path, task ≠ .navigate w.router path) (hmove : ∀ onward, task ≠ .move w.history onward)
    (halive : (({ s with agenda := above ++ below } : Session).perform task).sweep.isAlive w.router = true) :
    w.Goes moves navigating below cs s (({ s with agenda := above ++ below } : Session).perform task).sweep := by
  let popped : Session := { s with agenda := above ++ below }
  obtain ⟨hfirst, habove⟩ := List.forall_mem_cons.1 hspares
  have hright : Registered popped := hregistered.withAgenda (above ++ below)
  have hnone : changeOf? w.router w.history s = none := by
    refine Watch.changeOf?_eq_none hagenda ?_ ?_ hmove
    · rintro path rfl
      exact hfirst
    · rintro path rfl
      exact hfirst
  obtain ⟨hstands, hactive⟩ := (h.popped (above ++ below)).perform hright hfirst hnavigate hmove
  obtain ⟨new, hnew, hleads⟩ := leads_perform popped task
  refine Goes.stays hnone ⟨[], new ++ above, queue, ?_, hstands.sweep halive, (hfollows.congr hactive).sweep, ?_, hqueue⟩
  · rw [List.append_assoc]
    exact hnew
  · intro next hm
    rcases List.mem_append.1 hm with hm | hm
    · exact hleads.spares hright hfirst hplan hnavigate hmove next hm
    · exact habove next hm

end Goes

/-- Where callbacks act, a step goes on in one of these ways. -/
theorem Open.step {below : List Task} (h : w.Open moves navigating below cs s) (hregistered : Registered s)
    (hplan : ∀ nested c rest, s.agenda = .command nested c :: rest → moves = true ∨ nested = true →
      ∀ task ∈ (s.plan c.step).tasks, task.Spares w.router w.history moves)
    (hbelow : s.agenda ≠ below) (hstep : s.step? = some t) (halive : t.isAlive w.router = true) :
    w.Goes moves navigating below cs s t := by
  obtain ⟨turn, above, queue, hagenda, hstands, hfollows, habove, hqueue⟩ := h
  obtain ⟨task, rest, hhead, rfl⟩ := (step?_eq_some_iff s t).1 hstep
  cases turn with
  | cons first turn =>
    obtain ⟨rfl, rfl⟩ := List.cons.inj (hhead.symm.trans hagenda)
    exact hstands.goes_turn hfollows hhead habove hqueue halive
  | nil =>
    cases above with
    | nil => exact absurd hagenda hbelow
    | cons first above =>
      rw [List.nil_append, List.cons_append] at hagenda
      obtain ⟨rfl, rfl⟩ := List.cons.inj (hhead.symm.trans hagenda)
      obtain ⟨hfirst, hothers⟩ := List.forall_mem_cons.1 habove
      by_cases hmoves : ∃ onward, task = .move w.history onward
      · obtain ⟨onward, rfl⟩ := hmoves
        exact hstands.goes_move hfollows hhead hfirst.2 hothers hqueue halive
      by_cases hnavigates : ∃ path, task = .navigate w.router path
      · obtain ⟨path, rfl⟩ := hnavigates
        exact hstands.goes_navigate hfollows hhead hothers hqueue halive
      refine hstands.goes_on hregistered ?_ hfollows hhead habove hqueue (fun path e => hnavigates ⟨path, e⟩)
        (fun onward e => hmoves ⟨onward, e⟩) halive
      rintro nested c rfl
      exact hplan nested c _ hhead hfirst

/-! ## Runs -/

/-- The entry of a navigation can be added now: its path was resolved last, or the history was moved since, where it may. -/
inductive IsReady (moves : Bool) (path : Text) : List Change → Prop
  | resolved (older : List Change) : IsReady moves path (.resolved path :: older)
  | moved (hmoves : moves = true) (other : Text) (older : List Change) : IsReady moves path (.moved other :: older)

/-- No navigation is on its way. -/
inductive IsSettled (moves : Bool) : List Change → Prop
  | start : IsSettled moves []
  | moved (path : Text) (older : List Change) : IsSettled moves (.moved path :: older)
  | pushed {path : Text} {older : List Change} (hready : IsReady moves path older) :
      IsSettled moves (.pushed path :: older)

/-- The tasks that are left while a router is alone with its history: those of callbacks, and those of a navigation. -/
inductive Phase (w : Watch) (moves : Bool) (cs : List Change) (s : Session) : Prop
  | calm (hopen : w.Open true false [] cs s) (hsettled : IsSettled moves cs)
  | asked {path : Text} {queue : List Text} {below : List Task}
      (hagenda : s.agenda = .resolve w.router path :: .push w.history path :: .drain w.router :: below)
      (hstands : w.Stands true queue cs s) (hbelow : ∀ task ∈ below, task.Spares w.router w.history true)
  | resolved {path : Text} {below : List Task}
      (hopen : w.Open moves true (.push w.history path :: .drain w.router :: below) cs s)
      (hready : IsReady moves path cs) (hbelow : ∀ task ∈ below, task.Spares w.router w.history true)
  | pushed {queue : List Text} {below : List Task} (hagenda : s.agenda = .drain w.router :: below)
      (hstands : w.Stands true queue cs s) (hshows : w.Follows cs s []) (hsettled : IsSettled moves cs)
      (hbelow : ∀ task ∈ below, task.Spares w.router w.history true)

/-- The first half of a navigation is a change: a path is resolved. -/
theorem changeOf?_resolve {path : Text} {below : List Task}
    (hagenda : s.agenda = .resolve w.router path :: .push w.history path :: .drain w.router :: below) :
    changeOf? w.router w.history s = some (.resolved path) := by
  rw [changeOf?, hagenda]
  simp [act?]

/-- The second half of a navigation is a change: the path is pushed. -/
theorem changeOf?_push {path : Text} {below : List Task}
    (hagenda : s.agenda = .push w.history path :: .drain w.router :: below) :
    changeOf? w.router w.history s = some (.pushed path) := by
  rw [changeOf?, hagenda]
  simp [act?]

/-- A navigation resolves its path. -/
theorem phase_resolve {path : Text} {below : List Task}
    (hagenda : s.agenda = .resolve w.router path :: .push w.history path :: .drain w.router :: below)
    (hstands : w.Stands true queue cs s) (hbelow : ∀ task ∈ below, task.Spares w.router w.history true)
    (hstep : s.step? = some t) (halive : t.isAlive w.router = true) :
    w.Phase moves ((changeOf? w.router w.history s).toList ++ cs) t := by
  obtain ⟨task, rest, hhead, rfl⟩ := (step?_eq_some_iff s t).1 hstep
  obtain ⟨rfl, rfl⟩ := List.cons.inj (hhead.symm.trans hagenda)
  obtain ⟨hresolved, hactive, hafter⟩ := (hstands.popped (.push w.history path :: .drain w.router :: below)).resolve path
  have hstands' : w.Stands true queue (.resolved path :: cs) (({ s with
      agenda := .push w.history path :: .drain w.router :: below } : Session).resolve w.router path) :=
    ⟨hresolved.course, hresolved.sole⟩
  rw [changeOf?_resolve hagenda]
  refine Phase.resolved ⟨[], [.notify (.router w.router) path], queue, hafter, hstands'.sweep halive,
    (Follows.shows hactive).sweep, ?_, fun h => by cases h⟩ (IsReady.resolved cs) hbelow
  intro task hm
  rw [List.mem_singleton.1 hm]
  rfl

/-- A navigation adds the entry. -/
theorem phase_push {path : Text} {below : List Task}
    (hopen : w.Open moves true (.push w.history path :: .drain w.router :: below) cs s)
    (hready : IsReady moves path cs) (hbelow : ∀ task ∈ below, task.Spares w.router w.history true)
    (hregistered : Registered s) (hagenda : s.agenda = .push w.history path :: .drain w.router :: below)
    (hstep : s.step? = some t) (halive : t.isAlive w.router = true) :
    w.Phase moves ((changeOf? w.router w.history s).toList ++ cs) t := by
  obtain ⟨turn, above, queue, hopened, hstands, hfollows, _, _⟩ := hopen
  have hempty : turn = [] ∧ above = [] := by
    have hlength := congrArg List.length (hagenda.symm.trans hopened)
    simp only [List.length_append, List.length_cons] at hlength
    exact ⟨List.length_eq_zero_iff.1 (by omega), List.length_eq_zero_iff.1 (by omega)⟩
  obtain ⟨rfl, rfl⟩ := hempty
  obtain ⟨task, rest, hhead, rfl⟩ := (step?_eq_some_iff s t).1 hstep
  obtain ⟨rfl, rfl⟩ := List.cons.inj (hhead.symm.trans hagenda)
  let popped : Session := { s with agenda := .drain w.router :: below }
  have hpopped : w.Stands true queue cs popped := hstands.popped (.drain w.router :: below)
  obtain ⟨hpushed, hafter⟩ := hpopped.push (hregistered.withAgenda (.drain w.router :: below)) path
  have hsame : (popped.perform (.push w.history path)).active? w.router = s.active? w.router :=
    active?_perform (show (Task.push w.history path).isSteering = false from rfl)
  have hshows : w.Follows (.pushed path :: cs) (popped.perform (.push w.history path)) [] := by
    cases hfollows with
    | shows hactive => exact Follows.shows (hsame.trans hactive)
    | turns _ hturn => cases hturn
  rw [changeOf?_push hagenda]
  exact Phase.pushed hafter (hpushed.sweep halive) hshows.sweep (IsSettled.pushed hready) hbelow

/-- A navigation goes on with what is queued, or ends. -/
theorem phase_drain {below : List Task} (hagenda : s.agenda = .drain w.router :: below)
    (hstands : w.Stands true queue cs s) (hshows : w.Follows cs s []) (hsettled : IsSettled moves cs)
    (hbelow : ∀ task ∈ below, task.Spares w.router w.history true) (hstep : s.step? = some t)
    (halive : t.isAlive w.router = true) : w.Phase moves ((changeOf? w.router w.history s).toList ++ cs) t := by
  obtain ⟨task, rest, hhead, rfl⟩ := (step?_eq_some_iff s t).1 hstep
  obtain ⟨rfl, rfl⟩ := List.cons.inj (hagenda.symm.trans hhead)
  let popped : Session := { s with agenda := below }
  have hpopped : w.Stands true queue cs popped := hstands.popped below
  have hnone : changeOf? w.router w.history s = none :=
    changeOf?_eq_none hagenda (by simp) (by simp) (by simp)
  have hsame : (popped.drain w.router).active? w.router = s.active? w.router :=
    active?_congr (faces_drain popped w.router).1 (faces_drain popped w.router).2 w.router
  rw [hnone]
  cases queue with
  | nil =>
    refine Phase.calm ⟨[], below, [], ?_, hpopped.ended.sweep halive, (hshows.congr hsame).sweep, hbelow,
      fun _ => rfl⟩ hsettled
    rw [List.nil_append, List.append_nil]
    exact (drain_of_nil hpopped.course rfl).2
  | cons next later =>
    exact Phase.asked (drain_of_cons hpopped.course rfl).2 (hpopped.continued.sweep halive) hbelow

/-- Every step leads from phase to phase, as long as the router lives. -/
theorem Phase.step (h : w.Phase moves cs s) (hregistered : Registered s)
    (hplan : ∀ nested c rest, s.agenda = .command nested c :: rest →
      ∀ task ∈ (s.plan c.step).tasks, task.Spares w.router w.history (moves || !nested))
    (hstep : s.step? = some t) (halive : t.isAlive w.router = true) :
    w.Phase moves ((changeOf? w.router w.history s).toList ++ cs) t := by
  cases h with
  | calm hopen hsettled =>
    have hbusy : s.agenda ≠ [] := by
      intro hidle
      rw [step?, hidle] at hstep
      cases hstep
    have hplan' : ∀ nested c rest, s.agenda = .command nested c :: rest → true = true ∨ nested = true →
        ∀ task ∈ (s.plan c.step).tasks, task.Spares w.router w.history true := by
      intro nested c rest hagenda _ task hm
      exact (hplan nested c rest hagenda task hm).mono (fun _ => rfl)
    cases hopen.step hregistered hplan' hbusy hstep halive with
    | stays hnone hopen' =>
      rw [hnone]
      exact Phase.calm hopen' hsettled
    | moved _ hmoved hopen' =>
      rw [hmoved]
      exact Phase.calm hopen' (IsSettled.moved _ cs)
    | begins _ hnone hstands hagenda habove =>
      rw [hnone]
      exact Phase.asked hagenda hstands (by simpa using habove)
  | asked hagenda hstands hbelow => exact phase_resolve hagenda hstands hbelow hstep halive
  | @resolved path below hopen hready hbelow =>
    by_cases hbusy : s.agenda = .push w.history path :: .drain w.router :: below
    · exact phase_push hopen hready hbelow hregistered hbusy hstep halive
    have hplan' : ∀ nested c rest, s.agenda = .command nested c :: rest → moves = true ∨ nested = true →
        ∀ task ∈ (s.plan c.step).tasks, task.Spares w.router w.history moves := by
      intro nested c rest hagenda hmay task hm
      refine (hplan nested c rest hagenda task hm).mono ?_
      rcases hmay with rfl | rfl
      · exact fun _ => rfl
      · simp
    cases hopen.step hregistered hplan' hbusy hstep halive with
    | stays hnone hopen' =>
      rw [hnone]
      exact Phase.resolved hopen' hready hbelow
    | moved hmoves hmoved hopen' =>
      rw [hmoved]
      exact Phase.resolved hopen' (IsReady.moved hmoves _ cs) hbelow
    | begins hidle => cases hidle
  | pushed hagenda hstands hshows hsettled hbelow =>
    exact phase_drain hagenda hstands hshows hsettled hbelow hstep halive

/-- Once nothing is left, the router shows what it resolved last, and no navigation is on its way. -/
theorem Phase.of_idle (h : w.Phase moves cs s) (hidle : s.agenda = []) :
    w.Stands false [] cs s ∧ s.active? w.router = Route.resolve w.routes (Change.shownPath w.start cs) ∧
      IsSettled moves cs := by
  cases h with
  | calm hopen hsettled =>
    obtain ⟨turn, above, queue, hagenda, hstands, hfollows, _, hqueue⟩ := hopen
    rw [hidle] at hagenda
    obtain ⟨rfl, _⟩ := List.append_eq_nil_iff.1 hagenda.symm
    obtain rfl := hqueue rfl
    cases hfollows with
    | shows hactive => exact ⟨hstands, hactive, hsettled⟩
    | turns _ hturn => cases hturn
  | asked hagenda => cases hidle.symm.trans hagenda
  | resolved hopen =>
    obtain ⟨turn, above, queue, hagenda, _⟩ := hopen
    have hlength := congrArg List.length (hidle.symm.trans hagenda)
    simp at hlength
  | pushed hagenda => cases hidle.symm.trans hagenda

/-- What an observer asks for comes before the rest of the round. -/
theorem Open.observed {below later : List Task} {rest : List (Nat × Callback)} {path : Text}
    (h : w.Open moves navigating below cs s) (hround : s.agenda = .round (.router w.router) rest path :: later)
    (commands : List Command) : w.Open moves navigating below cs (s.first [.script commands]) := by
  obtain ⟨turn, above, queue, hagenda, hstands, hfollows, habove, hqueue⟩ := h
  cases hfollows with
  | shows hactive =>
    refine ⟨[], .script commands :: above, queue, ?_, hstands.congr hstands.course rfl, Follows.shows hactive, ?_, hqueue⟩
    · exact congrArg (Task.script commands :: ·) hagenda
    · exact List.forall_mem_cons.2 ⟨trivial, habove⟩
  | turns hmoved hturn =>
    have hhead := hround.symm.trans hagenda
    cases hturn <;> cases (List.cons.inj hhead).1

/-- The router is alone with its history, and shows what it resolved last, all along a run in which it lives. -/
theorem phase_of_observedRun {us₀ : List Session} (h₀ : OpenRun Session.empty us₀ s) (hstart : w.Phase moves [] s)
    (hrouter : ∃ course, s.course? w.router = some course) (hrun : ObservedRun w.router w.history moves s us t) :
    (∃ course, t.course? w.router = some course) ∧
      (t.isAlive w.router = true → w.Phase moves (changes w.router w.history us) t) := by
  induction hrun with
  | start => exact ⟨hrouter, fun _ => hstart⟩
  | @step us l t t' hrun hstep ih =>
    obtain ⟨⟨course, hcourse⟩, hphase⟩ := ih
    cases hstep with
    | own hstep hspares =>
      obtain ⟨task, rest, hagenda, hperformed⟩ := (step?_eq_some_iff t t').1 hstep
      have hpopped : ({ t with agenda := rest } : Session).course? w.router = some course := hcourse
      refine ⟨?_, fun halive => ?_⟩
      · obtain ⟨course', hcourse'⟩ := exists_course?_perform hpopped task
        exact ⟨course', by rw [hperformed, course?_sweep, hcourse']⟩
      · have hlived : t.isAlive w.router = true := by
          obtain ⟨router, hr, _⟩ := Option.map_eq_some_iff.1 hpopped
          rw [hperformed, isAlive_sweep, Bool.and_eq_true,
            isAlive_perform _ task (List.getElem?_eq_some_iff.1 hr).1] at halive
          exact halive.1
        rw [List.singleton_append, changes_cons]
        exact (hphase hlived).step (hrun.openRun h₀).registered hspares hstep halive
    | told c hidle =>
      refine ⟨⟨course, hcourse⟩, fun halive => ?_⟩
      obtain ⟨hstands, hshows, hsettled⟩ := (hphase halive).of_idle hidle
      refine Phase.calm ⟨[], [.command false c], [], rfl, hstands.congr hstands.course rfl, Follows.shows hshows, ?_,
        fun _ => rfl⟩ hsettled
      exact fun task hm => List.mem_singleton.1 hm ▸ Or.inl rfl
    | observed hround commands =>
      refine ⟨⟨course, hcourse⟩, fun halive => ?_⟩
      cases hphase halive with
      | calm hopen hsettled => exact Phase.calm (hopen.observed hround commands) hsettled
      | asked hagenda => cases (List.cons.inj (hround.symm.trans hagenda)).1
      | resolved hopen hready hbelow => exact Phase.resolved (hopen.observed hround commands) hready hbelow
      | pushed hagenda => cases (List.cons.inj (hround.symm.trans hagenda)).1

/-- The router agrees with its history if what is active is what the path of the entry resolves to. -/
theorem Stands.agrees_iff (h : w.Stands navigating queue cs s) : Agrees s w.router w.history ↔
    s.active? w.router = Route.resolve w.routes (Change.entryPath w.start cs) := by
  obtain ⟨history, hsole, hcurrent⟩ := h.sole
  obtain ⟨router, hrouter, hroutes, _⟩ := h.exists_router
  rw [← hcurrent, ← hroutes]
  constructor
  · rintro ⟨router', history', hrouter', hhistory', hagrees⟩
    obtain rfl := Option.some.inj (hrouter.symm.trans hrouter')
    obtain rfl := Option.some.inj (hsole.found.symm.trans hhistory')
    exact hagrees
  · intro hagrees
    exact ⟨router, history, hrouter, hsole.found, hagrees⟩

/-- Without a move inside a navigation, the path that was resolved last is the one of the entry. -/
theorem IsSettled.shownPath_eq (h : IsSettled false cs) (start : Text) :
    Change.shownPath start cs = Change.entryPath start cs := by
  cases h with
  | start => rfl
  | moved path older => rfl
  | pushed hready =>
    cases hready with
    | resolved older => rfl
    | moved hmoves => cases hmoves

/-- The path that was resolved last and the one of the entry differ only where the history was moved inside the last
navigation. -/
theorem IsSettled.resolve_eq_iff (h : IsSettled moves cs) (start : Text) (routes : List Route) :
    Route.resolve routes (Change.shownPath start cs) = Route.resolve routes (Change.entryPath start cs) ↔
      ∀ path other older, cs = .pushed path :: .moved other :: older →
        Route.resolve routes other = Route.resolve routes path := by
  cases h with
  | start => simp [Change.shownPath, Change.entryPath]
  | moved path older => simp [Change.shownPath, Change.entryPath]
  | pushed hready =>
    cases hready with
    | resolved older => simp [Change.shownPath, Change.entryPath]
    | moved _ other older =>
      constructor
      · rintro heq _ _ _ ⟨⟩
        exact heq
      · intro hsame
        exact hsame _ _ _ rfl

end Watch

end PathRouting
