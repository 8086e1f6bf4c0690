import PathRouting.Proofs.LastViews
import PathRouting.Proofs.RegistryKeys

/-!
# Rounds

A round of notification calls callbacks that may do anything: register and cancel callbacks, also those of the same
registry, and start further rounds, also of the same owner. Statements: whatever they do, a round calls the callbacks that
were registered when it started, each once and in the order of their keys, and no others; and a router has replaced its
active match when the round of its observers starts.
-/

namespace PathRouting

/-- The tasks that may be the last one before the rest of a round, other than a call of the round. -/
def Task.IsInner : Task → Prop
  | .script _ => True
  | .notify _ _ => True
  | .round _ _ _ => True
  | .resolve _ _ => True
  | .drop _ _ => True
  | _ => False

/-- The call that a round makes first: it has the rest of the round behind it, and behind that the tasks that waited for
the round. -/
def roundCall? (waiting : Nat) : List Task → Option (Callback × Text)
  | .call callback path :: .round _ _ _ :: rest => if rest.length = waiting then some (callback, path) else none
  | _ => none

/-- The calls of some entries with a path. -/
def callsWith (path : Text) (entries : List (Nat × Callback)) : List (Callback × Text) :=
  entries.map (fun entry => (entry.2, path))

/-- What a task right before the rest of a round still has to call: one of its callbacks, or none, if it is what became of a
call. -/
inductive Task.Pends : Task → List (Callback × Text) → Prop
  | call (callback : Callback) (path : Text) : Pends (.call callback path) [(callback, path)]
  | inner {task : Task} (h : task.IsInner) : Pends task []

/-- The tasks before the rest of a round, with the call that was not made yet: the last of them is that call, or what became
of one. -/
inductive Precedes : List Task → List (Callback × Text) → Prop
  | nothing : Precedes [] []
  | last (above : List Task) {task : Task} {pending : List (Callback × Text)} (h : task.Pends pending) :
      Precedes (above ++ [task]) pending

variable {tasks : List Task} {pending : List (Callback × Text)}

/-- Where no task stands before the rest of a round no call is still to be made. -/
theorem Precedes.eq_nil (h : Precedes [] pending) : pending = [] := by
  generalize hnil : ([] : List Task) = none at h
  cases h with
  | nothing => rfl
  | last above => cases above <;> cases hnil

/-- A single task before the rest of a round is the call, or what became of it. -/
theorem Precedes.pends {task : Task} (h : Precedes [task] pending) : task.Pends pending := by
  generalize hone : [task] = one at h
  cases h with
  | nothing => cases hone
  | last above hlast =>
    cases above with
    | nil => exact (List.cons.inj hone).1 ▸ hlast
    | cons _ above => cases above <;> cases hone

/-- More tasks may come before others. -/
theorem Precedes.above (h : Precedes tasks pending) (hne : tasks ≠ []) (more : List Task) :
    Precedes (more ++ tasks) pending := by
  cases h with
  | nothing => exact absurd rfl hne
  | last above hlast =>
    rw [← List.append_assoc]
    exact .last _ hlast

/-- The first of several tasks may go. -/
theorem Precedes.tail {first : Task} (h : Precedes (first :: tasks) pending) (hne : tasks ≠ []) :
    Precedes tasks pending := by
  generalize hall : first :: tasks = all at h
  cases h with
  | nothing => cases hall
  | last above hlast =>
    cases above with
    | nil => exact absurd (List.cons.inj hall).2 hne
    | cons _ above =>
      rw [(List.cons.inj hall).2]
      exact .last above hlast

/-- Tasks from outside may come where there were none. -/
theorem precedes_of_outside (h : ∀ task ∈ tasks, task.IsOutside) : Precedes tasks [] := by
  rcases List.eq_nil_or_concat tasks with rfl | ⟨above, last, rfl⟩
  · exact .nothing
  · rw [List.concat_eq_append] at h ⊢
    have hlast : last.IsOutside := h last (List.mem_append_right _ (List.mem_singleton_self last))
    refine .last above (.inner ?_)
    cases last <;> first | exact hlast.elim | trivial

/-- What a call of a round, or what became of one, leads to may come before the rest of the round. -/
theorem Task.Pends.precedes_of_leads {s : Session} {task : Task} {new : List Task} (h : task.Pends pending)
    (hleads : s.Leads task new) : Precedes new [] := by
  cases hleads with
  | nothing => exact .nothing
  | script c rest => exact .last [_] (.inner trivial)
  | notified owner path => exact .last [] (.inner trivial)
  | called owner entry later path => exact .last [_] (.inner trivial)
  | followed r path => exact .last [] (.inner trivial)
  | reacted index path commands => exact .last [] (.inner trivial)
  | resolved r path => exact .last [] (.inner trivial)
  | _ =>
    cases h with
    | inner hinner => exact hinner.elim

/-- A call of a round has the round behind it and then the tasks that waited. -/
theorem length_of_roundCall? {waiting : Nat} {tasks : List Task} {call : Callback × Text}
    (h : roundCall? waiting tasks = some call) : tasks.length = waiting + 2 := by
  unfold roundCall? at h
  split at h
  · split at h
    · rename_i hlength
      rw [List.length_cons, List.length_cons, hlength]
    · cases h
  · cases h

namespace Session

variable {s t : Session} {us : List Session} {owner : Owner} {entries : List (Nat × Callback)} {path : Text}
  {rest : List Task}

/-- The calls that a round made, in order, where so many tasks waited for it. -/
def roundCalls (waiting : Nat) (us : List Session) : List (Callback × Text) :=
  us.reverse.filterMap (fun u => roundCall? waiting u.agenda)

/-- The calls of a round up to a session are those before it and its own. -/
theorem roundCalls_cons (waiting : Nat) (u : Session) (us : List Session) :
    roundCalls waiting (u :: us) = roundCalls waiting us ++ (roundCall? waiting u.agenda).toList :=
  filterMap_reverse_cons _ u us

/-! ## Rounds on their way -/

/-- A round is on its way: it made some of its calls, and has to make the others. -/
def IsMidround (owner : Owner) (entries : List (Nat × Callback)) (path : Text) (rest : List Task) (us : List Session)
    (t : Session) : Prop :=
  ∃ tasks pending later, Precedes tasks pending ∧ t.agenda = tasks ++ .round owner later path :: rest ∧
    roundCalls rest.length us ++ (pending ++ callsWith path later) = callsWith path entries

/-- A round is over: it made all of its calls. -/
def IsRoundOver (entries : List (Nat × Callback)) (path : Text) (rest : List Task) (us : List Session) (t : Session) : Prop :=
  t.agenda = rest ∧ roundCalls rest.length us = callsWith path entries

/-- With several tasks before its rest, a round makes no call. -/
theorem roundCalls_cons_of_long {first second : Task} {above below : List Task}
    (hagenda : s.agenda = first :: second :: above ++ .round owner entries path :: below) :
    roundCalls below.length (s :: us) = roundCalls below.length us := by
  rw [roundCalls_cons]
  cases hcall : roundCall? below.length s.agenda with
  | none => exact List.append_nil _
  | some call =>
    have hlength := length_of_roundCall? hcall
    rw [hagenda] at hlength
    simp only [List.length_append, List.length_cons] at hlength
    omega

/-- Doing the first task before the rest of a round brings it nearer to its end. -/
theorem isMidround_of_step (h : IsMidround owner entries path rest us s) (hstep : s.step? = some t) :
    IsMidround owner entries path rest (s :: us) t ∨ IsRoundOver entries path rest (s :: us) t := by
  obtain ⟨tasks, pending, later, hprecedes, hagenda, hcalls⟩ := h
  cases tasks with
  | nil =>
    obtain rfl := eq_of_step? hagenda hstep
    have hnone : roundCalls rest.length (s :: us) = roundCalls rest.length us := by
      rw [roundCalls_cons, hagenda]
      exact List.append_nil _
    rw [hprecedes.eq_nil, List.nil_append] at hcalls
    cases later with
    | nil =>
      refine Or.inr ⟨rfl, ?_⟩
      rw [hnone, ← hcalls]
      exact (List.append_nil _).symm
    | cons entry later =>
      refine Or.inl ⟨[.call entry.2 path], [(entry.2, path)], later, .last [] (.call entry.2 path), rfl, ?_⟩
      rw [hnone]
      exact hcalls
  | cons first tasks =>
    obtain ⟨new, hnew, hleads⟩ := leads_perform ({ s with agenda := tasks ++ .round owner later path :: rest } : Session) first
    obtain rfl := eq_of_step? hagenda hstep
    refine Or.inl ?_
    cases tasks with
    | cons second tasks =>
      refine ⟨new ++ second :: tasks, pending, later,
        (hprecedes.tail (List.cons_ne_nil _ _)).above (List.cons_ne_nil _ _) new, ?_, ?_⟩
      · rw [List.append_assoc]
        exact hnew
      · rw [roundCalls_cons_of_long hagenda]
        exact hcalls
    | nil =>
      have hpends := hprecedes.pends
      have hmade : (roundCall? rest.length s.agenda).toList = pending := by
        rw [hagenda]
        cases hpends with
        | call callback path' => exact congrArg Option.toList (if_pos rfl)
        | inner hinner => cases first <;> first | exact hinner.elim | rfl
      refine ⟨new, [], later, hpends.precedes_of_leads hleads, hnew, ?_⟩
      rw [roundCalls_cons, hmade, List.append_assoc]
      exact hcalls

/-- Whatever callbacks, histories and executors do, a round that started is on its way or over. -/
theorem CallRun.isMidround (hrun : CallRun rest s us t) (hstart : s.agenda = .round owner entries path :: rest) :
    IsMidround owner entries path rest us t ∨ IsRoundOver entries path rest us t := by
  induction hrun with
  | start => exact Or.inl ⟨[], [], entries, .nothing, hstart, rfl⟩
  | @step us l t t' _ hrunning hstep ih =>
    have hmidway := ih.resolve_right (fun hover => hrunning hover.1)
    cases hstep with
    | own hown => exact isMidround_of_step hmidway hown
    | told c hidle =>
      obtain ⟨tasks, pending, later, _, hagenda, _⟩ := hmidway
      rw [hidle] at hagenda
      cases tasks <;> cases hagenda
    | outside histories hvaries pool hpool tasks htasks =>
      obtain ⟨before, pending, later, hprecedes, hagenda, hcalls⟩ := hmidway
      refine Or.inl ⟨tasks ++ before, pending, later, ?_, ?_, hcalls⟩
      · by_cases hbefore : before = []
        · subst hbefore
          rw [hprecedes.eq_nil, List.append_nil]
          exact precedes_of_outside htasks
        · exact hprecedes.above hbefore tasks
      · change tasks ++ t.agenda = _
        rw [hagenda, List.append_assoc]

/-! ## Starting rounds -/

/-- Along every run a registry calls no callback from two of its entries. -/
theorem OpenRun.nodup_callbacks (hrun : OpenRun Session.empty us s) (owner : Owner) :
    ((s.callbacks owner).map (·.2)).Nodup := by
  have hkeys : ((s.callbacks owner).map (·.1)).Nodup := (hrun.pairwise_callbacks owner).imp Nat.ne_of_lt
  refine List.Nodup.map_on ?_ (List.Nodup.of_map _ hkeys)
  rintro ⟨key, callback⟩ hentry ⟨key', _⟩ hentry' rfl
  obtain ⟨place, hplace, _⟩ := hrun.placed callback
  have hseats : some (owner, key) = some (owner, key') := (hplace.seat?_eq hentry).symm.trans (hplace.seat?_eq hentry')
  rw [(Prod.mk.inj (Option.some.inj hseats)).2]

/-- A round with some entries has started. Whatever happens until the tasks that waited for it are all that is left, the
calls it made are the first ones of its entries, there is more to do, and in the end it made all of them. -/
def ReachesAll (owner : Owner) (entries : List (Nat × Callback)) (path : Text) (rest : List Task) (s : Session) : Prop :=
  s.agenda = .round owner entries path :: rest ∧ ∀ us t, CallRun rest s us t →
    roundCalls rest.length us <+: callsWith path entries ∧ (t.agenda ≠ rest → ∃ t', t.step? = some t') ∧
      (t.agenda = rest → roundCalls rest.length us = callsWith path entries)

/-- A round on its way stands before the tasks that waited for it. -/
theorem IsMidround.ne_rest (h : IsMidround owner entries path rest us t) : t.agenda ≠ rest := by
  obtain ⟨tasks, _, later, _, hagenda, _⟩ := h
  intro hrest
  have hlength := congrArg List.length (hagenda.symm.trans hrest)
  rw [List.length_append, List.length_cons] at hlength
  omega

/-- A round on its way can always go on. -/
theorem IsMidround.exists_step (h : IsMidround owner entries path rest us t) : ∃ t', t.step? = some t' := by
  obtain ⟨tasks, _, later, _, hagenda, _⟩ := h
  obtain ⟨task, more, hfirst⟩ := List.exists_cons_of_ne_nil
    (List.append_ne_nil_of_right_ne_nil tasks (List.cons_ne_nil (.round owner later path) rest))
  exact ⟨_, (step?_eq_some_iff _ _).2 ⟨task, more, hagenda.trans hfirst, rfl⟩⟩

/-- A round that is begun reaches every callback that it was begun for. -/
theorem reachesAll_of_round (hstart : s.agenda = .round owner entries path :: rest) :
    s.ReachesAll owner entries path rest := by
  refine ⟨hstart, fun us t hrun => ?_⟩
  rcases hrun.isMidround hstart with hmid | ⟨hrest, hcalls⟩
  · refine ⟨?_, fun _ => hmid.exists_step, fun hrest => absurd hrest hmid.ne_rest⟩
    obtain ⟨_, pending, later, _, _, hcalls⟩ := hmid
    exact ⟨_, hcalls⟩
  · exact ⟨hcalls ▸ List.prefix_refl _, fun hne => absurd hrest hne, fun _ => hcalls⟩

/-- Notifying an owner starts a round with those who are registered, and leaves active what is. -/
theorem exists_round_of_notify (hfirst : s.agenda = .notify owner path :: rest) :
    ∃ t, s.step? = some t ∧ t.ReachesAll owner (s.callbacks owner) path rest ∧
      ∀ r, t.active? r = s.active? r ∧ t.activeResolution? r = s.activeResolution? r :=
  ⟨_, (step?_eq_some_iff _ _).2 ⟨_, _, hfirst, rfl⟩, reachesAll_of_round rfl, fun _ =>
    ⟨active?_sweep _ _, activeResolution?_sweep _ _⟩⟩

/-- A router that something holds keeps its observers. -/
theorem callbacks_sweep_router {r : Nat} (hheld : s.holdsRouter r = true) :
    s.sweep.callbacks (.router r) = s.callbacks (.router r) := by
  rw [callbacks_router, callbacks_router, getElem?_routers_sweep, hheld]
  cases s.routers[r]? <;> simp

/-- On a router that there is, a path that is resolved replaces what is active, and leaves the observers registered. -/
theorem resolve_parts {r : Nat} {router : Router} (hrouter : s.routers[r]? = some router) (path : Text) :
    (s.resolve r path).agenda = .notify (.router r) path :: s.agenda ∧
      (s.resolve r path).callbacks (.router r) = s.callbacks (.router r) ∧
      (s.resolve r path).active? r = Route.resolve router.routes path ∧
      (s.resolve r path).activeResolution? r = (Route.resolve router.routes path).map (fun _ => s.resolutions.length) := by
  simp only [resolve, hrouter]
  generalize Route.resolve router.routes path = found
  refine ⟨?_, ?_, ?_, ?_⟩
  · exact congrArg ([Task.notify (.router r) path] ++ ·) (agenda_activate _ _ _)
  · exact callbacks_activate (s.recordLogs [.routeResolved path found.isSome]) r found (.router r)
  · exact active?_activate (s.recordLogs [.routeResolved path found.isSome]) hrouter found
  · refine (activeResolution?_activate (s.recordLogs [.routeResolved path found.isSome]) r r found).trans ?_
    rw [if_pos rfl]
    exact congrArg (Option.bind · _) hrouter

/-- A path that is resolved replaces what is active on its router, by a new resolution or by none; the round of its
observers, which holds the router, comes next. -/
theorem exists_notify_of_resolve {r : Nat} {router : Router} (hfirst : s.agenda = .resolve r path :: rest)
    (hrouter : s.routers[r]? = some router) :
    ∃ t, s.step? = some t ∧ t.agenda = .notify (.router r) path :: rest ∧
      t.callbacks (.router r) = s.callbacks (.router r) ∧ t.active? r = Route.resolve router.routes path ∧
      t.activeResolution? r = (Route.resolve router.routes path).map (fun _ => s.resolutions.length) := by
  obtain ⟨hagenda, hcallbacks, hactive, hresolution⟩ := resolve_parts (s := { s with agenda := rest }) hrouter path
  have hheld : holdsRouter (({ s with agenda := rest } : Session).resolve r path) r = true := by
    simp [holdsRouter, hagenda, Task.routers]
  exact ⟨_, (step?_eq_some_iff _ _).2 ⟨_, _, hfirst, rfl⟩, hagenda, (callbacks_sweep_router hheld).trans hcallbacks,
    (active?_sweep _ _).trans hactive, (activeResolution?_sweep _ _).trans hresolution⟩

/-! ## The order of registration -/

/-- Entries are in the order of their registration: whoever was registered at an earlier moment stands before everyone who
was registered since. -/
theorem OpenRun.pairwise_registered {ws vs : List Session} {u : Session} (hbefore : OpenRun Session.empty ws u)
    (hsince : OpenRun u vs s) (owner : Owner) :
    (s.callbacks owner).Pairwise (fun entry later => later ∈ u.callbacks owner → entry ∈ u.callbacks owner) := by
  obtain ⟨new, hsublist, hnew⟩ := hsince.renews.callbacks owner
  refine List.Pairwise.sublist hsublist (List.pairwise_append.2 ⟨?_, ?_, fun entry hentry _ _ _ => hentry⟩)
  · exact List.pairwise_of_forall_mem_list (fun entry hentry _ _ _ => hentry)
  · exact List.pairwise_of_forall_mem_list (fun _ _ later hlater hold =>
      absurd (hbefore.placed.isKnown hold) (hnew later hlater).1)

/-- At any moment of a run:
1. A path that is resolved on a router replaces what is active there, by a new resolution or by none, and then starts a
   round with all of its observers, whether or not the match equals the old one.
2. Notifying anyone starts a round with all callbacks that are registered.
3. Callbacks are registered under keys that increase strictly, each once, in the order of registration.

Whatever callbacks do when they are called, a round calls those it started with, each once and in this order, and no
others; one that is cancelled meanwhile is called too. -/
theorem rounds_reach_all (hrun : OpenRun Session.empty us s) :
    (∀ (r : Nat) (path : Text) (rest : List Task) (router : Router), s.agenda = .resolve r path :: rest →
      s.routers[r]? = some router → ∃ t t', s.step? = some t ∧ t.step? = some t' ∧
        (∀ v ∈ [t, t'], v.active? r = Route.resolve router.routes path ∧
          v.activeResolution? r = (Route.resolve router.routes path).map (fun _ => s.resolutions.length)) ∧
        t'.ReachesAll (.router r) (s.callbacks (.router r)) path rest) ∧
    (∀ (owner : Owner) (path : Text) (rest : List Task), s.agenda = .notify owner path :: rest →
      ∃ t, s.step? = some t ∧ t.ReachesAll owner (s.callbacks owner) path rest) ∧
    ∀ owner, ((s.callbacks owner).map (·.1)).Pairwise (· < ·) ∧ ((s.callbacks owner).map (·.2)).Nodup ∧
      ∀ ws vs u, OpenRun Session.empty ws u → OpenRun u vs s →
        (s.callbacks owner).Pairwise (fun entry later => later ∈ u.callbacks owner → entry ∈ u.callbacks owner) := by
  refine ⟨fun r path rest router hfirst hrouter => ?_, fun owner path rest hfirst => ?_, fun owner => ?_⟩
  · obtain ⟨t, hstep, hnext, hcallbacks, hactive, hresolution⟩ := exists_notify_of_resolve hfirst hrouter
    obtain ⟨t', hstep', hreaches, hkept⟩ := exists_round_of_notify hnext
    refine ⟨t, t', hstep, hstep', ?_, hcallbacks ▸ hreaches⟩
    rw [List.forall_mem_cons, List.forall_mem_singleton]
    exact ⟨⟨hactive, hresolution⟩, (hkept r).1.trans hactive, (hkept r).2.trans hresolution⟩
  · obtain ⟨t, hstep, hreaches, _⟩ := exists_round_of_notify hfirst
    exact ⟨t, hstep, hreaches⟩
  · exact ⟨hrun.pairwise_callbacks owner, hrun.nodup_callbacks owner,
      fun _ _ _ hbefore hsince => hbefore.pairwise_registered hsince owner⟩

/-- The router of `resolverObserves` is about to resolve `/`. -/
def outerAsked : Session := finishTasks 1 (resolverObserves.begin (resolveTo "/"))

/-- The round of `/` calls both observers with `/`, once each, although the first of them starts a round of `/b`, which calls
both as well. -/
theorem roundCalls_outerAsked : ∃ us t t', outerAsked.step? = some t ∧ t.step? = some t' ∧
    CallRun [.answer false none (.ok (.activeOf 0))] t' us (finishTasks 16 t') ∧
    roundCalls 1 us = [(.handler 0, Text.ofString "/"), (.handler 1, Text.ofString "/")] ∧
    callsOf (.handler 1) us = [Text.ofString "/b", Text.ofString "/"] := by
  obtain ⟨_, hobserves⟩ : ∃ us, OpenRun empty us resolverObserves :=
    exists_openRun_doStep (exists_openRun_routerObserved (resolveTo "/b")) rfl 9 _
  have hasked : OpenRun empty _ outerAsked := (hobserves.step (OpenStep.told (resolveTo "/") rfl)).goOn 1
  obtain ⟨t, t', hstep, hstep', _, _, hreaches⟩ := (rounds_reach_all hasked).1 0 (Text.ofString "/") _ _ rfl rfl
  obtain rfl : t = finishTasks 1 outerAsked := Option.some.inj (hstep.symm.trans rfl)
  obtain rfl : t' = finishTasks 2 outerAsked := Option.some.inj (hstep'.symm.trans rfl)
  have hcall : CallRun [.answer false none (.ok (.activeOf 0))] (finishTasks 2 outerAsked) _ _ :=
    CallRun.start.goOn 16 (by decide +kernel)
  obtain ⟨_, _, hcalls⟩ := hreaches _ _ hcall
  exact ⟨_, _, _, hstep, hstep', hcall, (hcalls rfl).trans rfl, rfl⟩

end Session

end PathRouting
