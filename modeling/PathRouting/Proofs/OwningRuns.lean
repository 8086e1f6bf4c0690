import PathRouting.Proofs.PromptRuns

/-!
# Runs with what callbacks own

Runs of a session whose callbacks may own what has a name: once a callback is gone, what it owned is dropped before anything
else. Statements: seen without what callbacks own, such a run is an open one, or a prompt one, that ends where a drop panics;
if callbacks own nothing it is any open run, and no drop panics; and what a callback owned is let go as soon as nothing has the
callback.
-/

namespace PathRouting

namespace Session

variable {s t : Session} {us : List Session} {inMemory : Nat → Prop} {tasks : List Task}

/-- What an open run allows between two tasks. -/
def OpenBetween (s t : Session) : Prop := OpenStep s [] t

/-- What a prompt run allows between two tasks. -/
def PromptBetween (inMemory : Nat → Prop) (s t : Session) : Prop :=
  RegularStep inMemory s [] t ∧ s.isCalling = false

/-- What a regular run may ask for it may ask for at any time. -/
theorem RegularRun.step_first (h : RegularRun inMemory Session.empty us t) (htasks : ∀ task ∈ tasks, task.IsRequest inMemory) :
    RegularStep inMemory t [] (t.first tasks) :=
  .outside t.histories h.openRun.forall₂_varies (fun _ _ => rfl) t.pool ⟨rfl, List.Perm.refl _⟩ tasks htasks

end Session

namespace OwningSession

variable {e e' : OwningSession} {us ws : List Session} {t : Session} {others : Session → Session → Prop}
  {inMemory : Nat → Prop} {turn : Turn} {owner : Owner} {k : Nat}

/-- One step of a session with what its callbacks own, with the session whose first task was done, if one was; given what
others may do between two tasks. -/
inductive Step (others : Session → Session → Prop) (e : OwningSession) : List Session → OwningSession → Prop
  /-- The first task is done. -/
  | own {e' : OwningSession} (h : e.turn? = some (.goes e')) : Step others e [e.session] e'
  /-- Others act, unless something is just being dropped. -/
  | meanwhile {t : Session} (h : others e.session t) (hfree : e.isDropping = false) :
      Step others e [] { e with session := t }
  /-- A handler that something has comes to own something. -/
  | capture {k : Nat} (c : Capture) (hhas : e.has k = true) (hfree : e.isDropping = false) :
      Step others e [] (e.capture k c)

/-- A run with what callbacks own, with the sessions whose first tasks were done, the latest first. -/
inductive Run (others : Session → Session → Prop) (e : OwningSession) : List Session → OwningSession → Prop
  | start : Run others e [] e
  | step {us l : List Session} {e' e'' : OwningSession} (h : Run others e us e') (hstep : Step others e' l e'') :
      Run others e (l ++ us) e''

/-! ## Turns -/

/-- A turn does the first task: it panics exactly if it takes something from a registry that is being changed. -/
theorem turn?_eq_some_iff : e.turn? = some turn ↔ ∃ t, e.session.step? = some t ∧
    (e.clashes = true ∧ turn = .panics (e.abandon t) ∨ e.clashes = false ∧ turn = .goes (e.settle t)) := by
  rw [turn?, Option.map_eq_some_iff]
  refine exists_congr (fun t => and_congr_right (fun _ => ?_))
  cases e.clashes <;> simp [eq_comm]

/-- A turn that goes on leads to what the first task leads to. -/
theorem settle_of_turn? (h : e.turn? = some (.goes e')) :
    ∃ t, e.session.step? = some t ∧ e.clashes = false ∧ e' = e.settle t := by
  obtain ⟨t, hstep, ⟨-, hturn⟩ | ⟨hclash, hturn⟩⟩ := turn?_eq_some_iff.1 h
  · cases hturn
  · exact ⟨t, hstep, hclash, Turn.goes.inj hturn⟩

/-- What is loose was owned by handlers that nothing has, and by no others. -/
theorem mem_loose {c : Capture} : c ∈ e.loose ↔
    (∃ k, (k, c) ∈ e.captures) ∧ ∀ k, (k, c) ∈ e.captures → e.has k = false := by
  simp only [loose, owned, List.mem_eraseDups, List.mem_filter, List.mem_map, Bool.not_eq_true', List.any_eq_false,
    beq_iff_eq, Prod.forall, Prod.exists, exists_eq_right, and_imp]
  refine and_congr_right (fun _ => ⟨fun h k hm => ?_, fun h k c' hm hhas heq => ?_⟩)
  · exact Bool.eq_false_iff.2 (fun hhas => h k c hm hhas rfl)
  · rw [h k (heq ▸ hm)] at hhas
    cases hhas

/-- What was owned by handlers that are gone is dropped before anything else, unless a handler is just being called. -/
theorem settle_cases (e : OwningSession) (t : Session) :
    ((e.advance t).loose = [] ∨ t.isCalling = true) ∧ e.settle t = e.advance t ∨ t.isCalling = false ∧
      e.settle t = ⟨t.first (e.advance t).burial, (e.advance t).owned, e.changed t ++ (e.advance t).frames⟩ := by
  rw [settle, bury]
  by_cases hkept : (e.advance t).loose = [] ∨ t.isCalling = true
  · exact Or.inl ⟨hkept, if_pos hkept⟩
  · exact Or.inr ⟨Bool.eq_false_iff.2 (fun hcalling => hkept (Or.inr hcalling)), if_neg hkept⟩

/-- What is done to drop what callbacks owned. -/
theorem mem_burial {task : Task} (h : task ∈ e.burial) : (∃ c ∈ e.loose, task = .drop c.kind c.name) ∨ task = .script [] := by
  rcases List.mem_append.1 h with h | h
  · obtain ⟨c, hc, rfl⟩ := List.mem_map.1 h
    exact Or.inl ⟨c, hc, rfl⟩
  · exact Or.inr (List.mem_singleton.1 h)

/-- The drops that a task leaves are requests that could be made at any time. -/
theorem isRequest_of_mem_burial {task : Task} (h : task ∈ e.burial) : task.IsRequest inMemory := by
  obtain ⟨c, -, rfl⟩ | rfl := mem_burial h
  · exact .drop c.kind c.name
  · exact .script []

/-! ## Runs without what callbacks own -/

/-- To drop what callbacks owned is open to a run. -/
theorem openRun_settle (h : Session.OpenRun .empty ws t) : Session.OpenRun t [] (e.settle t).session := by
  obtain ⟨-, hsettle⟩ | ⟨-, hsettle⟩ := settle_cases e t
  · rw [hsettle]
    exact .start
  · have houtside : ∀ task ∈ (e.advance t).burial, task.IsOutside := by
      intro task hm
      have hrequest : task.IsRequest (fun _ => True) := isRequest_of_mem_burial hm
      exact hrequest.isOutside
    rw [hsettle]
    exact .step .start (h.step_first houtside)

/-- Seen without what callbacks own, a turn is a step of an open run, with drops after it. -/
theorem openRun_of_turn? (hbefore : Session.OpenRun .empty ws e.session) (h : e.turn? = some (.goes e')) :
    Session.OpenRun e.session [e.session] e'.session := by
  obtain ⟨t, hstep, -, rfl⟩ := settle_of_turn? h
  have hown : Session.OpenRun e.session [e.session] t := .step .start (.own hstep)
  exact hown.trans (openRun_settle (hbefore.trans hown))

/-- Seen without what callbacks own, a turn is a step of a prompt run, with drops after it. -/
theorem promptRun_of_turn? (hbefore : Session.PromptRun inMemory .empty ws e.session) (h : e.turn? = some (.goes e')) :
    Session.PromptRun inMemory e.session [e.session] e'.session := by
  obtain ⟨t, hstep, -, rfl⟩ := settle_of_turn? h
  have hown : Session.PromptRun inMemory e.session [e.session] t :=
    .step .start (.own hstep) (fun hnone => absurd hnone (List.cons_ne_nil _ _))
  obtain ⟨-, hsettle⟩ | ⟨hcalling, hsettle⟩ := settle_cases e t
  · rw [hsettle]
    exact hown
  · rw [hsettle]
    exact hown.step ((hbefore.trans hown).regularRun.step_first (fun task hm => isRequest_of_mem_burial hm))
      (fun _ => hcalling)

/-- Seen without what callbacks own, a run is an open one. -/
theorem Run.openRun_of (h : Run Session.OpenBetween e us e') (hbefore : Session.OpenRun .empty ws e.session) :
    Session.OpenRun e.session us e'.session := by
  induction h with
  | start => exact .start
  | step _ hstep ih =>
    cases hstep with
    | own hturn => exact ih.trans (openRun_of_turn? (hbefore.trans ih) hturn)
    | meanwhile hothers hfree => exact ih.step hothers
    | capture c hhas hfree => exact ih

/-- A run that starts with nothing is a run of the session beneath. -/
theorem Run.openRun (h : Run Session.OpenBetween .empty us e) : Session.OpenRun .empty us e.session :=
  h.openRun_of .start

/-- Seen without what callbacks own, a run is a prompt one, if so is what others do. -/
theorem Run.promptRun_of (h : Run (Session.PromptBetween inMemory) e us e')
    (hbefore : Session.PromptRun inMemory .empty ws e.session) : Session.PromptRun inMemory e.session us e'.session := by
  induction h with
  | start => exact .start
  | step _ hstep ih =>
    cases hstep with
    | own hturn => exact ih.trans (promptRun_of_turn? (hbefore.trans ih) hturn)
    | meanwhile hothers hfree => exact ih.step hothers.1 (fun _ => hothers.2)
    | capture c hhas hfree => exact ih

/-- A prompt run that starts with nothing is a prompt run of the session beneath. -/
theorem Run.promptRun (h : Run (Session.PromptBetween inMemory) .empty us e) :
    Session.PromptRun inMemory .empty us e.session :=
  h.promptRun_of .start

/-! ## Callbacks that own nothing -/

/-- While nothing is being dropped no registry is being changed. -/
theorem isChanging_eq_false (hfree : e.isDropping = false) (owner : Owner) : e.isChanging owner = false := by
  rw [isChanging, List.any_eq_false]
  intro f hf hchanges
  rw [isDropping, List.any_eq_false] at hfree
  exact hfree f hf (by rw [eq_of_beq hchanges]; rfl)

/-- A frame in which a registry is being changed was there before the turn, and more tasks are left than wait for it. -/
theorem mem_frames_advance {f : Frame} (h : f ∈ (e.advance t).frames) (hchanges : f.activity.isChange = true) :
    f ∈ e.frames ∧ f.waiting < t.agenda.length := by
  obtain ⟨hm, hwaiting⟩ := List.mem_filter.1 h
  refine ⟨(List.mem_append.1 hm).resolve_left (fun hentered => ?_), of_decide_eq_true hwaiting⟩
  unfold entered at hentered
  split at hentered
  · rw [List.mem_singleton.1 hentered] at hchanges
    cases hchanges
  · cases hentered

/-- Where nothing is being dropped, nothing is right after the first task either. -/
theorem isDropping_advance (hfree : e.isDropping = false) (t : Session) : (e.advance t).isDropping = false := by
  rw [isDropping, List.any_eq_false] at hfree ⊢
  exact fun f hf hchanges => hfree f (mem_frames_advance hf hchanges).1 hchanges

/-- Where callbacks own nothing no drop panics, and a turn is just a step of the session. -/
theorem turn?_of_captures_eq_nil (hnone : e.captures = []) (hfree : e.isDropping = false) :
    e.turn? = e.session.step?.map (fun t => .goes (e.advance t)) := by
  have hclash : e.clashes = false := by
    rw [clashes, List.any_eq_false]
    exact fun owner _ hchanging => Bool.false_ne_true ((isChanging_eq_false hfree owner).symm.trans hchanging)
  have hsettle : ∀ t, e.settle t = e.advance t := by
    intro t
    have hloose : (e.advance t).loose = [] := by
      rw [List.eq_nil_iff_forall_not_mem]
      intro c hc
      obtain ⟨⟨k, hk⟩, -⟩ := mem_loose.1 hc
      rw [advance, hnone] at hk
      cases hk
    exact if_pos (Or.inl hloose)
  simp only [turn?, hclash, hsettle, Bool.false_eq_true, if_false]

/-- Every open run is one in which callbacks own nothing. -/
theorem exists_run_of_openRun (h : Session.OpenRun .empty us t) :
    ∃ e, Run Session.OpenBetween .empty us e ∧ e.session = t ∧ e.captures = [] ∧ e.isDropping = false := by
  induction h with
  | start => exact ⟨.empty, .start, rfl, rfl, rfl⟩
  | step _ hstep ih =>
    obtain ⟨e, hrun, rfl, hnone, hfree⟩ := ih
    cases hstep with
    | own hown =>
      have hturn := (turn?_of_captures_eq_nil hnone hfree).trans (congrArg (Option.map _) hown)
      exact ⟨e.advance _, hrun.step (.own hturn), rfl, hnone, isDropping_advance hfree _⟩
    | told c hidle => exact ⟨_, hrun.step (.meanwhile (Session.OpenStep.told c hidle) hfree), rfl, hnone, hfree⟩
    | outside histories hvaries pool hpool tasks htasks =>
      have hothers : Session.OpenBetween e.session _ := .outside histories hvaries pool hpool tasks htasks
      exact ⟨_, hrun.step (.meanwhile hothers hfree), rfl, hnone, hfree⟩

/-! ## What callbacks leave -/

/-- The second session has all of the first that can have a handler: what goes on, the tasks, the registries, the outlets with
their loads, the cells, and the names. -/
structure Retains (e e' : OwningSession) : Prop where
  frames : ∀ f ∈ e.frames, f ∈ e'.frames
  agenda : ∀ task ∈ e.session.agenda, task ∈ e'.session.agenda
  owners : e'.session.owners = e.session.owners
  lives : ∀ owner, e'.session.lives owner = e.session.lives owner
  registries : ∀ owner, e'.session.registryOf? owner = e.session.registryOf? owner
  unfinished : ∀ id, e'.session.isUnfinished id = e.session.isUnfinished id
  outlets : e'.session.outlets = e.session.outlets
  loads : e'.session.loads = e.session.loads
  cells : e'.session.cells = e.session.cells
  names : e'.session.names = e.session.names

/-- A registry that is being changed in the first session is being changed in the second. -/
theorem Retains.isChanging (h : Retains e e') (hchanging : e.isChanging owner = true) : e'.isChanging owner = true := by
  obtain ⟨f, hf, hchanges⟩ := List.any_eq_true.1 hchanging
  exact List.any_eq_true.2 ⟨f, h.frames f hf, hchanges⟩

/-- What something has in the first session, something has in the second. -/
theorem Retains.has (h : Retains e e') (hhas : e.has k = true) : e'.has k = true := by
  simp only [OwningSession.has, Bool.or_eq_true] at hhas ⊢
  rcases hhas with ((hregisters | hcalls) | hshows) | hstores
  · refine Or.inl (Or.inl (Or.inl ?_))
    obtain ⟨owner, howner, hentry⟩ := List.any_eq_true.1 hregisters
    obtain ⟨hthere, hentry⟩ := Bool.and_eq_true_iff.1 hentry
    refine List.any_eq_true.2 ⟨owner, h.owners.symm ▸ howner, Bool.and_eq_true_iff.2 ⟨?_, ?_⟩⟩
    · rw [Bool.or_eq_true, h.lives]
      exact (Bool.or_eq_true_iff.1 hthere).imp_right h.isChanging
    · rw [h.registries]
      exact hentry
  · refine Or.inl (Or.inl (Or.inr ?_))
    rw [calls, Bool.or_eq_true, List.any_eq_true, List.any_eq_true] at hcalls ⊢
    exact hcalls.imp (fun hcalled => hcalled.imp (fun f hf => ⟨h.frames f hf.1, hf.2⟩))
      (fun hcalled => hcalled.imp (fun task ht => ⟨h.agenda task ht.1, ht.2⟩))
  · refine Or.inl (Or.inr ?_)
    rw [shows, h.outlets, h.names, h.loads]
    simp only [h.unfinished]
    exact hshows
  · refine Or.inr ?_
    rw [stores, h.cells, h.names]
    obtain ⟨p, hp, hstored⟩ := List.any_eq_true.1 hstores
    refine List.any_eq_true.2 ⟨p, hp, ?_⟩
    rw [Bool.and_eq_true, Bool.or_eq_true, List.any_eq_true] at hstored ⊢
    exact hstored.imp_right (fun hheld => hheld.imp_right (fun hwritten =>
      hwritten.imp (fun task ht => ⟨h.agenda task ht.1, ht.2⟩)))

/-- Nothing is loose if each thing that is owned is owned by a handler that something has. -/
theorem loose_eq_nil_iff : e.loose = [] ↔ ∀ p ∈ e.captures, ∃ k, (k, p.2) ∈ e.captures ∧ e.has k = true := by
  rw [List.eq_nil_iff_forall_not_mem]
  constructor
  · intro hnone p hp
    have hkept := hnone p.2
    rw [mem_loose, not_and, not_forall] at hkept
    obtain ⟨k, hk⟩ := hkept ⟨p.1, hp⟩
    rw [Classical.not_imp, Bool.not_eq_false] at hk
    exact ⟨k, hk⟩
  · intro hall c hc
    obtain ⟨⟨k, hk⟩, hloose⟩ := mem_loose.1 hc
    obtain ⟨k', hk', hhas⟩ := hall (k, c) hk
    rw [hloose k' hk'] at hhas
    cases hhas

/-- So where nothing is loose nothing comes loose. -/
theorem Retains.loose_eq_nil (h : Retains e e') (hcaptures : e'.captures = e.captures) (hnone : e.loose = []) :
    e'.loose = [] := by
  rw [loose_eq_nil_iff] at hnone ⊢
  rw [hcaptures]
  exact fun p hp => (hnone p hp).imp (fun k hk => ⟨hk.1, h.has hk.2⟩)

/-- Tasks that are put first, and what begins to go on, let no handler go. -/
theorem retains_first (e : OwningSession) (tasks : List Task) (captures : List (Nat × Capture)) (frames : List Frame) :
    Retains e ⟨e.session.first tasks, captures, frames ++ e.frames⟩ where
  frames := fun _ hf => List.mem_append_right _ hf
  agenda := fun _ ht => List.mem_append_right _ ht
  owners := rfl
  lives := fun owner => by cases owner <;> rfl
  registries := fun owner => by cases owner <;> rfl
  unfinished := fun _ => rfl
  outlets := rfl
  loads := rfl
  cells := rfl
  names := rfl

/-- What others do between two tasks lets no handler go. -/
theorem retains_of_openBetween (h : Session.OpenBetween e.session t) : Retains e { e with session := t } := by
  cases h with
  | told c hidle =>
    refine ⟨fun _ hf => hf, fun _ ht => ?_, rfl, fun owner => ?_, fun owner => ?_, fun _ => rfl, rfl, rfl, rfl, rfl⟩
    · rw [hidle] at ht
      cases ht
    · cases owner <;> rfl
    · cases owner <;> rfl
  | outside histories hvaries pool hpool tasks htasks =>
    have hviews := Session.views_of_varies hvaries
    have hlisteners := Session.listeners_of_varies hvaries
    have hcount : histories.length = e.session.histories.length := hvaries.length_eq.symm
    refine ⟨fun _ hf => hf, fun _ ht => List.mem_append_right tasks ht, ?_, fun owner => ?_, fun owner => ?_, fun id => ?_,
      rfl, rfl, rfl, rfl⟩
    · simp only [Session.owners, Session.interrupt, Session.first, hcount]
    · cases owner with
      | history k =>
        have halive := congrArg (fun views => (views[k]?).any (·.2)) hviews
        simp only [List.getElem?_map, Option.any_map] at halive
        exact halive
      | _ => rfl
    · cases owner with
      | history k => exact congrArg (·[k]?) hlisteners
      | _ => rfl
    · simp only [Session.isUnfinished, Session.interrupt, Session.first, ← List.contains_append, hpool.1,
        hpool.2.contains_eq]

/-- After a turn nothing is loose, unless a call comes first. -/
theorem loose_settle (e : OwningSession) (t : Session) (hfree : (e.settle t).session.isCalling = false) :
    (e.settle t).loose = [] := by
  obtain ⟨hkept, hsettle⟩ | ⟨-, hsettle⟩ := settle_cases e t
  · rw [hsettle] at hfree ⊢
    exact hkept.resolve_right (fun hcalling => Bool.false_ne_true (hfree.symm.trans hcalling))
  · rw [hsettle, loose_eq_nil_iff]
    intro p hp
    have hhas := (List.mem_filter.1 hp).2
    exact ⟨p.1, hp, (retains_first (e.advance t) _ _ _).has hhas⟩

/-- Along every prompt run what a handler owned is let go as soon as nothing has the handler, and at the latest after a call
that comes first. -/
theorem Run.loose_eq_nil (h : Run (Session.PromptBetween inMemory) .empty us e) (hfree : e.session.isCalling = false) :
    e.loose = [] := by
  induction h with
  | start => rfl
  | step _ hstep ih =>
    cases hstep with
    | own hturn =>
      obtain ⟨t, -, -, rfl⟩ := settle_of_turn? hturn
      exact loose_settle _ t hfree
    | meanwhile hothers _ =>
      exact (retains_of_openBetween hothers.1.openStep).loose_eq_nil rfl (ih hothers.2)
    | @capture k c hhas _ =>
      have hnone := loose_eq_nil_iff.1 (ih hfree)
      refine loose_eq_nil_iff.2 (fun p hp => ?_)
      rcases List.mem_append.1 hp with hp | hp
      · obtain ⟨k', hk', hhas'⟩ := hnone p hp
        exact ⟨k', List.mem_append_left _ hk', hhas'⟩
      · obtain rfl := List.mem_singleton.1 hp
        exact ⟨k, List.mem_append_right _ (List.mem_singleton_self _), hhas⟩

/-! ## Going on -/

/-- The session after some turns, or where no turn is left that goes on. -/
def finish : Nat → OwningSession → OwningSession
  | 0, e => e
  | limit + 1, e =>
    match e.turn? with
    | some (.goes e') => finish limit e'
    | _ => e

/-- A run goes on by itself, unless a drop panics. -/
theorem exists_run_finish (h : ∃ us, Run others e us e') (limit : Nat) : ∃ us, Run others e us (e'.finish limit) := by
  induction limit generalizing e' with
  | zero => exact h
  | succ limit ih =>
    rw [finish]
    split
    · rename_i e'' hturn
      obtain ⟨us, hus⟩ := h
      exact ih ⟨_, hus.step (.own hturn)⟩
    · exact h

/-- The session after it was told to carry out a step from outside, and after some turns. -/
def tell (e : OwningSession) (limit : Nat) (c : Command) : OwningSession :=
  finish limit { e with session := e.session.begin c }

/-- A run goes on with what it is told, if others may tell it. -/
theorem exists_run_tell (h : ∃ us, Run others e us e') (limit : Nat) (c : Command)
    (hothers : others e'.session (e'.session.begin c)) (hfree : e'.isDropping = false) :
    ∃ us, Run others e us (e'.tell limit c) := by
  obtain ⟨us, hus⟩ := h
  exact exists_run_finish ⟨_, hus.step (.meanwhile hothers hfree)⟩ limit

/-- A closure may capture what its maker has, while nothing is being dropped. -/
theorem exists_run_capture (h : ∃ us, Run others e us e') (c : Capture) (hhas : e'.has k = true)
    (hfree : e'.isDropping = false) : ∃ us, Run others e us (e'.capture k c) := by
  obtain ⟨us, hus⟩ := h
  exact ⟨_, hus.step (.capture c hhas hfree)⟩

end OwningSession

end PathRouting
