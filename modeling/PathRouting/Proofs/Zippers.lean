import PathRouting.Proofs.NestedMoves

/-!
# Histories in memory as zippers

A history in memory keeps all its entries and a cursor. Another picture of it is the current path between those before and
those after it. Statements: the two pictures go the same ways by pushes and moves; so a history in memory is at every moment
of a run where the pushes and moves of it that were done lead a zipper to, whoever asked for them and in whatever round; and
a round of its listeners starts where a move succeeds, and nowhere else.
-/

namespace PathRouting

/-- A path between those that lead back from it, the nearest first, and those that lead on. -/
structure Zipper where
  past : List Text
  current : Text
  future : List Text
  deriving DecidableEq, Repr

namespace Zipper

/-- What is done to a history. -/
inductive Act where
  | push (path : Text)
  | move (onward : Bool)
  deriving DecidableEq, Repr

/-- A path alone. -/
def start (path : Text) : Zipper := ⟨[], path, []⟩

/-- A new path leads back to the one that was current, and nothing leads on from it. -/
def push (z : Zipper) (path : Text) : Zipper := ⟨z.current :: z.past, path, []⟩

/-- One path back, if there is one. -/
def back? : Zipper → Option Zipper
  | ⟨[], _, _⟩ => none
  | ⟨path :: past, current, future⟩ => some ⟨past, path, current :: future⟩

/-- One path on, if there is one. -/
def forward? : Zipper → Option Zipper
  | ⟨_, _, []⟩ => none
  | ⟨past, current, path :: future⟩ => some ⟨current :: past, path, future⟩

/-- One path on or back, if there is one. -/
def move? (z : Zipper) (onward : Bool) : Option Zipper := if onward then z.forward? else z.back?

/-- The zipper once something was done, if anything was. A move without a path to move to changes nothing. -/
def after (z : Zipper) : Option Act → Zipper
  | none => z
  | some (.push path) => z.push path
  | some (.move onward) => (z.move? onward).getD z

/-- The paths that rounds are started with when something is done: that of a move that succeeds. -/
def announced (z : Zipper) : Option Act → List Text
  | some (.move onward) => ((z.move? onward).map (·.current)).toList
  | _ => []

/-- The trail of these paths, with the cursor on the current one. -/
def trail (z : Zipper) : Trail := ⟨z.past.reverse ++ z.current :: z.future, z.past.length⟩

/-! ## Trails go the same ways -/

/-- The trail of a zipper is at an entry. -/
theorem isSound_trail (z : Zipper) : z.trail.IsSound := by
  simp only [Trail.IsSound, trail, List.length_append, List.length_reverse, List.length_cons]
  omega

/-- The trail of a zipper is at the entry that the zipper is at. -/
theorem current?_trail (z : Zipper) : z.trail.current? = some z.current := by
  rw [Trail.current?, trail, List.getElem?_append_right (by simp)]
  simp

theorem current_trail (z : Zipper) : z.trail.current = z.current := by
  rw [Trail.current, current?_trail, Option.getD_some]

/-- A push to the trail is a push to the zipper. -/
theorem push_trail (z : Zipper) (path : Text) : z.trail.push path = (z.push path).trail := by
  have htake : (z.past.reverse ++ z.current :: z.future).take (z.past.length + 1) = z.past.reverse ++ [z.current] := by
    rw [List.take_append, List.length_reverse, Nat.add_sub_cancel_left,
      List.take_of_length_le (by rw [List.length_reverse]; exact Nat.le_succ _)]
    rfl
  simp only [Trail.push, trail, push, htake, List.reverse_cons, List.length_cons]

/-- Back on the trail is back on the zipper. -/
theorem back?_trail (z : Zipper) : z.trail.back? = z.back?.map trail := by
  obtain ⟨past, current, future⟩ := z
  cases past with
  | nil => rfl
  | cons path past =>
    have hlt : past.length < (past.reverse ++ path :: current :: future).length := by
      simp only [List.length_append, List.length_reverse, List.length_cons]
      omega
    simp only [Trail.back?, trail, List.length_cons, back?, Option.map_some, List.reverse_cons, List.append_assoc,
      List.singleton_append, if_pos hlt]

/-- Forward on the trail is forward on the zipper. -/
theorem forward?_trail (z : Zipper) : z.trail.forward? = z.forward?.map trail := by
  obtain ⟨past, current, future⟩ := z
  cases future with
  | nil => simp [Trail.forward?, trail, forward?]
  | cons path future => simp [Trail.forward?, trail, forward?]

end Zipper

namespace Session

variable {s t : Session} {us : List Session} {inMemory : Nat → Prop} {h : Nat} {z : Zipper} {rest : List Task}

/-! ## Who announces -/

/-- Which histories announce what is pushed to them. -/
def manners (s : Session) : List Bool := s.histories.map (·.announces)

/-- Who listens makes no difference to who announces. -/
theorem manners_withRegistry (s : Session) (owner : Owner) (f : Registry → Registry) :
    (s.withRegistry owner f).manners = s.manners := by
  cases owner with
  | history k => exact map_modify_of_forall (f := fun g : History => { g with listeners := f g.listeners }) (fun _ => rfl) _ k
  | bare b => rfl
  | router r => rfl

/-- Where a history stands makes no difference to who announces. -/
theorem manners_withTrail (s : Session) (k : Nat) (f : History → Trail) :
    (s.withHistory k (fun g => { g with trail := f g })).manners = s.manners :=
  map_modify_of_forall (f := fun g : History => { g with trail := f g }) (fun _ => rfl) s.histories k

/-- Who announces depends on the histories only. -/
theorem manners_congr (hhistories : t.histories = s.histories) : t.manners = s.manners := by
  rw [manners, manners, hhistories]

/-- A subscription makes no difference to who announces. -/
theorem manners_subscribe (s : Session) (name : Text) (owner : Owner) (handler : Handler) :
    (s.subscribe name owner handler).manners = s.manners := by
  have hadded := manners_withRegistry (s.addHandler handler) owner (fun g => g.add (.handler s.handlers.length))
  unfold subscribe
  split
  · rfl
  · simp only
    split
    · exact hadded
    · exact (manners_withRegistry _ _ _).trans hadded

/-- Whatever is dropped, who announces stays the same. -/
theorem manners_drop (s : Session) (kind : Kind) (name : Text) : (s.drop kind name).manners = s.manners := by
  cases kind with
  | outlet => exact manners_congr (histories_dropOutlet s name)
  | subscription =>
    change (s.dropSubscription name).manners = s.manners
    unfold dropSubscription
    split
    · rfl
    · exact manners_withRegistry _ _ _
  | _ => rfl

/-- A new router makes no difference to who announces. -/
theorem manners_openRouter (s : Session) (name : Text) (k : Nat) (routes : List Route) :
    (s.openRouter name k routes).manners = s.manners := by
  unfold openRouter
  split
  · rfl
  · refine (manners_withRegistry _ _ _).trans (manners_congr ?_)
    rw [histories_activate]
    rfl

/-- A new outlet makes no difference to who announces. -/
theorem manners_openOutlet (s : Session) (name : Text) (r : Nat) (handler : Handler) :
    (s.openOutlet name r handler).manners = s.manners := by
  unfold openOutlet
  split
  · rfl
  · refine (manners_congr (histories_dropOutlet _ name)).trans ?_
    exact manners_withRegistry (s.addHandler handler) (.router r) (fun g => g.add (.handler s.handlers.length))

/-- Tasks leave it to a history whether it announces what is pushed to it. -/
theorem getElem?_manners_perform {b : Bool} (hb : s.manners[h]? = some b) (task : Task) :
    (s.perform task).manners[h]? = some b := by
  have hsame : ∀ {u : Session}, u.manners = s.manners → u.manners[h]? = some b := fun hu => hu ▸ hb
  cases houtward : task.isOutward with
  | false => exact hsame (manners_congr (staysHome_perform s houtward).histories)
  | true =>
    cases task with
    | openHistory name announces path =>
      have happend : (s.openHistory name announces path).manners = s.manners ++ [announces] := List.map_append
      rw [perform, happend, List.getElem?_append_left (List.getElem?_eq_some_iff.1 hb).1, hb]
    | openRouter name k routes => exact hsame (manners_openRouter s name k routes)
    | openOutlet name r handler => exact hsame (manners_openOutlet s name r handler)
    | subscribe name owner handler => exact hsame (manners_subscribe s name owner handler)
    | drop kind name => exact hsame (manners_drop s kind name)
    | push k path =>
      refine hsame ?_
      change (s.push k path).manners = s.manners
      unfold push
      split
      · rfl
      · simp only
        split <;> exact manners_withTrail s k _
    | move k onward =>
      refine hsame ?_
      change (s.move k onward).manners = s.manners
      unfold move
      split
      · rfl
      · exact manners_withTrail s k _
    | navigate r path => exact hsame (manners_congr (histories_navigate s r path))
    | resolve r path =>
      obtain ⟨_, _, _, _, heq⟩ := resolve_eq s r path
      refine hsame (manners_congr ?_)
      rw [perform, heq]
      rfl
    | drain r => exact hsame (manners_congr (histories_drain s r))
    | _ => cases houtward

/-- What ends makes no difference to who announces. -/
theorem manners_sweep (s : Session) : s.sweep.manners = s.manners := by
  refine List.ext_getElem? (fun k => ?_)
  have hget : s.sweep.histories[k]? = s.histories[k]?.map (fun g =>
      { g with listeners := g.listeners.prune s.endRouters.isAlive, alive := g.alive && s.endRouters.holdsHistory k }) :=
    List.getElem?_mapIdx
  rw [manners, manners, List.getElem?_map, List.getElem?_map, hget, Option.map_map]
  rfl

/-! ## Rounds that start -/

/-- The path of a round of the history's listeners that is about to start. -/
def roundOf? (h : Nat) : Task → Option Text
  | .notify (.history h') path => if h' = h then some path else none
  | _ => none

/-- The paths of the rounds of the history's listeners that are about to start. -/
def roundsOf (h : Nat) (tasks : List Task) : List Text := tasks.filterMap (roundOf? h)

/-- What the first task does to the history. -/
def actOn? (h : Nat) (s : Session) : Option Zipper.Act :=
  match s.agenda with
  | .push h' path :: _ => if h' = h then some (.push path) else none
  | .move h' onward :: _ => if h' = h then some (.move onward) else none
  | _ => none

theorem roundsOf_append (h : Nat) (a b : List Task) : roundsOf h (a ++ b) = roundsOf h a ++ roundsOf h b :=
  List.filterMap_append

/-- No step stands for a round of a history. -/
theorem roundsOf_plan (s : Session) (step : Step) (h : Nat) : roundsOf h (s.plan step).tasks = [] := by
  rw [roundsOf, List.filterMap_eq_nil_iff]
  intro task ht
  have hasked := isAsking_plan s step task ht
  cases task with
  | notify owner path =>
    cases owner with
    | history h' => exact absurd hasked id
    | _ => rfl
  | _ => rfl

/-- Only pushes and moves of a history lead to rounds of it. -/
theorem roundsOf_leads {task : Task} {new : List Task} (hleads : Leads s task new) (hpush : ∀ path, task ≠ .push h path)
    (hmove : ∀ onward, task ≠ .move h onward) : roundsOf h new = [] := by
  cases hleads with
  | command nested c =>
    rw [roundsOf_append, roundsOf_plan]
    rfl
  | announced h' path =>
    have hne : h' ≠ h := fun heq => hpush path (by rw [heq])
    simp [roundsOf, roundOf?, hne]
  | moved h' onward path =>
    have hne : h' ≠ h := fun heq => hmove onward (by rw [heq])
    simp [roundsOf, roundOf?, hne]
  | _ => rfl

/-! ## Histories that mirror a zipper -/

/-- The history stands where the zipper does, and does not announce what is pushed to it. -/
def Mirrors (s : Session) (h : Nat) (z : Zipper) : Prop := s.trail? h = some z.trail ∧ s.manners[h]? = some false

/-- A history that mirrors a zipper is there, with the trail of the zipper, and announces nothing. -/
theorem Mirrors.exists_history (hat : s.Mirrors h z) :
    ∃ history, s.histories[h]? = some history ∧ history.trail = z.trail ∧ history.announces = false := by
  obtain ⟨history, hhistory, htrail⟩ := Option.map_eq_some_iff.1 hat.1
  have hmanner := hat.2
  rw [manners, List.getElem?_map, hhistory] at hmanner
  exact ⟨history, hhistory, htrail, Option.some.inj hmanner⟩

/-- A history that mirrors a zipper can be moved where the zipper can. -/
theorem Mirrors.moved? (hat : s.Mirrors h z) (onward : Bool) : s.moved? h onward = (z.move? onward).map (·.trail) := by
  obtain ⟨history, hhistory, htrail, _⟩ := hat.exists_history
  rw [Session.moved?, hhistory, Option.bind_some, htrail, Zipper.move?]
  cases onward with
  | false => exact z.back?_trail
  | true => exact z.forward?_trail

/-- A push brings the history to the new path and starts no round. -/
theorem Mirrors.push (hat : s.Mirrors h z) (path : Text) :
    (s.push h path).trail? h = some (z.push path).trail ∧ (s.push h path).agenda = s.agenda := by
  obtain ⟨history, hhistory, htrail, hquiet⟩ := hat.exists_history
  have hpush : s.push h path = s.withHistory h (fun g => { g with trail := g.trail.push path }) := by
    simp [Session.push, hhistory, hquiet]
  rw [hpush]
  refine ⟨?_, rfl⟩
  change ((s.histories.modify h _)[h]?).map (·.trail) = _
  rw [List.getElem?_modify_eq, hhistory]
  change some (history.trail.push path) = _
  rw [htrail, Zipper.push_trail]

/-- A move without a path to move to changes nothing. -/
theorem Mirrors.move_eq_self {onward : Bool} (hat : s.Mirrors h z) (hend : z.move? onward = none) : s.move h onward = s := by
  simp only [Session.move, hat.moved?, hend, Option.map_none]

/-- Any other move brings the history to that path and starts a round with it. -/
theorem Mirrors.move {onward : Bool} {z' : Zipper} (hat : s.Mirrors h z) (hnext : z.move? onward = some z') :
    (s.move h onward).trail? h = some z'.trail ∧
      (s.move h onward).agenda = .notify (.history h) z'.current :: s.agenda := by
  have hmoved : s.moved? h onward = some z'.trail := by rw [hat.moved?, hnext, Option.map_some]
  rw [agenda_move hmoved, Zipper.current_trail]
  exact ⟨trail?_move hmoved, rfl⟩

/-- A step takes the history where it takes the zipper, and starts the rounds that it announces there. -/
theorem Mirrors.step (hat : s.Mirrors h z) (hstep : s.step? = some t) :
    t.Mirrors h (z.after (s.actOn? h)) ∧ roundsOf h t.agenda = z.announced (s.actOn? h) ++ roundsOf h s.agenda.tail := by
  obtain ⟨task, rest, hfirst, rfl⟩ := (step?_eq_some_iff s t).1 hstep
  have hat' : ({ s with agenda := rest } : Session).Mirrors h z := hat
  suffices hperform : (({ s with agenda := rest } : Session).perform task).trail? h = some (z.after (s.actOn? h)).trail ∧
      roundsOf h (({ s with agenda := rest } : Session).perform task).agenda =
        z.announced (s.actOn? h) ++ roundsOf h rest by
    refine ⟨⟨(trail?_sweep _ h).trans hperform.1, ?_⟩, by rw [hfirst]; exact hperform.2⟩
    rw [manners_sweep]
    exact getElem?_manners_perform hat'.2 task
  by_cases hpush : ∃ path, task = .push h path
  · obtain ⟨path, rfl⟩ := hpush
    have hact : s.actOn? h = some (.push path) := by simp [actOn?, hfirst]
    obtain ⟨htrail, hagenda⟩ := hat'.push path
    rw [hact]
    exact ⟨htrail, congrArg (roundsOf h) hagenda⟩
  by_cases hmove : ∃ onward, task = .move h onward
  · obtain ⟨onward, rfl⟩ := hmove
    have hact : s.actOn? h = some (.move onward) := by simp [actOn?, hfirst]
    rw [hact, Zipper.after, Zipper.announced, perform]
    cases hnext : z.move? onward with
    | none =>
      rw [hat'.move_eq_self hnext]
      exact ⟨hat.1, rfl⟩
    | some z' =>
      obtain ⟨htrail, hagenda⟩ := hat'.move hnext
      refine ⟨htrail, ?_⟩
      rw [hagenda]
      simp [roundsOf, roundOf?]
  · have hact : s.actOn? h = none := by
      have hpush' : ∀ path, task ≠ .push h path := fun path heq => hpush ⟨path, heq⟩
      have hmove' : ∀ onward, task ≠ .move h onward := fun onward heq => hmove ⟨onward, heq⟩
      unfold actOn?
      rw [hfirst]
      cases task with
      | push h' path => exact if_neg (fun heq => hpush' path (by rw [heq]))
      | move h' onward => exact if_neg (fun heq => hmove' onward (by rw [heq]))
      | _ => rfl
    obtain ⟨new, hagenda, hleads⟩ := leads_perform ({ s with agenda := rest } : Session) task
    rw [hact, hagenda, roundsOf_append, roundsOf_leads hleads (fun path heq => hpush ⟨path, heq⟩)
      (fun onward heq => hmove ⟨onward, heq⟩)]
    refine ⟨?_, rfl⟩
    exact trail?_perform hat.1 (fun path heq => hpush ⟨path, heq⟩) (fun onward heq => absurd ⟨onward, heq⟩ hmove)

/-! ## Runs -/

/-- Where the zipper is once the first tasks of the sessions were done, the last of them first. -/
def zipperAfter (h : Nat) (z : Zipper) (us : List Session) : Zipper := us.foldr (fun u z => z.after (u.actOn? h)) z

/-- A history in memory starts with its path alone. -/
theorem mirrors_openHistory {name path : Text} (hfirst : s.agenda = .openHistory name false path :: rest)
    (hstep : s.step? = some t) : t.Mirrors s.histories.length (.start path) := by
  obtain rfl := eq_of_step? hfirst hstep
  rw [Mirrors, trail?_sweep, manners_sweep]
  constructor
  · change ((s.histories ++ [_])[s.histories.length]?).map (·.trail) = _
    rw [List.getElem?_concat_length]
    rfl
  · change ((s.histories ++ [_]).map History.announces)[s.histories.length]? = _
    rw [List.getElem?_map, List.getElem?_concat_length]
    rfl

/-- A step of a regular run takes a history in memory where it takes the zipper, and starts the rounds that it announces
there. -/
theorem Mirrors.regularStep {l : List Session} (hat : s.Mirrors h z) (hh : inMemory h) (hstep : RegularStep inMemory s l t) :
    t.Mirrors h (zipperAfter h z l) ∧
      roundsOf h t.agenda = l.flatMap (fun u => z.announced (u.actOn? h)) ++ roundsOf h (s.agenda.drop l.length) := by
  cases hstep with
  | own hown =>
    obtain ⟨hat', hrounds⟩ := hat.step hown
    rw [List.flatMap_singleton, List.length_singleton, List.drop_one]
    exact ⟨hat', hrounds⟩
  | told c hidle =>
    rw [hidle]
    exact ⟨hat, rfl⟩
  | outside histories hvaries hsame pool hpool tasks htasks =>
    have hget : histories[h]? = s.histories[h]? := hsame h hh
    refine ⟨⟨(trail?_congr hget).trans hat.1, ?_⟩, ?_⟩
    · have hmanner := hat.2
      rw [manners, List.getElem?_map] at hmanner ⊢
      exact (congrArg (Option.map History.announces) hget).trans hmanner
    · have hnone : roundsOf h tasks = [] := by
        refine List.filterMap_eq_nil_iff.2 (fun task ht => ?_)
        cases htasks task ht with
        | script | drop => rfl
        | @announce h' hout path =>
          have hne : h' ≠ h := fun heq => hout (heq ▸ hh)
          exact if_neg hne
      change roundsOf h (tasks ++ s.agenda) = _
      rw [roundsOf_append, hnone]
      rfl

/-- Along a regular run a history in memory goes where the zipper goes. -/
theorem RegularRun.mirrors (hrun : RegularRun inMemory s us t) (hh : inMemory h) (hs : s.Mirrors h z) :
    t.Mirrors h (zipperAfter h z us) := by
  induction hrun with
  | start => exact hs
  | step _ hstep ih =>
    rw [zipperAfter, List.foldr_append]
    exact (ih.regularStep hh hstep).1

/-- A step back or forward of a history in memory answers whether there is a path to move to. -/
theorem Mirrors.agenda_of_asked {nested onward : Bool} {c : Command} {f : Field Text} {history : History}
    (hat : s.Mirrors h z) (hfirst : s.agenda = .command nested c :: rest)
    (hstep : c.step = if onward then .forward f else .back f) (hfound : s.lookUpMemory f = .ok (h, history)) :
    ∃ t, s.step? = some t ∧ t.agenda =
      .move h onward :: .answer nested c.word (.ok (.settled (.flag (z.move? onward).isSome))) :: rest := by
  have hmoved : (s.moved? h onward).isSome = (z.move? onward).isSome := by rw [hat.moved?, Option.isSome_map]
  have hplan : s.plan c.step = ⟨[.move h onward], .ok (.settled (.flag (z.move? onward).isSome))⟩ := by
    rw [hstep, ← hmoved]
    cases onward with
    | false => simp [plan, planned, hfound, bind, Except.bind, pure, Except.pure]
    | true => simp [plan, planned, hfound, bind, Except.bind, pure, Except.pure]
  refine ⟨_, (step?_eq_some_iff _ _).2 ⟨_, _, hfirst, rfl⟩, ?_⟩
  change (s.plan c.step).tasks ++ [.answer nested c.word (s.plan c.step).query] ++ rest = _
  rw [hplan]
  rfl

/-- A history is made in memory with a path. At every later moment of a run, whatever was pushed to it and however it was
moved, by callbacks in the middle of rounds too:
1. It has the entries and the cursor of the zipper that all pushes and moves so far, in the order in which they were done,
   lead to from the path. The cursor is on an entry, which is the current path of the zipper.
2. Whatever happens next starts one round of its listeners, with the path that is current then, if it is a move that the
   zipper can make; otherwise it starts none. In particular, pushes start none.
3. A move that the zipper cannot make changes nothing; any other brings the history to the path before the round starts.
4. A step back or forward makes this move next, and answers whether the zipper can make it. -/
theorem trail?_eq_zipperAfter {s₀ s₁ : Session} {name path : Text} {rest₀ : List Task}
    (hopen : s₀.agenda = .openHistory name false path :: rest₀) (hmade : s₀.step? = some s₁)
    (hmemory : inMemory s₀.histories.length) (hrun : RegularRun inMemory s₁ us t) :
    ∃ h z, h = s₀.histories.length ∧ z = zipperAfter h (.start path) us ∧
      (t.trail? h = some z.trail ∧ z.trail.cursor < z.trail.entries.length ∧ z.trail.current? = some z.current) ∧
      (∀ l t', RegularStep inMemory t l t' →
        roundsOf h t'.agenda = l.flatMap (fun u => z.announced (u.actOn? h)) ++ roundsOf h (t.agenda.drop l.length)) ∧
      (∀ onward rest, t.agenda = .move h onward :: rest →
        (z.move? onward = none → t.step? = some ({ t with agenda := rest } : Session).sweep) ∧
        ∀ z', z.move? onward = some z' →
          ∃ t', t.step? = some t' ∧ t'.trail? h = some z'.trail ∧ t'.agenda = .notify (.history h) z'.current :: rest) ∧
      ∀ (nested onward : Bool) (c : Command) (f : Field Text) (history : History) (rest : List Task),
        t.agenda = .command nested c :: rest → (c.step = if onward then .forward f else .back f) →
        t.lookUpMemory f = .ok (h, history) → ∃ t', t.step? = some t' ∧ t'.agenda =
          .move h onward :: .answer nested c.word (.ok (.settled (.flag (z.move? onward).isSome))) :: rest := by
  have hat := hrun.mirrors hmemory (mirrors_openHistory hopen hmade)
  refine ⟨_, _, rfl, rfl, ⟨hat.1, Zipper.isSound_trail _, Zipper.current?_trail _⟩,
    fun l t' hstep => (hat.regularStep hmemory hstep).2, ?_, ?_⟩
  · intro onward rest hfirst
    have hstep : t.step? = some (({ t with agenda := rest } : Session).move s₀.histories.length onward).sweep :=
      (step?_eq_some_iff _ _).2 ⟨_, _, hfirst, rfl⟩
    have hat' : ({ t with agenda := rest } : Session).Mirrors s₀.histories.length
        (zipperAfter s₀.histories.length (.start path) us) := hat
    constructor
    · intro hend
      rw [hstep, hat'.move_eq_self hend]
    · intro z' hnext
      obtain ⟨htrail, hagenda⟩ := hat'.move hnext
      exact ⟨_, hstep, (trail?_sweep _ _).trans htrail, hagenda⟩
  · intro nested onward c f history rest hfirst hstep hfound
    exact hat.agenda_of_asked hfirst hstep hfound

/-! ## A listener that pushes -/

/-- A history `h` is about to be made in memory, with the path `/`. -/
def historyAsked : Session := finishTasks 1 (empty.begin (.mk none (.newMemory (given "h") .absent .absent)))

/-- It was made. -/
def historyMade : Session := finishTasks 1 historyAsked

/-- From `/b`, after `/` and `/a`, it was moved back to `/a`, and its listener pushed `/c` when it was told. -/
def listenerPushed : Session :=
  ((historyAhead.doStep 9 (.mk none (.listen (given "l") (given "h")
    (.mk (.given [.mk none (.push (given "h") (given "/c"))]) .absent .absent))))).doStep 20 moveBack

/-- A listener that pushes while it is told of a move is part of a regular run. -/
theorem exists_regularRun_listenerPushed : ∃ us, RegularRun (· = 0) historyMade us listenerPushed := by
  have hmade : RegularRun (· = 0) historyMade (passed 9 historyMade) historyAtRoot :=
    List.append_nil (passed 9 historyMade) ▸ RegularRun.start.goOn 9
  refine exists_regularRun_doStep ?_ rfl 20 _
  refine exists_regularRun_doStep ?_ rfl 9 _
  refine exists_regularRun_doStep ?_ rfl 9 _
  exact exists_regularRun_doStep ⟨_, hmade⟩ rfl 9 _

/-- The push in the round of the move took the place of `/b`, and there is nothing to go on to. -/
theorem trail_listenerPushed : ∃ us, RegularRun (· = 0) historyMade us listenerPushed ∧
    (zipperAfter 0 (.start (Text.ofString "/")) us).trail = ⟨[Text.ofString "/", Text.ofString "/a", Text.ofString "/c"], 2⟩ := by
  obtain ⟨us, hrun⟩ := exists_regularRun_listenerPushed
  refine ⟨us, hrun, ?_⟩
  have hopen : historyAsked.agenda = .openHistory (Text.ofString "h") false (Text.ofString "/") ::
      [.answer false none (.ok (.settled .nothing))] := rfl
  have hmade : historyAsked.step? = some historyMade := rfl
  obtain ⟨h, z, rfl, rfl, ⟨htrail, _⟩, _⟩ :=
    @trail?_eq_zipperAfter listenerPushed us (· = 0) _ _ _ _ _ hopen hmade rfl hrun
  have hreached : listenerPushed.trail? 0 = some ⟨[Text.ofString "/", Text.ofString "/a", Text.ofString "/c"], 2⟩ := rfl
  exact Option.some.inj (htrail.symm.trans hreached)

end Session

end PathRouting
