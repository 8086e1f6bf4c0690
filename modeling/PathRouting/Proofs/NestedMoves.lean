import PathRouting.Proofs.Dues
import PathRouting.Proofs.Reentrance

/-!
# Moves inside moves

A listener of a history may move it again while the round of an earlier move goes on. The later move starts a round of its
own, and the earlier one goes on with its path afterwards. Statements: once a move has returned, the history is at the
entry of the last move, each listener was told of it, and it was told of it last unless an earlier round still had to call
it with another path when the last move was made; and there may be such rounds.
-/

namespace PathRouting

namespace Session

variable {s s' t : Session} {callback : Callback} {us us₀ : List Session} {inMemory : Nat → Prop} {h : Nat}
  {onward : Bool} {trail : Trail} {rest : List Task}

/-- The first task moves the history: there is an entry to move to. -/
def movesOn (h : Nat) (s : Session) : Bool :=
  match s.agenda with
  | .move h' onward :: _ => h' == h && (s.moved? h onward).isSome
  | _ => false

/-- The first task adds an entry to the history. -/
def pushesOn (h : Nat) (s : Session) : Bool :=
  match s.agenda with
  | .push h' _ :: _ => h' == h
  | _ => false

/-- The trail of a history. -/
def trail? (s : Session) (h : Nat) : Option Trail := s.histories[h]?.map (·.trail)

/-! ## Trails -/

/-- Who is registered makes no difference to the entries of a history. -/
theorem trail?_withRegistry (s : Session) (owner : Owner) (f : Registry → Registry) (h : Nat) :
    (s.withRegistry owner f).trail? h = s.trail? h := by
  cases owner with
  | history h' =>
    have hget := map_modify_of_forall (f := fun g : History => { g with listeners := f g.listeners })
      (g := fun g : History => g.trail) (fun _ => rfl) s.histories h'
    rw [trail?, trail?, ← List.getElem?_map, ← List.getElem?_map]
    exact congrArg (·[h]?) hget
  | bare b => rfl
  | router r => rfl

/-- The entries of a history rest on its record alone. -/
theorem trail?_congr (hhistories : t.histories[h]? = s.histories[h]?) : t.trail? h = s.trail? h := by
  rw [trail?, trail?, hhistories]

/-- A change to another history leaves the entries as they are. -/
theorem trail?_withHistory_of_ne {h' : Nat} (hne : h' ≠ h) (f : History → History) :
    (s.withHistory h' f).trail? h = s.trail? h := by
  refine trail?_congr ?_
  change (s.histories.modify h' f)[h]? = _
  simp [hne]

/-- What becomes active makes no difference to histories. -/
theorem histories_activate (s : Session) (r : Nat) (found : Option Match) :
    (s.activate r found).histories = s.histories := by
  cases found <;> rfl

/-- Whatever is dropped, the entries of a history stay. -/
theorem trail?_drop (s : Session) (kind : Kind) (name : Text) (h : Nat) : (s.drop kind name).trail? h = s.trail? h := by
  cases kind with
  | outlet => exact trail?_congr (by rw [drop, histories_dropOutlet])
  | subscription =>
    change (s.dropSubscription name).trail? h = s.trail? h
    unfold dropSubscription
    split
    · rfl
    · exact trail?_withRegistry _ _ _ h
  | _ => rfl

/-- A subscription leaves the entries of a history as they are. -/
theorem trail?_subscribe (s : Session) (name : Text) (owner : Owner) (handler : Handler) (h : Nat) :
    (s.subscribe name owner handler).trail? h = s.trail? h := by
  have hadded := trail?_withRegistry (s.addHandler handler) owner (fun g => g.add (.handler s.handlers.length)) h
  unfold subscribe
  split
  · rfl
  · simp only
    split
    · exact hadded
    · exact (trail?_withRegistry _ _ _ h).trans hadded

/-- Only pushes and moves change where a history stands. -/
theorem trail?_perform {task : Task} (htrail : s.trail? h = some trail) (hpush : ∀ path, task ≠ .push h path)
    (hmove : ∀ onward, task = .move h onward → s.moved? h onward = none) : (s.perform task).trail? h = some trail := by
  rw [← htrail]
  cases houtward : task.isOutward with
  | false => exact trail?_congr (by rw [(staysHome_perform s houtward).histories])
  | true =>
    cases task with
    | openHistory name announces path =>
      obtain ⟨history, hhistory, _⟩ := Option.map_eq_some_iff.1 htrail
      exact trail?_congr (List.getElem?_append_left (List.getElem?_eq_some_iff.1 hhistory).1)
    | openRouter name h' routes =>
      change (s.openRouter name h' routes).trail? h = s.trail? h
      unfold openRouter
      split
      · rfl
      · refine (trail?_withRegistry _ _ _ h).trans (trail?_congr ?_)
        rw [histories_activate]
        rfl
    | openOutlet name r handler =>
      change (s.openOutlet name r handler).trail? h = s.trail? h
      unfold openOutlet
      split
      · rfl
      · refine (trail?_congr (congrArg (·[h]?) (histories_dropOutlet _ name))).trans ?_
        exact trail?_withRegistry (s.addHandler handler) (.router r) (fun g => g.add (.handler s.handlers.length)) h
    | subscribe name owner handler => exact trail?_subscribe s name owner handler h
    | drop kind name => exact trail?_drop s kind name h
    | push h' path =>
      have hne : h' ≠ h := fun e => hpush path (by rw [e])
      change (s.push h' path).trail? h = s.trail? h
      unfold push
      split
      · rfl
      · simp only
        split <;> exact trail?_withHistory_of_ne hne _
    | move h' onward =>
      change (s.move h' onward).trail? h = s.trail? h
      by_cases hh : h' = h
      · simp only [move, hh, hmove onward (by rw [hh])]
      · unfold move
        split
        · rfl
        · exact trail?_withHistory_of_ne hh _
    | navigate r path => exact trail?_congr (by rw [perform, histories_navigate])
    | resolve r path =>
      change (s.resolve r path).trail? h = s.trail? h
      unfold resolve
      split
      · rfl
      · exact trail?_congr (congrArg (·[h]?) (histories_activate _ r _))
    | drain r => exact trail?_congr (by rw [perform, histories_drain])
    | _ => cases houtward

/-- A sweep leaves the entries of a history as they are. -/
theorem trail?_sweep (s : Session) (h : Nat) : s.sweep.trail? h = s.trail? h := by
  have hget : s.sweep.histories[h]? = s.histories[h]?.map (fun g =>
      { g with listeners := g.listeners.prune s.endRouters.isAlive, alive := g.alive && s.endRouters.holdsHistory h }) :=
    List.getElem?_mapIdx
  rw [trail?, trail?, hget, Option.map_map]
  rfl

/-! ## The last move -/

/-- A history moves on when a move comes up that it can make. -/
theorem movesOn_iff : s.movesOn h = true ↔
    ∃ onward rest trail, s.agenda = .move h onward :: rest ∧ s.moved? h onward = some trail := by
  unfold movesOn
  constructor
  · intro hmoves
    split at hmoves
    · rename_i h' onward rest hfirst
      rw [Bool.and_eq_true, beq_iff_eq, Option.isSome_iff_exists] at hmoves
      obtain ⟨rfl, trail, hmoved⟩ := hmoves
      exact ⟨onward, rest, trail, hfirst, hmoved⟩
    · cases hmoves
  · rintro ⟨onward, rest, trail, hfirst, hmoved⟩
    simp [hfirst, hmoved]

/-- After a move that can be made the history stands where it leads. -/
theorem trail?_move (hmoved : s.moved? h onward = some trail) : (s.move h onward).trail? h = some trail := by
  obtain ⟨history, hhistory, _⟩ := Option.bind_eq_some_iff.1 hmoved
  simp only [move, hmoved]
  change ((s.histories.modify h _)[h]?).map (·.trail) = some trail
  rw [List.getElem?_modify_eq, hhistory]
  rfl

/-- A move brings the history to an entry and starts a round with it. -/
theorem step_of_move (hfirst : s.agenda = .move h onward :: rest) (hmoved : s.moved? h onward = some trail)
    (hstep : s.step? = some t) :
    t.agenda = .notify (.history h) trail.current :: rest ∧ t.trail? h = some trail := by
  obtain rfl := eq_of_step? hfirst hstep
  rw [trail?_sweep]
  exact ⟨agenda_move (s := { s with agenda := rest }) hmoved, trail?_move (s := { s with agenda := rest }) hmoved⟩

/-- A history that is in memory stays where it is while nothing is pushed to it and nothing moves it. -/
theorem RegularRun.trail?_eq (hrun : RegularRun inMemory s us t) (hh : inMemory h) (htrail : s.trail? h = some trail)
    (hpush : ∀ v ∈ us, v.pushesOn h = false) (hmove : ∀ v ∈ us, v.movesOn h = false) :
    t.trail? h = some trail := by
  induction hrun with
  | start => exact htrail
  | @step us l t t' _ hstep ih =>
    have hbefore := ih (fun v hv => hpush v (List.mem_append_right l hv)) (fun v hv => hmove v (List.mem_append_right l hv))
    cases hstep with
    | own hown =>
      obtain ⟨task, rest, hfirst, rfl⟩ := (step?_eq_some_iff t t').1 hown
      rw [trail?_sweep]
      refine trail?_perform (s := { t with agenda := rest }) hbefore ?_ ?_
      · rintro path rfl
        exact absurd (hpush t (List.mem_cons_self ..)) (by simp [pushesOn, hfirst])
      · rintro onward rfl
        cases hmoved : t.moved? h onward with
        | none => exact hmoved
        | some trail =>
          have hmoves := movesOn_iff.2 ⟨onward, rest, trail, hfirst, hmoved⟩
          rw [hmove t (List.mem_cons_self ..)] at hmoves
          cases hmoves
    | told c hidle => exact hbefore
    | outside histories hvaries hsame pool hpool tasks htasks => exact (trail?_congr (hsame h hh)).trans hbefore

/-- The listeners of a history are called for moves and pushes of this history only. -/
theorem eq_nil_of_raises {place : Place} {key : Nat} {added : List Text} (hplace : s.KeepsTo callback (some place))
    (hseat : place.seat? = some (.history h, key)) (hpush : s.pushesOn h = false)
    (hmove : s.movesOn h = false) (hraises : s.Raises (some (.history h)) callback added) : added = [] := by
  cases hraises with
  | nothing => rfl
  | asked _ _ hhome => cases hhome
  | announced hfirst hhome =>
    cases hhome
    exact absurd hpush (by simp [pushesOn, hfirst])
  | moved hfirst hmoved hhome =>
    cases hhome
    rw [movesOn_iff.2 ⟨_, _, _, hfirst, hmoved⟩] at hmove
    cases hmove
  | resolved _ hhome => cases hhome
  | applied _ ho hcallback =>
    obtain rfl := Option.some.inj (hplace.outlets _ _ ho hcallback)
    cases hseat
  | written hc hcallback =>
    obtain rfl := Option.some.inj (hplace.cells _ _ hc hcallback)
    cases hseat

/-- While a history is neither pushed to nor moved, a listener of it is told what was owed to it before, and nothing else. -/
theorem RegularRun.callsOf_of_stays {entry : Nat × Callback} (hrun : RegularRun inMemory s us t) (hs : Placed s)
    (hh : inMemory h) (hms : entry ∈ s.callbacks (.history h)) (hmt : entry ∈ t.callbacks (.history h))
    (hpush : ∀ v ∈ us, v.pushesOn h = false) (hmove : ∀ v ∈ us, v.movesOn h = false) :
    callsOf entry.2 us ++ owed (some (.history h)) entry.2 t.agenda = owed (some (.history h)) entry.2 s.agenda := by
  obtain ⟨place, hplace, hseat⟩ := hs.exists_seat hms
  refine hrun.callsOf_append_owed ?_ (fun v hv => hrun.isAt hs hms hmt hv) ?_
  · rintro h' ⟨⟩
    exact hh
  · intro v hv added hraises
    have hplace' := hplace.of_known (hrun.between hv).1 (hs.isKnown hms)
    exact eq_nil_of_raises hplace' hseat (hpush v hv) (hmove v hv) hraises

/-- Whatever listeners do when they are called, as long as nothing is pushed to the history: when a move of a history in
memory returns that is not part of a round of it, then every listener that was registered all along was called, and it was
told last of the entry that the history is at exactly if, when the last move was made, no round still had to call it with
another path after all. -/
theorem lastHeard_of_move (hmade : RegularRun inMemory Session.empty us₀ s) (hh : inMemory h)
    (hfirst : s.agenda = .move h onward :: rest) (hpossible : (s.moved? h onward).isSome) (hstep : s.step? = some s')
    (hrun : RegularRun inMemory s' us t) (hreturn : t.agenda = rest)
    (hpush : ∀ v ∈ us, v.pushesOn h = false) :
    ∃ last path, (us ++ [s]).find? (movesOn h) = some last ∧ (t.trail? h).map (·.current) = some path ∧
      ∀ entry ∈ s.callbacks (.history h), entry ∈ t.callbacks (.history h) →
        owed (some (.history h)) entry.2 rest = [] →
        ∃ heard, (callsOf entry.2 (us ++ [s])).getLast? = some heard ∧
          (heard = path ↔ ∀ q, (owed (some (.history h)) entry.2 last.agenda).getLast? = some q → q = path) := by
  have hall : RegularRun inMemory s (us ++ [s]) t := (RegularRun.start.step (RegularStep.own hstep)).trans hrun
  have hpush' : ∀ v ∈ us ++ [s], v.pushesOn h = false := by
    intro v hv
    rcases List.mem_append.1 hv with hv | hv
    · exact hpush v hv
    · rw [List.mem_singleton.1 hv, pushesOn, hfirst]
  obtain ⟨trail, hmoved⟩ := Option.isSome_iff_exists.1 hpossible
  have hmoves : s.movesOn h = true := movesOn_iff.2 ⟨onward, rest, trail, hfirst, hmoved⟩
  cases hfind : (us ++ [s]).find? (movesOn h) with
  | none => exact absurd hmoves (List.find?_eq_none.1 hfind s (List.mem_append_right us (List.mem_singleton_self s)))
  | some last =>
    obtain ⟨hlast, later, older, hsplit, hno⟩ := List.find?_eq_some_iff_append.1 hfind
    have hsub : ∀ v ∈ later, v ∈ us ++ [s] := fun v hv => hsplit ▸ List.mem_append_left _ hv
    have hstays : ∀ v ∈ later, v.movesOn h = false := fun v hv => by simpa using hno v hv
    obtain ⟨last', holder, hlastStep, hlater⟩ := hall.cut hsplit
    obtain ⟨onward', rest', trail', hlastFirst, hlastMoved⟩ := movesOn_iff.1 hlast
    obtain ⟨hagenda, htrail⟩ := step_of_move hlastFirst hlastMoved hlastStep
    have hcurrent := hlater.trail?_eq hh htrail (fun v hv => hpush' v (hsub v hv)) hstays
    refine ⟨last, trail'.current, rfl, by rw [hcurrent]; rfl, ?_⟩
    intro entry hms hmt houter
    have hplaced : Placed s := hmade.openRun.placed
    have hbefore : Renews s last' := holder.openRun.renews.trans (renews_step hlastStep)
    have hmlast := hlater.openRun.renews.mem_callbacks (hbefore.known _ (hplaced.isKnown hms)) hmt
    have hcalls := hlater.callsOf_of_stays (hplaced.renews hbefore) hh hmlast hmt
      (fun v hv => hpush' v (hsub v hv)) hstays
    rw [hreturn, houter, List.append_nil, hagenda, owed_cons, Task.owes, if_pos rfl, List.singleton_append] at hcalls
    have howed : owed (some (.history h)) entry.2 last.agenda = owed (some (.history h)) entry.2 rest' := by
      rw [hlastFirst, owed_cons]
      rfl
    refine ⟨(owed (some (.history h)) entry.2 rest').getLast?.getD trail'.current, ?_, ?_⟩
    · rw [hsplit, callsOf_append, hcalls, List.getLast?_append, List.getLast?_cons]
      rfl
    · rw [howed]
      cases (owed (some (.history h)) entry.2 rest').getLast? with
      | none => simp
      | some q => simp

/-! ## A round that goes on -/

/-- The history is at `/b`, after `/` and `/a`. -/
def historyAhead : Session :=
  (historyAtRoot.doStep 9 (.mk none (.push (given "h") (given "/a")))).doStep 9 (.mk none (.push (given "h") (given "/b")))

/-- The first listener of the history will move it back once it is called, and there is a second one. -/
def moverListens : Session :=
  (historyAhead.doStep 9 (.mk none (.listen (given "a") (given "h") (.mk (.given [moveBack]) .absent .absent)))).doStep 9
    (.mk none (.listen (given "b") (given "h") (.mk .absent .absent .absent)))

/-- The history is about to be moved back. -/
def backAsked : Session := finishTasks 1 (moverListens.begin moveBack)

/-- It was moved back to `/a`. -/
def movedBack : Session := finishTasks 1 backAsked

/-- The first listener is about to move it on to `/`. -/
def backAskedAgain : Session := finishTasks 5 movedBack

/-- The first move has returned. -/
def moveReturned : Session := finishTasks 17 movedBack

/-- The move of the example comes up in a run. -/
theorem exists_regularRun_backAsked : ∃ us, RegularRun (fun _ => True) empty us backAsked := by
  have hlistens : ∃ us, RegularRun (fun _ => True) empty us moverListens := by
    refine exists_regularRun_doStep ?_ rfl 9 _
    refine exists_regularRun_doStep ?_ rfl 9 _
    refine exists_regularRun_doStep ?_ rfl 9 _
    refine exists_regularRun_doStep ?_ rfl 9 _
    exact exists_regularRun_doStep ⟨[], RegularRun.start⟩ rfl 9 _
  obtain ⟨us, hus⟩ := hlistens
  exact ⟨_, (hus.step (RegularStep.told moveBack rfl)).goOn 1⟩

/-- The move of the example returns after a run. -/
theorem regularRun_moveReturned : RegularRun (fun _ => True) movedBack (passed 17 movedBack) moveReturned :=
  List.append_nil (passed 17 movedBack) ▸ RegularRun.start.goOn 17

/-- Nothing is pushed on the history before the move of the example returns. -/
theorem spares_moveReturned : ∀ v ∈ passed 17 movedBack, v.pushesOn 0 = false := by decide +kernel

/-- The first listener was told last of `/`, where the history is. The second one was not: when the history was moved to
`/`, the round of `/a` had not come to it yet. -/
theorem lastHeard_moveReturned : (moveReturned.trail? 0).map (·.current) = some (Text.ofString "/") ∧
    (callsOf (.handler 0) (passed 17 movedBack ++ [backAsked])).getLast? = some (Text.ofString "/") ∧
    ∃ heard, (callsOf (.handler 1) (passed 17 movedBack ++ [backAsked])).getLast? = some heard ∧
      heard ≠ Text.ofString "/" := by
  obtain ⟨us₀, hmade⟩ := exists_regularRun_backAsked
  have hstep : backAsked.step? = some movedBack := rfl
  obtain ⟨last, path, hlast, hcurrent, hheard⟩ :=
    lastHeard_of_move hmade (h := 0) trivial rfl rfl hstep regularRun_moveReturned rfl spares_moveReturned
  obtain rfl : last = backAskedAgain := Option.some.inj (hlast.symm.trans rfl)
  obtain rfl : path = Text.ofString "/" := Option.some.inj (hcurrent.symm.trans rfl)
  obtain ⟨heard₀, hget₀, hiff₀⟩ := hheard (0, .handler 0) (by decide +kernel) (by decide +kernel) rfl
  obtain ⟨heard₁, hget₁, hiff₁⟩ := hheard (1, .handler 1) (by decide +kernel) (by decide +kernel) rfl
  have howed₀ : owed (some (.history 0)) (.handler 0) backAskedAgain.agenda = [] := rfl
  have howed₁ : owed (some (.history 0)) (.handler 1) backAskedAgain.agenda = [Text.ofString "/a"] := rfl
  refine ⟨hcurrent, ?_, heard₁, hget₁, ?_⟩
  · rw [hget₀, hiff₀.2]
    intro q hq
    rw [howed₀] at hq
    cases hq
  · intro hsame
    have hpath := hiff₁.1 hsame (Text.ofString "/a") (by rw [howed₁]; rfl)
    cases hpath

/-- The first task is no command of a callback, unless one that moves a history. -/
def asksMovesOnly (s : Session) : Bool :=
  match s.agenda with
  | .command true c :: _ =>
    match c.step with
    | .back _ => true
    | .forward _ => true
    | _ => false
  | _ => true

/-- A listener may be told last of an entry that its history is not at, although it was registered all along, callbacks asked
for nothing but moves, and the first move, which was part of no round, has returned. -/
theorem not_lastHeard_of_move : ¬∀ (inMemory : Nat → Prop) (us₀ us : List Session) (s s' t : Session) (h : Nat)
    (onward : Bool) (rest : List Task), RegularRun inMemory Session.empty us₀ s → inMemory h →
    s.agenda = .move h onward :: rest → (∀ task ∈ rest, task.passesOn = false) → (s.moved? h onward).isSome →
    s.step? = some s' → RegularRun inMemory s' us t → (∀ v ∈ us, v.asksMovesOnly = true) → t.agenda = rest →
    ∀ entry ∈ s.callbacks (.history h), entry ∈ t.callbacks (.history h) →
      (callsOf entry.2 (us ++ [s])).getLast? = (t.trail? h).map (·.current) := by
  intro hall
  obtain ⟨us₀, hmade⟩ := exists_regularRun_backAsked
  have hstep : backAsked.step? = some movedBack := rfl
  have hsame := hall (fun _ => True) us₀ _ _ _ _ 0 false _ hmade trivial rfl (by decide +kernel) rfl hstep
    regularRun_moveReturned (by decide +kernel) rfl (1, .handler 1) (by decide +kernel) (by decide +kernel)
  have hheard : (callsOf (.handler 1) (passed 17 movedBack ++ [backAsked])).getLast? = some (Text.ofString "/a") := rfl
  have hcurrent : (moveReturned.trail? 0).map (·.current) = some (Text.ofString "/") := rfl
  rw [hheard, hcurrent] at hsame
  cases hsame

end Session

end PathRouting
