import PathRouting.Proofs.GoneRouters

/-!
# Writes of a cell

A cell stores what is written and then calls its handler, which may write again, under any name of the cell. Statements:
whoever writes, and however the writes nest, each is applied to what the one before it left; the handler is called once for
each, and reads what that write has stored.
-/

namespace PathRouting

namespace Session

variable {s t u : Session} {inMemory : Nat → Prop} {c k : Nat} {v₀ : Props}

/-! ## Cells -/

/-- Who is registered makes no difference to the cells. -/
theorem cells_withRegistry (s : Session) (owner : Owner) (f : Registry → Registry) :
    (s.withRegistry owner f).cells = s.cells := by
  cases owner <;> rfl

/-- An outlet that is dropped leaves the cells as they are. -/
theorem cells_dropOutlet (s : Session) (name : Text) : (s.dropOutlet name).cells = s.cells := by
  unfold dropOutlet
  split
  · rfl
  · simp only
    split
    · rfl
    · exact cells_withRegistry _ _ _

/-- Tasks that neither make cells nor write them leave the cells as they are. -/
theorem cells_perform (s : Session) {task : Task} (h : task.isWriting = false) : (s.perform task).cells = s.cells := by
  cases hnaming : task.isNaming with
  | false => exact (fixtures_perform s hnaming).2.2 h
  | true =>
    cases task with
    | openHistory name announces path => cases announces <;> rfl
    | openRouter name i routes =>
      cases hhistory : s.histories[i]? with
      | none => simp only [perform, openRouter, hhistory]
      | some history =>
        obtain ⟨_, _, heq⟩ := openRouter_eq hhistory name routes
        rw [perform, heq]
        cases Route.resolve routes history.trail.current <;> rfl
    | openOutlet name r handler =>
      cases hregistry : s.registry? (.router r) with
      | none => simp only [perform, openOutlet, hregistry]
      | some observers =>
        rw [perform, openOutlet_eq hregistry]
        exact (cells_dropOutlet _ name).trans (cells_withRegistry _ _ _)
    | subscribe name owner handler =>
      rw [perform, subscribe]
      split
      · rfl
      · have hadded : ((s.addHandler handler).withRegistry owner (fun g => g.add (.handler s.handlers.length))).cells =
            s.cells := cells_withRegistry _ _ _
        split
        · exact hadded
        · exact (cells_withRegistry _ _ _).trans hadded
    | drop kind name =>
      cases kind with
      | outlet => exact cells_dropOutlet s name
      | subscription =>
        change (s.dropSubscription name).cells = s.cells
        unfold dropSubscription
        split
        · rfl
        · exact cells_withRegistry _ _ _
      | _ => rfl
    | openRegistry | nameRouter | nameWeak | nameSnapshot | nameScope | nameLink | nameCell | detach => rfl
    | openCell => cases h
    | _ => cases hnaming

/-! ## Runs -/

/-- Writes a cell with what a function makes of its value. -/
def updateBy (s : Session) (c : Nat) (f : Props → Props) : Session := s.write c (f (s.valueOf c))

end Session

/-- What happened at one moment of a run: the first task was done, or a cell was updated by a function. -/
inductive Moment where
  | did (s : Session)
  | updated (s : Session) (c : Nat) (f : Props → Props)

namespace Session

variable {s t u : Session} {inMemory : Nat → Prop} {c k : Nat} {v₀ : Props} {ms : List Moment}

/-- One step of a run in which cells are updated by any functions at any time, with what happened at that moment. Nothing
comes between a write and the call that it makes. -/
inductive WritingStep (inMemory : Nat → Prop) (s : Session) : List Moment → Session → Prop
  | regular {l : List Session} {t : Session} (h : RegularStep inMemory s l t) (hfree : l = [] → s.isCalling = false) :
      WritingStep inMemory s (l.map .did) t
  | updated (c : Nat) (f : Props → Props) (hfree : s.isCalling = false) :
      WritingStep inMemory s [.updated s c f] (s.updateBy c f)

/-- A run in which cells are updated by any functions at any time, with what happened, the latest first. -/
inductive WritingRun (inMemory : Nat → Prop) (s : Session) : List Moment → Session → Prop
  | start : WritingRun inMemory s [] s
  | step {ms l : List Moment} {t t' : Session} (h : WritingRun inMemory s ms t) (hstep : WritingStep inMemory t l t') :
      WritingRun inMemory s (l ++ ms) t'

/-- A run goes on by itself. -/
theorem WritingRun.goOn (h : WritingRun inMemory s ms t) (limit : Nat) :
    WritingRun inMemory s ((passed limit t).map .did ++ ms) (finishTasks limit t) := by
  induction limit generalizing ms t with
  | zero => exact h
  | succ limit ih =>
    rw [passed, finishTasks]
    cases hs : t.step? with
    | none => exact h
    | some next =>
      have hnext := ih (h.step (.regular (.own hs) (by simp)))
      rw [List.map_append, List.append_assoc]
      exact hnext

/-- An update by a closure leaves every callback at its place. -/
theorem renews_updateBy (s : Session) (c : Nat) (f : Props → Props) : Renews s (s.updateBy c f) := renews_write s c _

/-- A step with writes by closures in between leaves every callback at its place, and gives a new one a place. -/
theorem WritingStep.renews {l : List Moment} (h : WritingStep inMemory s l t) : Renews s t := by
  cases h with
  | regular h hfree => exact h.openStep.renews
  | updated c f hfree => exact renews_updateBy s c f

/-- Along such runs, too, a callback is called from its place only. -/
theorem WritingRun.exists_isEscorted (h : WritingRun inMemory Session.empty ms t) (callback : Callback) :
    ∃ place, t.IsEscorted callback place := by
  induction h with
  | start =>
    have hempty : RegularRun inMemory Session.empty [] Session.empty := .start
    exact hempty.exists_isEscorted callback
  | step _ hstep ih =>
    obtain ⟨place, hplace⟩ := ih
    refine hplace.renews hstep.renews (fun place hkeeps hcalls => ?_)
    cases hstep with
    | regular h hfree => exact escorted_of_regularStep h hkeeps hcalls
    | updated c f hfree => exact escorted_write hkeeps hcalls c _

/-! ## Values -/

/-- The values after each of some changes, in order. -/
def valuesAfter : Props → List (Props → Props) → List Props
  | _, [] => []
  | value, f :: later => f value :: valuesAfter (f value) later

/-- A change after others adds the value that it leaves. -/
theorem valuesAfter_concat (value : Props) (changes : List (Props → Props)) (f : Props → Props) :
    valuesAfter value (changes ++ [f]) =
      valuesAfter value changes ++ [f (changes.foldl (fun value change => change value) value)] := by
  induction changes generalizing value with
  | nil => rfl
  | cons change later ih => exact congrArg (change value :: ·) (ih (change value))

/-- There is one value for each change. -/
theorem length_valuesAfter (value : Props) (changes : List (Props → Props)) :
    (valuesAfter value changes).length = changes.length := by
  induction changes generalizing value with
  | nil => rfl
  | cons change later ih => exact congrArg (· + 1) (ih (change value))

/-- The last of the values is what all changes together come to. -/
theorem getLast?_valuesAfter (value : Props) (changes : List (Props → Props)) :
    (value :: valuesAfter value changes).getLast? = some (changes.foldl (fun value change => change value) value) := by
  induction changes generalizing value with
  | nil => rfl
  | cons change later ih => exact List.getLast?_cons_cons.trans (ih (change value))

/-- The value of the cell, if its handler is called by the first task and reads it. -/
def reads? (s : Session) (c k : Nat) : Option Props := (s.calledWith? (.handler k)).map (fun _ => s.valueOf c)

end Session

namespace Moment

/-- How the moment changes the value of a cell, if it does. -/
def alters? (c : Nat) : Moment → Option (Props → Props)
  | .did s =>
    match s.agenda with
    | .write c' value :: _ => if c' = c then some (fun _ => value) else none
    | .update c' added :: _ => if c' = c then some (fun value => value.combine added) else none
    | _ => none
  | .updated _ c' f => if c' = c then some f else none

/-- The value of a cell that a handler reads at the moment, if it is called. -/
def reads? (c k : Nat) : Moment → Option Props
  | .did s => s.reads? c k
  | .updated _ _ _ => none

end Moment

/-- The changes of a cell, in the order in which they were made. -/
def changesOf (c : Nat) (ms : List Moment) : List (Props → Props) := ms.reverse.filterMap (Moment.alters? c)

/-- The values of a cell that a handler reads in its calls, in order. -/
def readsOf (c k : Nat) (ms : List Moment) : List Props := ms.reverse.filterMap (Moment.reads? c k)

/-- The changes up to a moment are those before it and its own. -/
theorem changesOf_cons (c : Nat) (m : Moment) (ms : List Moment) :
    changesOf c (m :: ms) = changesOf c ms ++ (m.alters? c).toList := Session.filterMap_reverse_cons _ m ms

/-- The values read up to a moment are those before it and its own. -/
theorem readsOf_cons (c k : Nat) (m : Moment) (ms : List Moment) :
    readsOf c k (m :: ms) = readsOf c k ms ++ (m.reads? c k).toList := Session.filterMap_reverse_cons _ m ms

namespace Session

variable {s t u : Session} {inMemory : Nat → Prop} {c k : Nat} {v₀ : Props} {ms : List Moment}

/-! ## What a handler reads -/

/-- The cell has the value that its changes come to, its handler has read the value after each of them but for one that it
is about to read, and is owed no other call. -/
structure IsRead (s : Session) (c k : Nat) (v₀ : Props) (ms : List Moment) : Prop where
  keeps : s.KeepsTo (.handler k) (some (.cell c))
  known : (Callback.handler k).IsKnown s
  handler : s.cells[c]?.map (·.handler) = some k
  value : s.valueOf c = (changesOf c ms).foldl (fun value change => change value) v₀
  reads : readsOf c k ms ++ (s.reads? c k).toList = valuesAfter v₀ (changesOf c ms)
  owed : owed none (.handler k) s.agenda = (s.calledWith? (.handler k)).toList

/-- A moment at which the handler is not called reads nothing for it. -/
theorem reads?_of_not_called (h : s.calledWith? (.handler k) = none) : s.reads? c k = none := by
  rw [reads?, h]
  rfl

/-- No call of the handler is due where none is owed to it. -/
theorem calledWith?_of_owed (h : owed none (.handler k) s.agenda = []) : s.calledWith? (.handler k) = none := by
  rw [calledWith?]
  split
  · rename_i callback path rest hfirst
    rw [hfirst, owed_cons, List.append_eq_nil_iff] at h
    by_cases hcallback : callback = .handler k
    · rw [hcallback, Task.owes, if_pos rfl] at h
      cases h.1
    · exact if_neg hcallback
  · rfl

/-- Between two calls no handler is being called. -/
theorem not_called_of_free (h : s.isCalling = false) (callback : Callback) : s.calledWith? callback = none := by
  rw [isCalling] at h
  rw [calledWith?]
  split
  · rename_i hfirst
    rw [hfirst] at h
    cases h
  · rfl

/-- Where the cell is as it was and the handler is owed no call any more, what it has read is what it was about to read
too. -/
theorem IsRead.quiet (h : s.IsRead c k v₀ ms) (hr : Renews s t) (hcell : t.cells[c]? = s.cells[c]?)
    (howed : PathRouting.owed none (.handler k) t.agenda = []) {ms' : List Moment} (hchanges : changesOf c ms' = changesOf c ms)
    (hreads : readsOf c k ms' = readsOf c k ms ++ (s.reads? c k).toList) : t.IsRead c k v₀ ms' := by
  have hfree := calledWith?_of_owed howed
  have hvalue : t.valueOf c = s.valueOf c := by rw [valueOf, valueOf, hcell]
  refine ⟨h.keeps.of_known hr h.known, hr.known _ h.known, ?_, ?_, ?_, ?_⟩
  · rw [hcell, h.handler]
  · rw [hvalue, hchanges, h.value]
  · rw [reads?_of_not_called hfree, hreads, hchanges, ← h.reads]
    exact List.append_nil _
  · rw [howed, hfree]
    rfl

/-- A cell is called from no other place than itself. -/
theorem IsRead.ne_handler (h : s.IsRead c k v₀ ms) {c' : Nat} {cell : Cell} (hcell : s.cells[c']? = some cell)
    (hne : c' ≠ c) : Callback.handler cell.handler ≠ .handler k := by
  intro heq
  have hplace := h.keeps.cells c' cell hcell heq.symm
  exact hne (Place.cell.inj (Option.some.inj hplace)).symm

/-- An update writes the cell and puts the call of its handler first. -/
theorem updateBy_eq {cell : Cell} (h : s.cells[c]? = some cell) (f : Props → Props) : s.updateBy c f =
    ({ s with cells := s.cells.modify c (fun g => { g with value := f (s.valueOf c) }) } : Session).first
      [.call (.handler cell.handler) []] := by
  simp only [Session.updateBy, write, h]

/-- A write stores the value and then calls the handler, which reads it. -/
theorem IsRead.updateBy_self (h : s.IsRead c k v₀ ms) (howed : PathRouting.owed none (.handler k) s.agenda = []) {m : Moment}
    {f : Props → Props} (hchanges : changesOf c (m :: ms) = changesOf c ms ++ [f])
    (hreads : readsOf c k (m :: ms) = readsOf c k ms ++ (s.reads? c k).toList) : (s.updateBy c f).IsRead c k v₀ (m :: ms) := by
  obtain ⟨cell, hcell, rfl⟩ := Option.map_eq_some_iff.1 h.handler
  have hwritten := updateBy_eq hcell f
  have hat : (s.updateBy c f).cells[c]? = some { cell with value := f (s.valueOf c) } := by
    rw [hwritten]
    exact (List.getElem?_modify_eq _ _ _).trans (by rw [hcell]; rfl)
  have hcalled : (s.updateBy c f).calledWith? (.handler cell.handler) = some [] := by
    rw [hwritten]
    exact if_pos rfl
  have hvalue : (s.updateBy c f).valueOf c = f (s.valueOf c) := by rw [valueOf, hat]
  have hknown := (renews_updateBy s c f).known _ h.known
  refine ⟨h.keeps.of_known (renews_updateBy s c f) h.known, hknown, ?_, ?_, ?_, ?_⟩
  · rw [hat]
    rfl
  · rw [hvalue, hchanges, List.foldl_append, ← h.value]
    rfl
  · rw [hreads, h.reads, hchanges, valuesAfter_concat, ← h.value, reads?, hcalled, hvalue]
    rfl
  · rw [hcalled, hwritten]
    change PathRouting.owed none (.handler cell.handler) (.call (.handler cell.handler) [] :: s.agenda) = _
    rw [owed_cons, howed, Task.owes, if_pos rfl]
    rfl

/-- A write of another cell does not matter. -/
theorem IsRead.updateBy_ne (h : s.IsRead c k v₀ ms) (howed : PathRouting.owed none (.handler k) s.agenda = []) {m : Moment}
    {c' : Nat} (hne : c' ≠ c) (f : Props → Props) (hchanges : changesOf c (m :: ms) = changesOf c ms)
    (hreads : readsOf c k (m :: ms) = readsOf c k ms ++ (s.reads? c k).toList) :
    (s.updateBy c' f).IsRead c k v₀ (m :: ms) := by
  cases hcell : s.cells[c']? with
  | none =>
    have hsame : s.updateBy c' f = s := by simp only [Session.updateBy, write, hcell]
    rw [hsame]
    exact h.quiet (renews_refl s) rfl howed hchanges hreads
  | some cell =>
    have hwritten := updateBy_eq hcell f
    refine h.quiet (renews_updateBy s c' f) ?_ ?_ hchanges hreads
    · rw [hwritten]
      exact List.getElem?_modify_ne _ _ hne
    · rw [hwritten]
      change PathRouting.owed none (.handler k) (.call (.handler cell.handler) [] :: s.agenda) = _
      rw [owed_cons, howed, Task.owes, if_neg (h.ne_handler hcell hne)]
      rfl

/-- An update of any cell keeps what the handler has read in step with the changes. -/
theorem IsRead.updateBy (h : s.IsRead c k v₀ ms) (hfree : s.calledWith? (.handler k) = none) {m : Moment} {c' : Nat}
    {f : Props → Props} (halters : m.alters? c = if c' = c then some f else none) (hreads : m.reads? c k = none) :
    (s.updateBy c' f).IsRead c k v₀ (m :: ms) := by
  have howed : PathRouting.owed none (.handler k) s.agenda = [] := by
    rw [h.owed, hfree]
    rfl
  have hreads' : readsOf c k (m :: ms) = readsOf c k ms ++ (s.reads? c k).toList := by
    rw [readsOf_cons, hreads, reads?_of_not_called hfree]
  by_cases hc : c' = c
  · subst hc
    refine h.updateBy_self howed ?_ hreads'
    rw [changesOf_cons, halters, if_pos rfl]
    rfl
  · refine h.updateBy_ne howed hc f ?_ hreads'
    rw [changesOf_cons, halters, if_neg hc]
    exact List.append_nil _

/-- Nobody else calls the handler. -/
theorem IsRead.isAt_none (h : s.IsRead c k v₀ ms) : s.IsAt (.handler k) none := by
  rw [isAt_none_iff]
  intro owner key hm
  cases h.keeps.seat?_eq hm

/-- A task that writes no cell leads to no call of the handler. -/
theorem IsRead.owed_perform (h : s.IsRead c k v₀ ms) {task : Task} {rest : List Task} (hfirst : s.agenda = task :: rest)
    (hwriting : task.isWriting = false) (howed : PathRouting.owed none (.handler k) rest = []) :
    PathRouting.owed none (.handler k) (({ s with agenda := rest } : Session).perform task).agenda = [] := by
  obtain ⟨new, hagenda, hleads⟩ := leads_perform { s with agenda := rest } task
  have hnew : PathRouting.owed none (.handler k) new = [] →
      PathRouting.owed none (.handler k) (({ s with agenda := rest } : Session).perform task).agenda = [] := fun hnone => by
    rw [hagenda, owed_append, hnone, howed]
    rfl
  have hpoll : task = .poll →
      PathRouting.owed none (.handler k) (({ s with agenda := rest } : Session).perform task).agenda = [] := by
    rintro rfl
    change PathRouting.owed none (.handler k) (({ s with agenda := rest } : Session).poll).agenda = []
    rcases agenda_poll hfirst with ⟨o, outlet, -, ho, hcalls⟩ | ⟨-, left, hleft, hcalls⟩
    · have hne : ¬Callback.handler outlet.handler = .handler k := fun heq => by
        cases h.keeps.outlets o outlet ho heq.symm
      rw [hcalls, owed_cons, Task.owes, if_neg hne]
      exact howed
    · rw [hcalls, owed_append, owed_eq_nil (fun task ht => hleft task ht ▸ rfl), howed]
      rfl
  cases hleads with
  | command nested c => exact hnew (owed_plan _ _ nested c (fun _ => by simp))
  | announced i path => exact hnew rfl
  | notified owner path =>
    refine hnew ?_
    have hnone : (s.callbacks owner).countP (fun entry => entry.2 = .handler k) = 0 := h.isAt_none owner
    change List.replicate ((s.callbacks owner).countP _) path ++ [] = []
    rw [hnone]
    rfl
  | called owner entry later path =>
    have hsilent : s.calledWith? (.handler k) = none := by simp only [calledWith?, hfirst]
    have howes := h.owed
    rw [hsilent, hfirst, owed_cons, owes_round_cons] at howes
    obtain ⟨hcall, hround⟩ := List.append_eq_nil_iff.1 (List.append_eq_nil_iff.1 howes).1
    refine hnew ?_
    rw [owed_cons, owed_cons, hcall, hround]
    rfl
  | polled | loaded => exact hpoll rfl
  | written | updated => cases hwriting
  | _ => exact hnew rfl

/-- A sweep drops no cell. -/
theorem IsRead.sweep (h : s.IsRead c k v₀ ms) : s.sweep.IsRead c k v₀ ms :=
  ⟨h.keeps.of_known (renews_sweep s) h.known, h.known, h.handler, h.value, h.reads, h.owed⟩

/-- One task. -/
theorem IsRead.step (h : s.IsRead c k v₀ ms) (hstep : s.step? = some t) : t.IsRead c k v₀ (.did s :: ms) := by
  obtain ⟨task, rest, hfirst, rfl⟩ := (step?_eq_some_iff s t).1 hstep
  have hreads : readsOf c k (.did s :: ms) = readsOf c k ms ++ (s.reads? c k).toList := readsOf_cons c k _ ms
  have howed : PathRouting.owed none (.handler k) rest = [] := by
    have howed := h.owed
    rw [hfirst, owed_cons] at howed
    cases task with
    | call callback path =>
      rw [calledWith?_of_call hfirst] at howed
      exact List.append_right_eq_self.1 howed
    | _ =>
      have hsilent : s.calledWith? (.handler k) = none := by simp only [calledWith?, hfirst]
      rw [hsilent] at howed
      exact (List.append_eq_nil_iff.1 howed).2
  cases hwriting : task.isWriting with
  | false =>
    refine h.quiet (renews_step hstep) ?_ (h.owed_perform hfirst hwriting howed) ?_ hreads
    · change (({ s with agenda := rest } : Session).perform task).cells[c]? = s.cells[c]?
      rw [cells_perform _ hwriting]
    · rw [changesOf_cons]
      have hsame : (Moment.did s).alters? c = none := by
        simp only [Moment.alters?, hfirst]
        cases task <;> first | rfl | cases hwriting
      rw [hsame]
      exact List.append_nil _
  | true =>
    have hsilent : s.calledWith? (.handler k) = none := by
      rw [calledWith?, hfirst]
      cases task <;> first | rfl | cases hwriting
    have hpopped : IsRead { s with agenda := rest } c k v₀ ms := by
      refine h.quiet (t := { s with agenda := rest }) (Renews.of_wiring rfl) rfl howed rfl ?_
      rw [reads?_of_not_called hsilent]
      exact (List.append_nil _).symm
    have hsilent' : (Moment.did s).reads? c k = none := reads?_of_not_called hsilent
    cases task with
    | openCell name value handler =>
      refine h.quiet (renews_step hstep) ?_ howed ?_ hreads
      · obtain ⟨cell, hcell, -⟩ := Option.map_eq_some_iff.1 h.handler
        exact List.getElem?_append_left (List.getElem?_eq_some_iff.1 hcell).1
      · have hsame : (Moment.did s).alters? c = none := by simp only [Moment.alters?, hfirst]
        rw [changesOf_cons, hsame]
        exact List.append_nil _
    | write c' value =>
      exact (hpopped.updateBy (f := fun _ => value) (calledWith?_of_owed howed) (by simp only [Moment.alters?, hfirst])
        hsilent').sweep
    | update c' added =>
      exact (hpopped.updateBy (f := fun value => value.combine added) (calledWith?_of_owed howed)
        (by simp only [Moment.alters?, hfirst]) hsilent').sweep
    | _ => cases hwriting

/-- What the handler of a cell has read stays in step with its changes, whatever the step. -/
theorem IsRead.writingStep (h : s.IsRead c k v₀ ms) {l : List Moment} (hstep : WritingStep inMemory s l t) :
    t.IsRead c k v₀ (l ++ ms) := by
  cases hstep with
  | updated c' f hfree => exact h.updateBy (not_called_of_free hfree _) rfl rfl
  | regular hregular hfree =>
    have hrenews := hregular.openStep.renews
    cases hregular with
    | own hown => exact h.step hown
    | told command hidle =>
      have hsilent := not_called_of_free (hfree rfl) (.handler k)
      refine h.quiet hrenews rfl rfl rfl ?_
      rw [reads?_of_not_called hsilent]
      exact (List.append_nil _).symm
    | outside histories hvaries hsame pool hpool tasks htasks =>
      have hsilent := not_called_of_free (hfree rfl) (.handler k)
      refine h.quiet hrenews rfl ?_ rfl ?_
      · rw [owed_interrupt htasks (fun _ hnone => absurd hnone (by simp)), h.owed, hsilent]
        rfl
      · rw [reads?_of_not_called hsilent]
        exact (List.append_nil _).symm

/-- A cell that was just made has its first value, which nobody was told of. -/
theorem isRead_openCell (h : WritingRun inMemory Session.empty ms s) {name : Text} {value : Props} {handler : Handler}
    {rest : List Task} (hfirst : s.agenda = .openCell name value handler :: rest) (hstep : s.step? = some t) :
    t.IsRead s.cells.length s.handlers.length value [] := by
  have hrenews := renews_step hstep
  have hunknown : ¬(Callback.handler s.handlers.length).IsKnown s := Nat.lt_irrefl _
  obtain ⟨place, hescorted⟩ := h.exists_isEscorted (.handler s.handlers.length)
  obtain rfl : place = none := hescorted.known.resolve_left hunknown
  have howed := hescorted.calls.owed_of_none
  rw [hfirst, owed_cons] at howed
  obtain rfl := eq_of_step? hfirst hstep
  let made : Session := (({ s with agenda := rest } : Session).openCell name value handler).sweep
  have hcell : made.cells[s.cells.length]? = some ⟨value, s.handlers.length⟩ := List.getElem?_concat_length
  have hknown : (Callback.handler s.handlers.length).IsKnown made := by
    change s.handlers.length < (s.handlers ++ [handler]).length
    rw [List.length_append]
    exact Nat.lt_succ_self _
  obtain ⟨place, hplace⟩ := hrenews.places _ ⟨hunknown, hknown⟩ hescorted.keeps
  obtain rfl : place = .cell s.cells.length := Option.some.inj (hplace.cells _ _ hcell rfl)
  have hsilent : made.calledWith? (.handler s.handlers.length) = none :=
    calledWith?_of_owed (List.append_eq_nil_iff.1 howed).2
  change made.IsRead s.cells.length s.handlers.length value []
  refine ⟨hplace, hknown, congrArg (Option.map (·.handler)) hcell, ?_, ?_, ?_⟩
  · rw [valueOf, hcell]
    rfl
  · rw [reads?_of_not_called hsilent]
    rfl
  · rw [hsilent]
    exact (List.append_eq_nil_iff.1 howed).2

/-- What holds of a cell and the reads of its handler holds along every run. -/
theorem WritingRun.isRead {ns : List Moment} (h : WritingRun inMemory s ns t) (hs : s.IsRead c k v₀ ms) :
    t.IsRead c k v₀ (ns ++ ms) := by
  induction h with
  | start => exact hs
  | step _ hstep ih =>
    rw [List.append_assoc]
    exact ih.writingStep hstep

/-! ## Names of a cell -/

end Session

/-- The task gives the name to a cell, or takes it away. -/
def Task.rebindsCell (name : Text) : Task → Bool
  | .openCell other _ _ => other == name
  | .nameCell other _ => other == name
  | .drop .state other => other == name
  | _ => false

/-- The name is given to a cell at the moment, or taken away. -/
def Moment.rebindsCell (name : Text) : Moment → Bool
  | .did s => s.agenda.head?.any (Task.rebindsCell name)
  | .updated _ _ _ => false

namespace Session

variable {s t u : Session} {inMemory : Nat → Prop} {c k : Nat} {v₀ : Props} {ms : List Moment} {id : Text}

/-- All other tasks leave what the name stands for as it is. -/
theorem get?_cells_perform (s : Session) {task : Task} (h : task.rebindsCell id = false) :
    (s.perform task).names.cells.get? id = s.names.cells.get? id := by
  have hrenames := renames_perform s task
  generalize (s.perform task).names = names at hrenames ⊢
  cases hrenames with
  | openCell other value handler => exact Directory.get?_put _ (Ne.symm (beq_eq_false_iff_ne.1 h)) _
  | nameCell other c => exact Directory.get?_put _ (Ne.symm (beq_eq_false_iff_ne.1 h)) c
  | dropCell other => exact Directory.get?_erase _ (Ne.symm (beq_eq_false_iff_ne.1 h))
  | _ => rfl

/-- A name stands for its cell until it is given to another one or taken away. -/
theorem WritingRun.get?_cells (h : WritingRun inMemory s ms t) (hnot : ∀ m ∈ ms, m.rebindsCell id = false) :
    t.names.cells.get? id = s.names.cells.get? id := by
  induction h with
  | start => rfl
  | @step ms l t t' _ hstep ih =>
    have hsame := ih (fun m hm => hnot m (List.mem_append_right _ hm))
    cases hstep with
    | updated c f hfree =>
      refine Eq.trans ?_ hsame
      obtain ⟨_, _, heq⟩ := write_eq t c (f (t.valueOf c))
      rw [Session.updateBy, heq]
    | regular hregular hfree =>
      cases hregular with
      | own hown =>
        obtain ⟨task, rest, hfirst, rfl⟩ := (step?_eq_some_iff t t').1 hown
        have hother := hnot (.did t) (List.mem_append_left _ (List.mem_singleton_self _))
        rw [Moment.rebindsCell, hfirst] at hother
        exact (get?_cells_perform { t with agenda := rest } hother).trans hsame
      | told command hidle => exact hsame
      | outside histories hvaries hsame' pool hpool tasks htasks => exact hsame

/-- A name is one of the cell: reading answers its value, writing and updating work on it, and what is asked for another name
asks for one of the same cell. -/
structure NamesCell (s : Session) (state : Field Text) (c : Nat) : Prop where
  found : ∃ cell, s.lookUpCell state = .ok (c, cell)
  read : s.plan (.readState state) = .reply (.value (s.valueOf c))
  write : ∀ value, s.plan (.writeState state (.given value)) = .act (.write c value)
  update : ∀ added, s.plan (.updateState state (.given added)) = ⟨[.update c added], .ok (.valueOf c)⟩
  clone : ∀ id, s.plan (.cloneState (.given id) state) = .act (.nameCell id c)

/-- What a look-up finds is a name of the cell in every way. -/
theorem namesCell_of_lookUpCell {state : Field Text} {cell : Cell} (h : s.lookUpCell state = .ok (c, cell)) :
    s.NamesCell state c where
  found := ⟨cell, h⟩
  read := by
    have hcell : s.cells[c]? = some cell := (yields_lookUpIn s.cells s.names.cells state "state" _ h).1
    rw [plan, planned, h, valueOf, hcell]
    rfl
  write := fun value => by
    rw [plan, planned, h]
    rfl
  update := fun added => by
    rw [plan, planned, h]
    rfl
  clone := fun id => by
    rw [plan, planned, h]
    rfl

/-- What is called by a name that stands for a cell that there is, is the cell. -/
theorem namesCell_of_get? (hname : s.names.cells.get? id = some c) (hcell : ∃ cell, s.cells[c]? = some cell) :
    s.NamesCell (.given id) c := by
  obtain ⟨cell, hcell⟩ := hcell
  have hfind : s.names.cells.find id = .ok c := by rw [Directory.find, hname]
  have hlook : s.lookUpCell (.given id) = .ok (c, cell) := by
    simp only [lookUpCell, lookUpIn, Field.need, bind, Except.bind, hfind, hcell]
  exact namesCell_of_lookUpCell hlook

/-- A name of the cell is bound to it in the directory. -/
theorem NamesCell.get? (h : s.NamesCell (.given id) c) : s.names.cells.get? id = some c := by
  obtain ⟨cell, hfound⟩ := h.found
  simp only [lookUpCell, lookUpIn, Field.need, bind, Except.bind] at hfound
  cases hfind : s.names.cells.find id with
  | error e =>
    rw [hfind] at hfound
    cases hfound
  | ok place =>
    obtain ⟨cell', hplace⟩ : ∃ cell', s.cells[place]? = some cell' := by
      cases hcell : s.cells[place]? with
      | none =>
        simp only [hfind, hcell] at hfound
        cases hfound
      | some cell' => exact ⟨cell', rfl⟩
    simp only [hfind, hplace] at hfound
    obtain ⟨rfl, _⟩ := Prod.mk.inj (Except.ok.inj hfound)
    exact s.names.cells.yields_find id _ hfind

/-- A cell whose handler is followed is there. -/
theorem IsRead.exists_cell (h : s.IsRead c k v₀ ms) : ∃ cell, s.cells[c]? = some cell := by
  obtain ⟨cell, hcell, -⟩ := Option.map_eq_some_iff.1 h.handler
  exact ⟨cell, hcell⟩

/-- One more name that is given to the cell is a name of it. -/
theorem IsRead.namesCell_of_nameCell (h : s.IsRead c k v₀ ms) {rest : List Task}
    (hfirst : s.agenda = .nameCell id c :: rest) : ∃ t, s.step? = some t ∧ t.NamesCell (.given id) c := by
  have hstep := (step?_eq_some_iff s _).2 ⟨_, rest, hfirst, rfl⟩
  exact ⟨_, hstep, namesCell_of_get? (Directory.get?_put_self ..) (h.step hstep).exists_cell⟩

/-- Whoever writes a cell, under any of its names, inside its own handler or elsewhere, and whatever functions update it: its
value is what all changes come to, one after the other in the order in which they were made. Its handler was called for each
of them once, in that order, but for a call that is just being made, and has read in each call what that change left; so when
no call of it is being made, what it has read last is the value. The name that the cell is made under is a name of it, one
more that it is given is another, and each of them stays one until it is given to something else or taken away. -/
theorem WritingRun.no_change_is_lost (h : WritingRun inMemory Session.empty ms s) {name : Text} {value : Props}
    {handler : Handler} {rest : List Task} (hfirst : s.agenda = .openCell name value handler :: rest)
    (hstep : s.step? = some t) {ns : List Moment} (hlater : WritingRun inMemory t ns u) :
    u.valueOf s.cells.length =
        (changesOf s.cells.length ns).foldl (fun value change => change value) value ∧
      readsOf s.cells.length s.handlers.length ns ++ (u.reads? s.cells.length s.handlers.length).toList =
        valuesAfter value (changesOf s.cells.length ns) ∧
      (u.calledWith? (.handler s.handlers.length) = none →
        (readsOf s.cells.length s.handlers.length ns).length = (changesOf s.cells.length ns).length ∧
        (value :: readsOf s.cells.length s.handlers.length ns).getLast? = some (u.valueOf s.cells.length)) ∧
      (∀ state cell, u.lookUpCell state = .ok (s.cells.length, cell) → u.NamesCell state s.cells.length) ∧
      t.NamesCell (.given name) s.cells.length ∧
      (∀ id rest, u.agenda = .nameCell id s.cells.length :: rest →
        ∃ v, u.step? = some v ∧ v.NamesCell (.given id) s.cells.length) ∧
      ∀ id, u.NamesCell (.given id) s.cells.length → ∀ ls v, WritingRun inMemory u ls v →
        (∀ m ∈ ls, m.rebindsCell id = false) → v.NamesCell (.given id) s.cells.length := by
  have hmade := isRead_openCell h hfirst hstep
  have hread : u.IsRead s.cells.length s.handlers.length value ns := List.append_nil ns ▸ hlater.isRead hmade
  refine ⟨hread.value, hread.reads, fun hsilent => ?_, fun state cell hcell => namesCell_of_lookUpCell hcell, ?_,
    fun id rest hnaming => hread.namesCell_of_nameCell hnaming, fun id hnames ls v hafter hnot => ?_⟩
  · have hreads := hread.reads
    rw [reads?_of_not_called hsilent, Option.toList_none, List.append_nil] at hreads
    rw [hreads, length_valuesAfter, getLast?_valuesAfter, hread.value]
    exact ⟨rfl, rfl⟩
  · obtain rfl := eq_of_step? hfirst hstep
    exact namesCell_of_get? (Directory.get?_put_self ..) hmade.exists_cell
  · exact namesCell_of_get? ((hafter.get?_cells hnot).trans hnames.get?) (hafter.isRead hread).exists_cell

/-! ## A handler that writes again -/

/-- A cell `v` with the empty text is about to be made. The first time its handler is called, it gives the cell the name `x`
and adds a text under that name. -/
def cellAsked : Session :=
  finishTasks 1 (empty.begin (.mk none (.newState (given "v") (.given (.text []))
    (.mk (.given [.mk none (.cloneState (given "x") (given "v")),
      .mk none (.updateState (given "x") (.given (.text ['b'])))]) .absent .absent))))

/-- The cell is made. -/
def cellMade : Session := finishTasks 1 cellAsked

/-- The cell is about to be given one more name, `w`. -/
def nameAsked : Session :=
  finishTasks 1 ((finishTasks 9 cellMade).begin (.mk none (.cloneState (given "w") (given "v"))))

/-- The cell was given the name `w`. -/
def cellNamed : Session := finishTasks 1 nameAsked

/-- A text is added to the cell under its second name. -/
def addText : Command := .mk none (.updateState (given "w") (.given (.text ['a'])))

/-- A text was added to the cell, with all that this led to. -/
def cellUpdated : Session := (finishTasks 9 cellNamed).doStep 20 addText

/-- The handler reads the text that was added under the second name, and then what it has added itself under a third one,
which is the value in the end; and the second name is one of the cell all the time. -/
theorem no_change_is_lost_cellUpdated : ∃ ms ns, WritingRun (fun _ => True) empty ms cellAsked ∧
    WritingRun (fun _ => True) cellMade ns cellUpdated ∧
    readsOf 0 0 ns = [.text ['a'], .text ['a', 'b']] ∧ cellUpdated.valueOf 0 = .text ['a', 'b'] ∧
    cellUpdated.NamesCell (given "w") 0 := by
  have hasked : WritingRun (fun _ => True) empty _ cellAsked :=
    (WritingRun.start.step (.regular (.told _ rfl) (fun _ => rfl))).goOn 1
  have hmade : WritingRun (fun _ => True) cellMade _ (finishTasks 9 cellMade) := WritingRun.start.goOn 9
  have hnaming : WritingRun (fun _ => True) cellMade _ nameAsked :=
    (hmade.step (.regular (.told _ rfl) (fun _ => rfl))).goOn 1
  have hnamed : WritingRun (fun _ => True) cellMade _ cellNamed := hnaming.goOn 1
  have hidle : WritingRun (fun _ => True) cellNamed _ (finishTasks 9 cellNamed) := WritingRun.start.goOn 9
  have hadded : WritingRun (fun _ => True) cellNamed _ cellUpdated :=
    (hidle.step (.regular (.told addText rfl) (fun _ => rfl))).goOn 20
  have hlater : WritingRun (fun _ => True) cellMade _ cellUpdated :=
    ((hnamed.goOn 9).step (.regular (.told addText rfl) (fun _ => rfl))).goOn 20
  obtain ⟨-, -, -, -, -, hnames, -⟩ := hasked.no_change_is_lost (t := cellMade) rfl rfl hnaming
  obtain ⟨v, hv, hsecond⟩ := hnames (Text.ofString "w") _ rfl
  obtain rfl : cellNamed = v := Option.some.inj ((rfl : nameAsked.step? = some cellNamed).symm.trans hv)
  obtain ⟨-, -, -, -, -, -, hstays⟩ := hasked.no_change_is_lost (t := cellMade) rfl rfl hnamed
  obtain ⟨hvalue, hreads, -⟩ := hasked.no_change_is_lost (t := cellMade) rfl rfl hlater
  refine ⟨_, _, hasked, hlater, ?_, hvalue, hstays _ hsecond _ _ hadded (by decide +kernel)⟩
  have hsilent : cellUpdated.reads? 0 0 = none := rfl
  change readsOf 0 0 _ ++ (cellUpdated.reads? 0 0).toList = _ at hreads
  rw [hsilent] at hreads
  exact (List.append_nil _).symm.trans hreads

end Session

end PathRouting
