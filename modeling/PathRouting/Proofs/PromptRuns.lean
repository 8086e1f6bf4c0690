import PathRouting.Proofs.GoneRouters
import PathRouting.Proofs.ObserverKeys

/-!
# Prompt runs

Regular runs in which nothing comes between a call and what leads to it: who starts a round, applies the value of a load or
writes a cell makes the call at once. Statements: a call is always the first task there is, and an outlet whose handler is
called has a router that lives; so when a router is gone its observers are called by nobody.
-/

namespace PathRouting

namespace Session

variable {s t : Session} {us : List Session} {inMemory : Nat → Prop} {r : Nat}

/-- A regular run in which nothing comes between a call and what leads to it, with the sessions whose first tasks were done,
the latest first. -/
inductive PromptRun (inMemory : Nat → Prop) (s : Session) : List Session → Session → Prop
  | start : PromptRun inMemory s [] s
  | step {us l : List Session} {t t' : Session} (h : PromptRun inMemory s us t) (hstep : RegularStep inMemory t l t')
      (hprompt : l = [] → t.isCalling = false) : PromptRun inMemory s (l ++ us) t'

/-- A prompt run is a regular one. -/
theorem PromptRun.regularRun (h : PromptRun inMemory s us t) : RegularRun inMemory s us t := by
  induction h with
  | start => exact .start
  | step _ hstep _ ih => exact ih.step hstep

/-- Two prompt runs in a row are one. -/
theorem PromptRun.trans {u : Session} {vs : List Session} (h : PromptRun inMemory s us t) (h' : PromptRun inMemory t vs u) :
    PromptRun inMemory s (vs ++ us) u := by
  induction h' with
  | start => exact h
  | step _ hstep hprompt ih =>
    rw [List.append_assoc]
    exact ih.step hstep hprompt

/-! ## Calls -/

/-- A call is not left behind other tasks. -/
def CallsFirst (s : Session) : Prop :=
  ∀ task rest, s.agenda = task :: rest → ∀ callback path, .call callback path ∉ rest

/-- Where no callback is being called, none is going to be. -/
theorem CallsFirst.notMem (h : s.CallsFirst) (hfree : s.isCalling = false) (callback : Callback) (path : Text) :
    .call callback path ∉ s.agenda := by
  cases hagenda : s.agenda with
  | nil => exact List.not_mem_nil
  | cons task rest =>
    intro hm
    rcases List.mem_cons.1 hm with rfl | hm
    · rw [isCalling, hagenda] at hfree
      cases hfree
    · exact h task rest hagenda callback path hm

/-- A task leads to one call at most, which comes first. -/
theorem Leads.notMem_tail {task first : Task} {new later : List Task} (h : Leads s task new) (hnew : new = first :: later)
    (callback : Callback) (path : Text) : .call callback path ∉ later := by
  cases h with
  | nothing => cases hnew
  | command nested c =>
    intro hm
    have hall : .call callback path ∈ (s.plan c.step).tasks ++ [.answer nested c.word (s.plan c.step).query] :=
      hnew ▸ List.mem_cons_of_mem _ hm
    rcases List.mem_append.1 hall with hplan | hanswer
    · exact isAsking_plan s c.step _ hplan
    · cases List.mem_singleton.1 hanswer
  | _ =>
    obtain ⟨-, rfl⟩ := List.cons.inj hnew
    simp

/-- A call that is about to be made after a task is one that the task leads to. -/
theorem CallsFirst.mem_new (h : s.CallsFirst) {task : Task} {rest : List Task} (hfirst : s.agenda = task :: rest)
    {new : List Task} (hagenda : t.agenda = new ++ rest) {callback : Callback} {path : Text}
    (hcall : .call callback path ∈ t.agenda) : .call callback path ∈ new := by
  rw [hagenda] at hcall
  exact (List.mem_append.1 hcall).resolve_right (h task rest hfirst callback path)

/-- A step leaves the calls of a prompt run before everything else. -/
theorem CallsFirst.step (h : s.CallsFirst) (hstep : s.step? = some t) : t.CallsFirst := by
  obtain ⟨task, rest, hfirst, rfl⟩ := (step?_eq_some_iff s t).1 hstep
  obtain ⟨new, hagenda, hleads⟩ := leads_perform { s with agenda := rest } task
  intro first later hall callback path hm
  have hall' : new ++ rest = first :: later := hagenda.symm.trans hall
  have hnone := h task rest hfirst callback path
  cases new with
  | nil =>
    rw [List.nil_append] at hall'
    exact hnone (hall' ▸ List.mem_cons_of_mem _ hm)
  | cons head tail =>
    obtain ⟨-, rfl⟩ := List.cons.inj hall'
    exact (List.mem_append.1 hm).elim (hleads.notMem_tail rfl callback path) hnone

/-- Along every prompt run calls come first. -/
theorem PromptRun.callsFirst (h : PromptRun inMemory Session.empty us t) : t.CallsFirst := by
  induction h with
  | start => exact fun _ _ hall => by cases hall
  | @step us l t t' _ hstep hprompt ih =>
    cases hstep with
    | own hown => exact ih.step hown
    | told c hidle =>
      intro first later hall
      obtain ⟨-, rfl⟩ := List.cons.inj hall
      exact fun _ _ => List.not_mem_nil
    | outside histories hvaries hsame pool hpool tasks htasks =>
      intro first later hall callback path hm
      have hall' : .call callback path ∈ tasks ++ t.agenda := by
        change tasks ++ t.agenda = first :: later at hall
        exact hall ▸ List.mem_cons_of_mem _ hm
      rcases List.mem_append.1 hall' with hm | hm
      · cases htasks _ hm
      · exact ih.notMem (hprompt rfl) callback path hm

/-! ## Calls of outlets -/

/-- A name of a router stays while names stay. -/
theorem IsNamed.renews (h : s.IsNamed r) (hr : Renews s t) (hnames : t.names = s.names) : t.IsNamed r := by
  cases h with
  | handle h => exact .handle (hnames.symm ▸ h)
  | scope h hr => exact .scope (hnames.symm ▸ h) hr
  | outlet h ho hrouter =>
    obtain ⟨outlet', ho', hseat⟩ := hr.exists_outlet ho
    exact .outlet (hnames.symm ▸ h) ho' ((Outlet.eq_of_seat_eq hseat).1.trans hrouter)
  | link h hr => exact .link (hnames.symm ▸ h) hr

/-- A poll ends no router. -/
theorem isAlive_of_poll (h : RegularRun inMemory Session.empty us s) {rest : List Task} (hfirst : s.agenda = .poll :: rest)
    (halive : s.isAlive r = true) : (({ s with agenda := rest } : Session).perform .poll).sweep.isAlive r = true := by
  have hlt : r < s.routers.length := lt_of_isAlive halive
  have htaken : Renews s { s with agenda := rest } := Renews.of_wiring rfl
  have hrenews := htaken.trans (renews_perform { s with agenda := rest } .poll)
  obtain ⟨new, hagenda, -⟩ := leads_perform { s with agenda := rest } .poll
  rw [isAlive_sweep, Bool.and_eq_true, holdsRouter_iff]
  refine ⟨(isAlive_perform { s with agenda := rest } .poll hlt).trans halive, ?_⟩
  rcases (h.isAlive_iff_isHeld hlt).1 halive with hnamed | ⟨task, ht, hheld⟩
  · exact Or.inl (hnamed.renews hrenews (names_perform { s with agenda := rest } rfl))
  · rw [hfirst] at ht
    rcases List.mem_cons.1 ht with rfl | ht
    · cases hheld
    · exact Or.inr ⟨task, hagenda ▸ List.mem_append_right new ht, hheld⟩

/-- A write leads to a call of the handler of a cell, which is that of no outlet. -/
theorem notMem_of_write {k o key c : Nat} {value : Props} {rest new : List Task}
    (hkeeps : s.KeepsTo (.handler k) (some (.outlet o r key)))
    (hagenda : (({ s with agenda := rest } : Session).write c value).agenda = new ++ rest) (path : Text) :
    .call (.handler k) path ∉ new := by
  intro hcall
  rcases exists_cell_of_write { s with agenda := rest } c value with hnone | ⟨cell, hcell, hcalls⟩
  · have hnew : new = [] := List.append_cancel_right (hagenda.symm.trans (hnone.trans (List.nil_append rest).symm))
    rw [hnew] at hcall
    cases hcall
  · have hnew : new = [.call (.handler cell.handler) []] := List.append_cancel_right (hagenda.symm.trans hcalls)
    rw [hnew] at hcall
    cases hkeeps.cells c cell hcell (Task.call.inj (List.mem_singleton.1 hcall)).1

/-- An outlet whose handler a task leads to a call of has a router that lives then. -/
theorem isAlive_of_mem_new (h : RegularRun inMemory Session.empty us s) (hstep : s.step? = some t) {task : Task}
    {rest new : List Task} (hfirst : s.agenda = task :: rest)
    (hagenda : (({ s with agenda := rest } : Session).perform task).agenda = new ++ rest)
    (hleads : Leads { s with agenda := rest } task new) {o : Nat} {outlet : Outlet} (ho : s.outlets[o]? = some outlet)
    {path : Text} (hcall : .call (.handler outlet.handler) path ∈ new) : t.isAlive outlet.router = true := by
  have hlater : RegularRun inMemory Session.empty (s :: us) t := h.step (.own hstep)
  obtain rfl := eq_of_step? hfirst hstep
  obtain ⟨place, hescorted⟩ := h.exists_isEscorted (.handler outlet.handler)
  have hplace := hescorted.keeps.outlets o outlet ho rfl
  cases hleads with
  | called owner entry later path' =>
    obtain ⟨hentry, rfl⟩ : Callback.handler outlet.handler = entry.2 ∧ path = path' := by simpa using hcall
    have hcalls := hescorted.calls
    rw [hfirst] at hcalls
    have hround : .round owner later path ∈ (({ s with agenda := rest } : Session).perform
        (.round owner (entry :: later) path)).sweep.agenda := by
      change _ ∈ (({ s with agenda := rest } : Session).perform (.round owner (entry :: later) path)).agenda
      rw [hagenda]
      simp
    have howner : owner = .router outlet.router := by
      cases hcalls with
      | silent howes =>
        rw [owes_round_cons, hentry, Task.owes, if_pos rfl] at howes
        cases howes
      | round hseat =>
        rw [hplace] at hseat
        exact (Prod.mk.inj (Option.some.inj hseat)).1.symm
    subst howner
    have hmem : outlet.router ∈ (Task.round (.router outlet.router) later path).routers := List.mem_singleton_self _
    exact hlater.isAlive_of_mem_routers hround rfl hmem
  | loaded index =>
    rcases agenda_poll hfirst with ⟨o', outlet', happlied, ho', hcalls⟩ | ⟨-, left, hleft, hcalls⟩
    · have hnew : [.call (.handler index) [], .poll] = [Task.call (.handler outlet'.handler) [], .poll] :=
        List.append_cancel_right (hagenda.symm.trans hcalls)
      have hhandler : outlet.handler = outlet'.handler := by
        rw [hnew] at hcall
        have hfirst : Task.call (.handler outlet.handler) path = .call (.handler outlet'.handler) [] :=
          (List.mem_cons.1 hcall).resolve_right (by simp)
        exact Callback.handler.inj (Task.call.inj hfirst).1
      have hplace' := hescorted.keeps.outlets o' outlet' ho' (congrArg _ hhandler)
      obtain ⟨-, hrouter, -⟩ := Place.outlet.inj (Option.some.inj (hplace.symm.trans hplace'))
      rw [hrouter]
      exact isAlive_of_poll h hfirst (isAlive_of_applied happlied ho')
    · have hnew : [.call (.handler index) [], .poll] = left := List.append_cancel_right (hagenda.symm.trans hcalls)
      cases hleft _ (hnew ▸ List.mem_cons_self ..)
  | written c index value => exact (notMem_of_write (hplace ▸ hescorted.keeps) hagenda path hcall).elim
  | updated c index added => exact (notMem_of_write (hplace ▸ hescorted.keeps) hagenda path hcall).elim
  | command nested c =>
    rcases List.mem_append.1 hcall with hplan | hanswer
    · exact (isAsking_plan _ c.step _ hplan).elim
    · cases List.mem_singleton.1 hanswer
  | _ => simp at hcall

/-- A task that leads to a call makes no outlet. -/
theorem Leads.outlets_length {task : Task} {new : List Task} (h : Leads s task new) {callback : Callback} {path : Text}
    (hcall : .call callback path ∈ new) : (s.perform task).outlets.length = s.outlets.length := by
  have hother : ∀ name router handler, task ≠ .openOutlet name router handler := by
    rintro name router handler rfl
    cases h
    cases hcall
  have hlength := congrArg List.length (stalls_perform s hother)
  rwa [stalls, stalls, List.length_map, List.length_map] at hlength

/-- Along every prompt run an outlet whose handler is called has a router that lives. -/
theorem PromptRun.isAlive_of_call (h : PromptRun inMemory Session.empty us t) {o : Nat} {outlet : Outlet}
    (ho : t.outlets[o]? = some outlet) {path : Text} (hcall : .call (.handler outlet.handler) path ∈ t.agenda) :
    t.isAlive outlet.router = true := by
  cases h with
  | start => cases hcall
  | @step us l u _ hbefore hstep hprompt =>
    cases hstep with
    | own hown =>
      obtain ⟨task, rest, hfirst, rfl⟩ := (step?_eq_some_iff u t).1 hown
      obtain ⟨new, hagenda, hleads⟩ := leads_perform { u with agenda := rest } task
      have hnew := hbefore.callsFirst.mem_new hfirst hagenda hcall
      have hlt : o < u.outlets.length := by
        rw [← hleads.outlets_length hnew]
        exact (List.getElem?_eq_some_iff.1 ho).1
      have hbefore' := List.getElem?_eq_getElem hlt
      have hrenews := (OpenStep.own hown).renews
      obtain ⟨hrouter, -, hhandler⟩ := Outlet.eq_of_seat_eq (hrenews.seat_eq hbefore' ho)
      rw [hhandler] at hnew
      rw [hrouter]
      exact isAlive_of_mem_new hbefore.regularRun hown hfirst hagenda hleads hbefore' hnew
    | told c hidle => simp [begin] at hcall
    | outside histories hvaries hsame pool hpool tasks htasks =>
      rcases List.mem_append.1 hcall with hm | hm
      · cases htasks _ hm
      · exact absurd hm (hbefore.callsFirst.notMem (hprompt rfl) _ path)

/-- Where a router ended its observers are called by nobody any more. -/
theorem PromptRun.callsOf_of_gone (hrun : PromptRun inMemory Session.empty us s) (hr : r < s.routers.length)
    (hgone : s.isAlive r = false) {u : Session} (hu : u ∈ us) {entry : Nat × Callback}
    (hentry : entry ∈ u.callbacks (.router r)) {vs : List Session} (hlater : RegularRun inMemory s vs t) :
    callsOf entry.2 vs = [] := by
  rcases hrun.regularRun.callsOf_of_gone hr hgone hu hentry hlater with hsilent | ⟨o, outlet, path, ho, rfl, hhandler, hcall⟩
  · exact hsilent
  · rw [hhandler] at hcall
    rw [hrun.isAlive_of_call ho hcall] at hgone
    cases hgone

end Session

end PathRouting
