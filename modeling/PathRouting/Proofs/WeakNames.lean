import PathRouting.Proofs.Holdings

/-!
# Names that do not hold a router

A router can be named without being held. Statements: such a name stands for a router that there was, for good; so along
every regular run it leads back to the router exactly as long as something holds that.
-/

namespace PathRouting

namespace Session

variable {s t : Session} {us : List Session} {inMemory : Nat → Prop}

/-- The tasks of a plan name no router that there is not. -/
def NamesKnown (s : Session) (tasks : List Task) : Prop := ∀ name r, .nameWeak name r ∈ tasks → r < s.routers.length

/-- No task names a router that there is not where there is no task. -/
theorem namesKnown_nil (s : Session) : s.NamesKnown [] := fun _ _ h => absurd h List.not_mem_nil

/-- A task that gives no weak name names no router that there is not. -/
theorem namesKnown_singleton {task : Task} (h : ∀ name r, task ≠ .nameWeak name r) : s.NamesKnown [task] :=
  fun name r hm => absurd (List.mem_singleton.1 hm).symm (h name r)

/-- A drop gives no weak name. -/
theorem yields_namesKnown_planDrop (s : Session) (kind : Kind) (name : Text) :
    Yields (s.planDrop kind name) (fun plan => s.NamesKnown plan.tasks) := by
  unfold planDrop
  cases kind <;> exact yields_bind (fun _ => yields_ok (namesKnown_singleton (fun _ _ h => nomatch h)))

/-- A new router is given no weak name. -/
theorem namesKnown_planRouter (s : Session) (id history : Field Text) (routes : Field (List RouteSpec)) :
    s.NamesKnown (s.planRouter id history routes).tasks := by
  unfold planRouter
  cases routes.need "routes" with
  | error e => exact namesKnown_nil s
  | ok specs =>
    simp only
    split
    · exact namesKnown_singleton (fun _ _ h => nomatch h)
    · rename_i task query hopened
      have hopens : ∀ name r, task ≠ .nameWeak name r := by
        refine yields_bind (p := fun opened : Task × Query => ∀ name r, opened.1 ≠ .nameWeak name r) ?_ _ hopened
        exact fun _ => yields_bind (fun _ => yields_bind (fun _ => yields_ok (fun _ _ h => nomatch h)))
      intro name r hm
      rcases List.mem_cons.1 hm with h | hm
      · cases h
      · exact absurd (List.mem_singleton.1 hm).symm (hopens name r)

/-- A step that names a router without holding it has looked the router up. -/
theorem yields_namesKnown (s : Session) (step : Step) :
    Yields (s.planned step) (fun plan => s.NamesKnown plan.tasks) := by
  cases step with
  | downgrade id router =>
    refine (yields_lookUpRouter s router).bind (fun found hfound => yields_bind (fun name => yields_ok ?_))
    intro name' r hm
    obtain ⟨rfl, rfl⟩ := Task.nameWeak.inj (List.mem_singleton.1 hm)
    exact (List.getElem?_eq_some_iff.1 hfound.1).1
  | newRouter id history routes => exact yields_ok (namesKnown_planRouter s id history routes)
  | drop kind id => exact yields_bind (fun _ => yields_bind (fun _ => yields_namesKnown_planDrop s _ _))
  | snap id router =>
    refine yields_bind (fun found => yields_bind (fun name => ?_))
    split
    · exact yields_ok (namesKnown_nil s)
    · exact yields_ok (namesKnown_singleton (fun _ _ h => nomatch h))
  | scopeRouter scope =>
    refine yields_bind (fun found => ?_)
    split <;> exact yields_ok (namesKnown_nil s)
  | applyLink link anchor href =>
    refine yields_bind (fun found => yields_bind (fun isAnchor => yields_bind (fun before => ?_)))
    split <;> exact yields_ok (namesKnown_nil s)
  | describe kind id =>
    refine yields_bind (fun kind => yields_bind (fun name => ?_))
    split
    · exact yields_ok (namesKnown_nil s)
    · exact yields_error _
  | _ =>
    unfold planned
    repeat refine yields_bind (fun _ => ?_)
    first
      | exact yields_error _
      | exact yields_ok (namesKnown_nil s)
      | exact yields_ok (namesKnown_singleton (fun _ _ h => nomatch h))
      | exact yields_ok (by simp [NamesKnown])

/-- What is asked for gives weak names only to routers that there are. -/
theorem namesKnown_plan (s : Session) (step : Step) : s.NamesKnown (s.plan step).tasks := by
  unfold plan
  cases hplanned : s.planned step with
  | ok plan => exact yields_namesKnown s step plan hplanned
  | error e => exact namesKnown_nil s

/-- Only tasks that do so name a router without holding it. -/
theorem names_weak_perform (s : Session) {task : Task} (h : ∀ name r, task ≠ .nameWeak name r) :
    (s.perform task).names.weak = s.names.weak := by
  have hrenames := renames_perform s task
  generalize (s.perform task).names = names at hrenames ⊢
  cases hrenames with
  | nameWeak name r => exact absurd rfl (h name r)
  | _ => rfl

/-- The routers that are named without being held, and those that are to be, are there. -/
structure WeakNamesKnown (s : Session) : Prop where
  names : ∀ entry ∈ s.names.weak, entry.2 < s.routers.length
  tasks : s.NamesKnown s.agenda

/-- A step keeps the weak names to routers that there are. -/
theorem WeakNamesKnown.step (h : s.WeakNamesKnown) (hstep : s.step? = some t) : t.WeakNamesKnown := by
  obtain ⟨task, rest, hfirst, rfl⟩ := (step?_eq_some_iff s t).1 hstep
  have hmono : ∀ r, r < s.routers.length → r < (({ s with agenda := rest } : Session).perform task).sweep.routers.length :=
    fun r hr => (renews_step hstep).known (.follow r) hr
  have hleft : s.NamesKnown rest := fun name r hm => h.tasks name r (by rw [hfirst]; exact List.mem_cons_of_mem _ hm)
  refine ⟨fun entry he => hmono _ ?_, fun name r hm => hmono _ ?_⟩
  · by_cases hname : ∃ name r, task = .nameWeak name r
    · obtain ⟨name, r, rfl⟩ := hname
      rcases Directory.mem_put he with he | rfl
      · exact h.names entry he
      · exact h.tasks name r (by rw [hfirst]; exact List.mem_cons_self ..)
    · have hother : ∀ name r, task ≠ .nameWeak name r := fun name r heq => hname ⟨name, r, heq⟩
      have hsame := names_weak_perform { s with agenda := rest } hother
      exact h.names entry (hsame ▸ he)
  · obtain ⟨new, hagenda, hleads⟩ := leads_perform { s with agenda := rest } task
    have hm' : .nameWeak name r ∈ new ++ rest := hagenda ▸ hm
    rcases List.mem_append.1 hm' with hnew | hold
    · cases hleads with
      | nothing => cases hnew
      | command nested c =>
        rcases List.mem_append.1 hnew with hplan | hanswer
        · exact namesKnown_plan _ c.step name r hplan
        · cases List.mem_singleton.1 hanswer
      | _ => simp at hnew
    · exact hleft name r hold

/-- Along every regular run a name that does not hold a router stands for one that there is. -/
theorem RegularRun.weakNamesKnown (h : RegularRun inMemory Session.empty us t) : t.WeakNamesKnown := by
  induction h with
  | start => exact ⟨fun _ he => absurd he List.not_mem_nil, namesKnown_nil _⟩
  | @step us l t t' _ hstep ih =>
    cases hstep with
    | own hown => exact ih.step hown
    | told c hidle => exact ⟨ih.names, namesKnown_singleton (fun _ _ h => nomatch h)⟩
    | outside histories hvaries hsame pool hpool tasks htasks =>
      refine ⟨ih.names, fun name r hm => ?_⟩
      rcases List.mem_append.1 hm with hm | hm
      · cases htasks _ hm
      · exact ih.tasks name r hm

/-- A router that is named without being held is found exactly as long as something holds it. -/
theorem RegularRun.plan_upgrade (h : RegularRun inMemory Session.empty us t) {weak : Field Text} {r : Nat}
    (hweak : lookUp t.names.weak weak "weak" = .ok r) :
    (t.IsHeld r → t.plan (.upgrade weak) = .reply (.handle (t.routerName? r) (t.active? r))) ∧
      (¬t.IsHeld r → t.plan (.upgrade weak) = .reply .nothing) := by
  obtain ⟨name, hname⟩ := yields_lookUp t.names.weak weak "weak" r hweak
  have hlives := h.isAlive_iff_isHeld (h.weakNamesKnown.names _ (Directory.mem_of_get? hname))
  have hplan : t.plan (.upgrade weak) =
      .reply (if t.isAlive r then .handle (t.routerName? r) (t.active? r) else .nothing) := by
    rw [plan, planned, hweak]
    rfl
  rw [hplan]
  refine ⟨fun hheld => by rw [if_pos (hlives.2 hheld)], fun hfree => ?_⟩
  rw [if_neg (fun halive => hfree (hlives.1 halive))]

end Session

end PathRouting
