import PathRouting.Proofs.Leads

/-!
# What names stand for

A plan looks up the names of a step before it does anything. Statements: what a name is found to stand for has a place,
is what stands at that place, and is held by the name.
-/

namespace PathRouting

section

variable {α β : Type} {p : α → Prop} {q : β → Prop}

/-- What comes out of a step after another one may rely on what came out of that. -/
theorem Yields.bind {x : Except StepError β} {f : β → Except StepError α} (hx : Yields x q)
    (h : ∀ b, q b → Yields (f b) p) : Yields (x >>= f) p := by
  intro a ha
  cases x with
  | error e => cases ha
  | ok b => exact h b (hx b rfl) a ha

end

/-- A result of which the first half was taken had a second one. -/
theorem exists_of_map_fst {α β : Type} {x : Except StepError (α × β)} {a : α} (h : x.map (·.1) = .ok a) :
    ∃ b, x = .ok (a, b) := by
  cases x with
  | error e => cases h
  | ok found => exact ⟨found.2, congrArg (fun a => Except.ok (a, found.2)) (Except.ok.inj h)⟩

variable {α : Type} {d : Directory α} {name : Text} {a : α}

/-- What a name stands for is in the directory under that name. -/
theorem Directory.mem_of_get? (h : d.get? name = some a) : (name, a) ∈ d := by
  obtain ⟨before, after, rfl, _⟩ := List.lookup_eq_some_iff.1 h
  exact List.mem_append_right before (List.mem_cons_self ..)

/-- To take a name away adds none. -/
theorem Directory.erase_subset (d : Directory α) (name : Text) : d.erase name ⊆ d := List.filter_subset_self _

/-- What is in a directory after a name was given was there, or is what the name was given to. -/
theorem Directory.mem_put {value : α} {entry : Text × α}
    (h : entry ∈ d.put name value) : entry ∈ d ∨ entry = (name, value) := by
  rcases List.mem_cons.1 h with rfl | h
  · exact Or.inr rfl
  · exact Or.inl (d.erase_subset name h)

/-- Other names stand for what they did when one is taken away. -/
theorem Directory.get?_erase (d : Directory α) {other : Text} (h : other ≠ name) :
    (d.erase name).get? other = d.get? other := by
  induction d with
  | nil => rfl
  | cons entry rest ih =>
    have hrest : (erase rest name).get? other = get? rest other := ih
    by_cases hentry : entry.1 = name
    · have hdropped : erase (entry :: rest) name = erase rest name := List.filter_cons_of_neg (by simp [hentry])
      have hother : (other == entry.1) = false := beq_eq_false_iff_ne.2 (hentry ▸ h)
      rw [hdropped, hrest, get?, get?, List.lookup_cons, hother]
    · have hkept : erase (entry :: rest) name = entry :: erase rest name := List.filter_cons_of_pos (by simp [hentry])
      rw [get?] at hrest
      rw [hkept, get?, get?, List.lookup_cons, List.lookup_cons, hrest]
      rfl

/-- A name that was taken away stands for nothing. -/
theorem Directory.get?_erase_self (d : Directory α) (name : Text) : (d.erase name).get? name = none := by
  rw [Directory.get?, List.lookup_eq_none_iff]
  intro entry hm
  rw [bne_comm]
  exact (List.mem_filter.1 hm).2

/-- A name stands for what it was given to last. -/
theorem Directory.get?_put_self (d : Directory α) (name : Text) (value : α) : (d.put name value).get? name = some value :=
  List.lookup_cons_self

/-- Other names stand for what they did when one is given. -/
theorem Directory.get?_put (d : Directory α) {other : Text} (h : other ≠ name) (value : α) :
    (d.put name value).get? other = d.get? other := by
  have hother : (other == name) = false := beq_eq_false_iff_ne.2 h
  rw [put, get?, List.lookup_cons, hother]
  exact get?_erase d h

/-- What is found by a name is what it stands for. -/
theorem Directory.yields_find (d : Directory α) (name : Text) : Yields (d.find name) (fun a => d.get? name = some a) := by
  intro a ha
  unfold Directory.find at ha
  split at ha
  · rename_i value hvalue
    rw [hvalue, Except.ok.inj ha]
  · cases ha

namespace Session

variable {s : Session}

/-- What is looked up has a name. -/
theorem yields_lookUp (d : Directory α) (f : Field Text) (field : String) :
    Yields (lookUp d f field) (fun a => ∃ name, d.get? name = some a) :=
  yields_bind (fun name _ ha => ⟨name, d.yields_find name _ ha⟩)

/-- An object that is looked up stands at its place, and the place has a name. -/
theorem yields_lookUpIn (objects : List α) (d : Directory Nat) (f : Field Text) (field : String) :
    Yields (lookUpIn objects d f field)
      (fun found => objects[found.1]? = some found.2 ∧ ∃ name, d.get? name = some found.1) := by
  unfold lookUpIn
  refine yields_bind (fun name => (d.yields_find name).bind (fun place hplace => ?_))
  split
  · rename_i object hobject
    exact yields_ok ⟨hobject, name, hplace⟩
  · exact yields_error _

/-- A router that is looked up is there, and has a name. -/
theorem yields_lookUpRouter (s : Session) (f : Field Text) : Yields (s.lookUpRouter f)
    (fun found => s.routers[found.1]? = some found.2 ∧ ∃ name, s.names.routers.get? name = some found.1) :=
  yields_lookUpIn s.routers s.names.routers f "router"

end Session

end PathRouting
