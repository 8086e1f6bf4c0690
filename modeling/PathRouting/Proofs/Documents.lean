import Mathlib
import PathRouting.Proofs.Normalisation
import PathRouting.Toml.Document

/-!
# What a document is

A document is put together from pairs and sections that may stand in many orders, and tables are written in several ways.
Statements: whatever the order and the way, no table of a document that is read gives a key twice, since an entry is put
where there is none and is otherwise changed in its place; so the entries of a table do not depend on how it is searched.
The document itself is a table, and one of white space alone is empty.
-/

namespace PathRouting.Toml

open Text (isAllBlank)

/-- No table in a value gives a key twice. -/
inductive HasDistinctKeys : Toml → Prop where
  | text (t : Text) : HasDistinctKeys (.text t)
  | bool (b : Bool) : HasDistinctKeys (.bool b)
  | number : HasDistinctKeys .number
  | moment : HasDistinctKeys .moment
  | list {items : List Toml} (hitems : ∀ v ∈ items, HasDistinctKeys v) : HasDistinctKeys (.list items)
  | table {entries : List (Text × Toml)} (hkeys : (entries.map Prod.fst).Nodup)
      (hentries : ∀ e ∈ entries, HasDistinctKeys e.2) : HasDistinctKeys (.table entries)

/-- No table in an entry under construction gives a key twice. -/
inductive Item.HasDistinctKeys : Item → Prop where
  | value {v : Toml} (hv : v.HasDistinctKeys) : HasDistinctKeys (.value v)
  | table {entries : Entries} (kind : TableKind) (hkeys : (entries.map Prod.fst).Nodup)
      (hentries : ∀ e ∈ entries, HasDistinctKeys e.2) : HasDistinctKeys (.table kind entries)
  | tables {elements : List Entries} (hkeys : ∀ entries ∈ elements, (entries.map Prod.fst).Nodup)
      (helements : ∀ entries ∈ elements, ∀ e ∈ entries, HasDistinctKeys e.2) : HasDistinctKeys (.tables elements)

/-- A table under construction gives no key twice, nor does any table in it. -/
def Entries.HaveDistinctKeys (entries : Entries) : Prop :=
  (entries.map Prod.fst).Nodup ∧ ∀ e ∈ entries, e.2.HasDistinctKeys

variable {key : Text} {v : Toml} {kind : TableKind} {entries after : Entries} {elements : List Entries} {item : Item}
  {p : Pair} {s : Section}

/-! ## Entries under construction -/

namespace Item

/-- A table under construction gives no key twice if its entries do not. -/
theorem hasDistinctKeys_table_iff : (Item.table kind entries).HasDistinctKeys ↔ entries.HaveDistinctKeys := by
  constructor
  · intro h
    cases h with
    | table _ hkeys hentries => exact ⟨hkeys, hentries⟩
  · exact fun h => .table kind h.1 h.2

/-- An array of tables gives no key twice in a table if none of its elements does. -/
theorem hasDistinctKeys_tables_iff :
    (Item.tables elements).HasDistinctKeys ↔ ∀ entries ∈ elements, Entries.HaveDistinctKeys entries := by
  constructor
  · intro h
    cases h with
    | tables hkeys helements => exact fun entries hmem => ⟨hkeys entries hmem, helements entries hmem⟩
  · exact fun h => .tables (fun entries hmem => (h entries hmem).1) (fun entries hmem => (h entries hmem).2)

end Item

/-- The entries of a finished table are those of the table under construction, one by one. -/
theorem entriesToValues_eq_map (entries : Entries) :
    entriesToValues entries = entries.map (fun e => (e.1, e.2.toValue)) := by
  induction entries with
  | nil => rfl
  | cons e entries ih => rw [entriesToValues, ih, List.map_cons]

/-- The elements of a finished array are those of the array under construction, one by one. -/
theorem elementsToValues_eq_map (elements : List Entries) :
    elementsToValues elements = elements.map (fun entries => .table (entriesToValues entries)) := by
  induction elements with
  | nil => rfl
  | cons entries elements ih => rw [elementsToValues, ih, List.map_cons]

/-- A finished table has the keys of the table under construction. -/
theorem keys_entriesToValues (entries : Entries) : (entriesToValues entries).map Prod.fst = entries.map Prod.fst := by
  rw [entriesToValues_eq_map, List.map_map]
  rfl

/-- A table is finished with the keys it has. -/
theorem hasDistinctKeys_entriesToValues (hkeys : (entries.map Prod.fst).Nodup)
    (h : ∀ e ∈ entries, e.2.toValue.HasDistinctKeys) : (Toml.table (entriesToValues entries)).HasDistinctKeys := by
  refine .table (by rwa [keys_entriesToValues]) ?_
  rw [entriesToValues_eq_map, List.forall_mem_map]
  exact h

/-- What is finished gives no key twice, if what was under construction did not. -/
theorem Item.HasDistinctKeys.toValue (h : item.HasDistinctKeys) : item.toValue.HasDistinctKeys := by
  induction h with
  | value hv => rwa [Item.toValue]
  | table kind hkeys _ ih =>
    rw [Item.toValue]
    exact hasDistinctKeys_entriesToValues hkeys ih
  | tables hkeys _ ih =>
    rw [Item.toValue, elementsToValues_eq_map]
    refine .list (fun v hv => ?_)
    rw [List.mem_reverse, List.mem_map] at hv
    obtain ⟨entries, hmem, rfl⟩ := hv
    exact hasDistinctKeys_entriesToValues (hkeys entries hmem) (ih entries hmem)

theorem Entries.HaveDistinctKeys.toValue (h : entries.HaveDistinctKeys) :
    (Toml.table (entriesToValues entries)).HasDistinctKeys :=
  hasDistinctKeys_entriesToValues h.1 (fun e he => (h.2 e he).toValue)

theorem Entries.haveDistinctKeys_nil : Entries.HaveDistinctKeys [] :=
  ⟨List.nodup_nil, fun _ he => absurd he List.not_mem_nil⟩

/-! ## Changing one entry -/

/-- An entry that is changed is a new one at the end, under a key that was not there, or stays in its place. -/
theorem alter_cases {f : Option Item → Option Item} (h : alter key f entries = some after) :
    (key ∉ entries.map Prod.fst ∧ ∃ item, f none = some item ∧ after = entries ++ [(key, item)]) ∨
    ∃ front old rest item, entries = front ++ (key, old) :: rest ∧ f (some old) = some item ∧
      after = front ++ (key, item) :: rest := by
  induction entries generalizing after with
  | nil =>
    rw [alter, Option.map_eq_some_iff] at h
    obtain ⟨item, hitem, rfl⟩ := h
    exact .inl ⟨List.not_mem_nil, item, hitem, rfl⟩
  | cons e entries ih =>
    obtain ⟨k, old⟩ := e
    rw [alter] at h
    by_cases hk : k = key
    · rw [if_pos hk, Option.map_eq_some_iff] at h
      obtain ⟨item, hitem, rfl⟩ := h
      subst hk
      exact .inr ⟨[], old, entries, item, rfl, hitem, rfl⟩
    · rw [if_neg hk, Option.map_eq_some_iff] at h
      obtain ⟨after, hafter, rfl⟩ := h
      obtain ⟨hnot, item, hitem, rfl⟩ | ⟨front, old', rest, item, rfl, hitem, rfl⟩ := ih hafter
      · refine .inl ⟨?_, item, hitem, rfl⟩
        rw [List.map_cons, List.mem_cons, not_or]
        exact ⟨fun e => hk e.symm, hnot⟩
      · exact .inr ⟨(k, old) :: front, old', rest, item, rfl, hitem, rfl⟩

/-- What a function makes of an entry, or of none, gives no key twice if the entry does not. -/
def MakesDistinctKeys (f : Option Item → Option Item) : Prop :=
  ∀ old item, (∀ o ∈ old, Item.HasDistinctKeys o) → f old = some item → item.HasDistinctKeys

/-- A table in which the entry of a key is changed gives no key twice. -/
theorem Entries.HaveDistinctKeys.alter {f : Option Item → Option Item} (h : entries.HaveDistinctKeys)
    (hf : MakesDistinctKeys f) (halter : alter key f entries = some after) : after.HaveDistinctKeys := by
  obtain ⟨hnot, item, hitem, rfl⟩ | ⟨front, old, rest, item, rfl, hitem, rfl⟩ := alter_cases halter
  · constructor
    · rw [List.map_append, List.nodup_append]
      refine ⟨h.1, List.pairwise_singleton _ key, fun k hk k' hk' heq => ?_⟩
      have hkey : k' = key := List.mem_singleton.1 hk'
      rw [heq, hkey] at hk
      exact hnot hk
    · rw [List.forall_mem_append, List.forall_mem_singleton]
      exact ⟨h.2, hf none item (by simp) hitem⟩
  · have hold := h.2
    rw [List.forall_mem_append, List.forall_mem_cons] at hold
    constructor
    · have hkeys := h.1
      rw [List.map_append, List.map_cons] at hkeys ⊢
      exact hkeys
    · rw [List.forall_mem_append, List.forall_mem_cons]
      refine ⟨hold.1, hf (some old) item ?_ hitem, hold.2.2⟩
      exact fun o ho => Option.some.inj ho ▸ hold.2.1

/-- A table into which a value is put under a new key gives no key twice. -/
theorem Entries.HaveDistinctKeys.put (h : entries.HaveDistinctKeys) (hv : v.HasDistinctKeys)
    (hput : put key v entries = some after) : after.HaveDistinctKeys := by
  refine h.alter (fun old item _ hitem => ?_) hput
  cases old with
  | none =>
    cases hitem
    exact .value hv
  | some _ => cases hitem

/-! ## Tables below tables -/

/-- A table is as good as its entries, which may be refused. -/
theorem Item.hasDistinctKeys_of_map_table {made : Option Entries} (hmade : ∀ below ∈ made, Entries.HaveDistinctKeys below)
    (hitem : made.map (.table kind) = some item) : item.HasDistinctKeys := by
  obtain ⟨below, hbelow, rfl⟩ := Option.map_eq_some_iff.1 hitem
  exact hasDistinctKeys_table_iff.2 (hmade below hbelow)

/-- An array of tables is as good as its latest one, which may be refused, and the ones before. -/
theorem Item.hasDistinctKeys_of_map_tables {made : Option Entries} {before : List Entries}
    (hbefore : ∀ entries ∈ before, Entries.HaveDistinctKeys entries)
    (hmade : ∀ last ∈ made, Entries.HaveDistinctKeys last)
    (hitem : made.map (fun last => .tables (last :: before)) = some item) : item.HasDistinctKeys := by
  obtain ⟨last, hlast, rfl⟩ := Option.map_eq_some_iff.1 hitem
  exact hasDistinctKeys_tables_iff.2 (List.forall_mem_cons.2 ⟨hmade last hlast, hbefore⟩)

/-- A table into which a value is put under a dotted key gives no key twice. -/
theorem Entries.HaveDistinctKeys.putDotted {parts : List Text} (h : entries.HaveDistinctKeys) (hv : v.HasDistinctKeys)
    (hput : putDotted key v parts kind entries = some after) : after.HaveDistinctKeys := by
  induction parts generalizing kind entries after with
  | nil =>
    rw [Toml.putDotted] at hput
    by_cases hkind : kind = .dotted
    · rw [if_pos hkind] at hput
      exact h.put hv hput
    · rw [if_neg hkind] at hput
      cases hput
  | cons part parts ih =>
    rw [Toml.putDotted] at hput
    refine h.alter (fun old item hold hitem => ?_) hput
    cases old with
    | none => exact Item.hasDistinctKeys_of_map_table (fun _ => ih haveDistinctKeys_nil) hitem
    | some old =>
      have hold := hold old rfl
      cases old with
      | value _ => cases hitem
      | table kind below =>
        have hbelow : Entries.HaveDistinctKeys below := Item.hasDistinctKeys_table_iff.1 hold
        cases kind with
        | headed => cases hitem
        | implied => exact Item.hasDistinctKeys_of_map_table (fun _ => ih hbelow) hitem
        | dotted => exact Item.hasDistinctKeys_of_map_table (fun _ => ih hbelow) hitem
      | tables elements =>
        cases elements with
        | nil => cases hitem
        | cons last before =>
          rw [Item.hasDistinctKeys_tables_iff, List.forall_mem_cons] at hold
          exact Item.hasDistinctKeys_of_map_tables hold.2 (fun _ => ih hold.1) hitem

/-- A change of the table under a path of keys keeps the keys distinct, if it does so in that table. -/
theorem Entries.HaveDistinctKeys.under {change : Entries → Option Entries} {parts : List Text}
    (hchange : ∀ entries after : Entries, entries.HaveDistinctKeys → change entries = some after →
      after.HaveDistinctKeys)
    (h : entries.HaveDistinctKeys) (hunder : under change parts entries = some after) : after.HaveDistinctKeys := by
  induction parts generalizing entries after with
  | nil =>
    rw [Toml.under] at hunder
    exact hchange entries after h hunder
  | cons part parts ih =>
    rw [Toml.under] at hunder
    refine h.alter (fun old item hold hitem => ?_) hunder
    cases old with
    | none => exact Item.hasDistinctKeys_of_map_table (fun _ => ih haveDistinctKeys_nil) hitem
    | some old =>
      have hold := hold old rfl
      cases old with
      | value _ => cases hitem
      | table kind below =>
        exact Item.hasDistinctKeys_of_map_table (fun _ => ih (Item.hasDistinctKeys_table_iff.1 hold)) hitem
      | tables elements =>
        cases elements with
        | nil => cases hitem
        | cons last before =>
          rw [Item.hasDistinctKeys_tables_iff, List.forall_mem_cons] at hold
          exact Item.hasDistinctKeys_of_map_tables hold.2 (fun _ => ih hold.1) hitem

/-! ## Pairs and sections -/

/-- What every step of a run that may fail keeps, the run keeps. -/
theorem foldlM_keeps {σ β : Type} {P : σ → Prop} {step : σ → β → Option σ} {xs : List β} {start last : σ}
    (hstep : ∀ x ∈ xs, ∀ a b, P a → step a x = some b → P b) (hstart : P start)
    (hrun : xs.foldlM step start = some last) : P last := by
  induction xs generalizing start with
  | nil =>
    rw [List.foldlM_nil] at hrun
    exact Option.some.inj hrun ▸ hstart
  | cons x xs ih =>
    rw [List.foldlM_cons, Option.bind_eq_bind, Option.bind_eq_some_iff] at hrun
    obtain ⟨next, hnext, hrun⟩ := hrun
    rw [List.forall_mem_cons] at hstep
    exact ih hstep.2 (hstep.1 start next hstart hnext) hrun

/-- No table in the value of a pair gives a key twice. -/
def Pair.HasDistinctKeys (p : Pair) : Prop := p.value.HasDistinctKeys

/-- No table in the values of a section gives a key twice. -/
def Section.HasDistinctKeys (s : Section) : Prop := ∀ p ∈ s.pairs, p.HasDistinctKeys

/-- A pair that is put into a table keeps the keys of the table distinct. -/
theorem Pair.HasDistinctKeys.putInto (hp : p.HasDistinctKeys) (h : entries.HaveDistinctKeys)
    (hput : p.putInto entries = some after) : after.HaveDistinctKeys := by
  obtain ⟨path, key, v⟩ := p
  cases path with
  | nil => exact h.put hp hput
  | cons part parts => exact h.putDotted hp hput

/-- Pairs that are put into a table one after the other keep its keys distinct. -/
theorem Entries.HaveDistinctKeys.fill {pairs : List Pair} (h : entries.HaveDistinctKeys)
    (hpairs : ∀ p ∈ pairs, p.HasDistinctKeys) (hfill : pairs.foldlM Pair.putInto entries = some after) :
    after.HaveDistinctKeys :=
  foldlM_keeps (fun p hp _ _ hentries hput => (hpairs p hp).putInto hentries hput) h hfill

/-- A section that is put into a document keeps the keys of the document distinct. -/
theorem Section.HasDistinctKeys.putInto (hs : s.HasDistinctKeys) (h : entries.HaveDistinctKeys)
    (hput : s.putInto entries = some after) : after.HaveDistinctKeys := by
  refine h.under (fun entries after hentries hchange => hentries.alter (fun old item hold hitem => ?_) hchange) hput
  have hnew : ∀ filled, s.pairs.foldlM Pair.putInto [] = some filled → Entries.HaveDistinctKeys filled :=
    fun _ => Entries.haveDistinctKeys_nil.fill hs
  by_cases harray : s.isArray = true
  · rw [if_pos harray] at hitem
    cases old with
    | none => exact Item.hasDistinctKeys_of_map_tables (fun _ h => absurd h List.not_mem_nil) hnew hitem
    | some old =>
      have hold := hold old rfl
      cases old with
      | value _ => cases hitem
      | table _ _ => cases hitem
      | tables elements =>
        exact Item.hasDistinctKeys_of_map_tables (Item.hasDistinctKeys_tables_iff.1 hold) hnew hitem
  · rw [if_neg harray] at hitem
    cases old with
    | none => exact Item.hasDistinctKeys_of_map_table hnew hitem
    | some old =>
      have hold := hold old rfl
      cases old with
      | value _ => cases hitem
      | tables _ => cases hitem
      | table kind below =>
        cases kind with
        | headed => cases hitem
        | dotted => cases hitem
        | implied =>
          exact Item.hasDistinctKeys_of_map_table (fun _ => (Item.hasDistinctKeys_table_iff.1 hold).fill hs) hitem

/-- A table that is made of pairs gives no key twice. -/
theorem hasDistinctKeys_of_tableOf {pairs : List Pair} (hpairs : ∀ p ∈ pairs, p.HasDistinctKeys)
    (h : tableOf pairs = some v) : v.HasDistinctKeys := by
  obtain ⟨entries, hfill, rfl⟩ := Option.map_eq_some_iff.1 h
  exact (Entries.haveDistinctKeys_nil.fill hpairs hfill).toValue

/-! ## Reading -/

/-- No table in what a reader reads gives a key twice. -/
def ReadsDistinctKeys (read : Text → Option (Toml × Text)) : Prop :=
  ∀ t v rest, read t = some (v, rest) → v.HasDistinctKeys

variable {read : Text → Option (Toml × Text)} {t rest : Text} {rounds : Nat}

/-- A pair is read with distinct keys, if so is its value. -/
theorem ReadsDistinctKeys.readPairWith (h : ReadsDistinctKeys read) (hpair : readPairWith read t = some (p, rest)) :
    p.HasDistinctKeys := by
  simp only [Toml.readPairWith, Option.bind_eq_bind, Option.bind_eq_some_iff] at hpair
  obtain ⟨⟨⟨path, key⟩, t⟩, _, t, _, ⟨v, t⟩, hv, heq⟩ := hpair
  cases heq
  exact h _ _ _ hv

/-- The items of a list are read with distinct keys, each round for those that were read before it. -/
theorem ReadsDistinctKeys.readItems {items : List Toml} (h : ReadsDistinctKeys read)
    (hitems : ∀ v ∈ items, v.HasDistinctKeys) (hread : readItems read rounds items t = some (v, rest)) :
    v.HasDistinctKeys := by
  have hlist : ∀ items : List Toml, (∀ v ∈ items, v.HasDistinctKeys) → (Toml.list items.reverse).HasDistinctKeys :=
    fun items hitems => .list (fun v hv => hitems v (List.mem_reverse.1 hv))
  induction rounds generalizing items t with
  | zero => cases hread
  | succ rounds ih =>
    rw [Toml.readItems] at hread
    split at hread
    · cases hread
    · cases hread
      exact hlist items hitems
    · split at hread
      · cases hread
      · rename_i w _ hw
        have hnext : ∀ v ∈ w :: items, v.HasDistinctKeys := List.forall_mem_cons.2 ⟨h _ _ _ hw, hitems⟩
        split at hread
        · exact ih hnext hread
        · cases hread
          exact hlist (w :: items) hnext
        · cases hread

/-- The pairs of an inline table are read with distinct keys, each round for those that were read before it. -/
theorem ReadsDistinctKeys.readInline {pairs : List Pair} (h : ReadsDistinctKeys read)
    (hpairs : ∀ p ∈ pairs, p.HasDistinctKeys) (hread : readInline read rounds pairs t = some (v, rest)) :
    v.HasDistinctKeys := by
  induction rounds generalizing pairs t with
  | zero => cases hread
  | succ rounds ih =>
    rw [Toml.readInline] at hread
    split at hread
    · cases hread
    · rename_i q _ hq
      have hnext : ∀ p ∈ q :: pairs, p.HasDistinctKeys := List.forall_mem_cons.2 ⟨h.readPairWith hq, hpairs⟩
      split at hread
      · exact ih hnext hread
      · rw [Option.map_eq_some_iff] at hread
        obtain ⟨table, htable, heq⟩ := hread
        cases heq
        exact hasDistinctKeys_of_tableOf (fun p hp => hnext p (List.mem_reverse.1 hp)) htable
      · cases hread

/-- A value that is made of what was read has distinct keys, if it has them whatever was read. -/
theorem hasDistinctKeys_of_map {α : Type} {made : Option α} {value : α → Toml} {behind : α → Text}
    (hvalue : ∀ a, (value a).HasDistinctKeys) (hread : made.map (fun a => (value a, behind a)) = some (v, rest)) :
    v.HasDistinctKeys := by
  obtain ⟨a, _, heq⟩ := Option.map_eq_some_iff.1 hread
  cases heq
  exact hvalue a

/-- A scalar has no tables. -/
theorem readsDistinctKeys_readPlain : ReadsDistinctKeys readPlain := by
  intro t v rest hread
  unfold readPlain at hread
  split at hread
  · cases hread
    exact .bool true
  · cases hread
    exact .bool false
  · split at hread
    · exact hasDistinctKeys_of_map (fun _ => .moment) hread
    · split at hread
      · exact hasDistinctKeys_of_map (fun _ => .moment) hread
      · exact hasDistinctKeys_of_map (fun _ => .number) hread

/-- By induction on how deep lists and inline tables may nest. -/
theorem readsDistinctKeys_readValue (depth : Nat) : ReadsDistinctKeys (readValue depth) := by
  induction depth with
  | zero =>
    intro t v rest hread
    unfold readValue at hread
    split at hread
    · exact hasDistinctKeys_of_map (fun _ => .text _) hread
    · exact hasDistinctKeys_of_map (fun _ => .text _) hread
    · cases hread
    · cases hread
    · exact readsDistinctKeys_readPlain _ _ _ hread
  | succ depth ih =>
    intro t v rest hread
    unfold readValue at hread
    split at hread
    · exact hasDistinctKeys_of_map (fun _ => .text _) hread
    · exact hasDistinctKeys_of_map (fun _ => .text _) hread
    · exact ih.readItems (fun _ hv => absurd hv List.not_mem_nil) hread
    · dsimp only at hread
      split at hread
      · cases hread
        exact .table List.nodup_nil (fun _ he => absurd he List.not_mem_nil)
      · exact ih.readInline (fun _ hp => absurd hp List.not_mem_nil) hread
    · exact readsDistinctKeys_readPlain _ _ _ hread

/-- A header opens a section without pairs. -/
theorem Section.hasDistinctKeys_of_readHeader {isArray : Bool} (h : readHeader isArray t = some (s, rest)) :
    s.HasDistinctKeys := by
  have hnone : ∀ (isArray : Bool) (path : List Text) (key : Text), Section.HasDistinctKeys ⟨isArray, path, key, []⟩ :=
    fun _ _ _ _ hp => absurd hp List.not_mem_nil
  cases isArray with
  | false =>
    simp only [readHeader, Option.bind_eq_bind, Option.bind_eq_some_iff, Bool.false_eq_true, if_false] at h
    obtain ⟨_, _, _, _, _, _, _, _, heq⟩ := h
    cases heq
    exact hnone _ _ _
  | true =>
    simp only [readHeader, Option.bind_eq_bind, Option.bind_eq_some_iff, if_true] at h
    obtain ⟨_, _, _, _, _, _, _, _, heq⟩ := h
    cases heq
    exact hnone _ _ _

/-- A pair is added to the section that was opened last. -/
theorem Section.hasDistinctKeys_addPair {sections : List Section} (hp : p.HasDistinctKeys)
    (h : ∀ s ∈ sections, s.HasDistinctKeys) : ∀ s ∈ addPair p sections, s.HasDistinctKeys := by
  cases sections with
  | nil => exact h
  | cons s before =>
    rw [List.forall_mem_cons] at h
    rw [addPair, List.forall_mem_cons]
    refine ⟨?_, h.2⟩
    rw [HasDistinctKeys, List.forall_mem_append, List.forall_mem_singleton]
    exact ⟨h.1, hp⟩

/-- Lines leave the sections with distinct keys, since a header of either kind opens a section without pairs. -/
theorem hasDistinctKeys_of_readLines {sections out : List Section} (h : ∀ s ∈ sections, s.HasDistinctKeys)
    (hread : readLines rounds sections t = some out) : ∀ s ∈ out, s.HasDistinctKeys := by
  induction rounds generalizing sections t with
  | zero => cases hread
  | succ rounds ih =>
    have hheader : ∀ isArray t, ((readHeader isArray t).bind (fun r => readLines rounds (r.1 :: sections) r.2)) = some out →
        ∀ s ∈ out, s.HasDistinctKeys := by
      intro isArray t hread
      obtain ⟨⟨s, rest⟩, hheader, hread⟩ := Option.bind_eq_some_iff.1 hread
      exact ih (List.forall_mem_cons.2 ⟨Section.hasDistinctKeys_of_readHeader hheader, h⟩) hread
    rw [readLines] at hread
    split at hread
    · cases hread
      exact h
    · exact ih h hread
    · exact ih h hread
    · obtain ⟨rest, _, hread⟩ := Option.bind_eq_some_iff.1 hread
      exact ih h hread
    · exact hheader true _ hread
    · exact hheader false _ hread
    · obtain ⟨⟨p, rest⟩, hpair, hread⟩ := Option.bind_eq_some_iff.1 hread
      obtain ⟨rest, _, hread⟩ := Option.bind_eq_some_iff.1 hread
      have hp : p.HasDistinctKeys := (readsDistinctKeys_readValue (nestingLimit - 1)).readPairWith hpair
      exact ih (Section.hasDistinctKeys_addPair hp h) hread

/-! ## Documents -/

/-- A document is a table, put together from its sections. -/
theorem exists_entries_of_ofSections {sections : List Section} {d : Toml}
    (hsections : ∀ s ∈ sections, s.HasDistinctKeys) (h : ofSections sections = some d) :
    ∃ entries : Entries, entries.HaveDistinctKeys ∧ d = .table (entriesToValues entries) := by
  rw [ofSections] at h
  split at h
  · cases h
  · rename_i first rest hreverse
    have hall : ∀ s ∈ first :: rest, Section.HasDistinctKeys s := by
      intro s hs
      rw [← hreverse, List.mem_reverse] at hs
      exact hsections s hs
    rw [List.forall_mem_cons] at hall
    obtain ⟨start, hstart, h⟩ := Option.bind_eq_some_iff.1 h
    obtain ⟨entries, hentries, rfl⟩ := Option.map_eq_some_iff.1 h
    refine ⟨entries, ?_, rfl⟩
    exact foldlM_keeps (fun s hs _ _ h hput => (hall.2 s hs).putInto h hput)
      (Entries.haveDistinctKeys_nil.fill hall.1 hstart) hentries

/-- A document is a table, and no table in it gives a key twice. -/
theorem exists_entries_of_parse {d : Toml} (h : parse t = some d) :
    ∃ entries : Entries, entries.HaveDistinctKeys ∧ d = .table (entriesToValues entries) := by
  obtain ⟨sections, hread, h⟩ := Option.bind_eq_some_iff.1 h
  refine exists_entries_of_ofSections (hasDistinctKeys_of_readLines ?_ hread) h
  rw [List.forall_mem_singleton]
  exact fun _ hp => absurd hp List.not_mem_nil

/-! ## Blank documents -/

/-- White space is neither a letter nor a digit. -/
theorem isAlphanum_eq_false_of_isBlank {c : Char} (h : isBlank c = true) : c.isAlphanum = false := by
  rw [Bool.eq_false_iff]
  intro halphanum
  simp only [isBlank, Bool.or_eq_true, Bool.and_eq_true, decide_eq_true_eq, beq_iff_eq] at h
  simp only [Char.isAlphanum, Char.isAlpha, Char.isUpper, Char.isLower, Char.isDigit, Char.reduceVal, ge_iff_le,
    UInt32.le_iff_toNat_le, UInt32.reduceToNat, Char.toNat_val, Bool.decide_and, Bool.or_eq_true, Bool.and_eq_true,
    decide_eq_true_eq] at halphanum
  omega

/-- White space is no part of a bare key. -/
theorem isBareKeyChar_eq_false_of_isBlank {c : Char} (h : isBlank c = true) : isBareKeyChar c = false := by
  have hunderscore : c ≠ '_' := by
    rintro rfl
    exact absurd h (by decide)
  have hhyphen : c ≠ '-' := by
    rintro rfl
    exact absurd h (by decide)
  simp [isBareKeyChar, isAlphanum_eq_false_of_isBlank h, hunderscore, hhyphen]

/-- White space is not a part of a key. -/
theorem readKeyPart_of_blank (h : isAllBlank t = true) : readKeyPart t = none := by
  cases t with
  | nil => rfl
  | cons c t =>
    have hc : isBlank c = true := (List.all_eq_true.1 h) c List.mem_cons_self
    have hbare : ¬isBareKeyChar c = true := by simp [isBareKeyChar_eq_false_of_isBlank hc]
    unfold readKeyPart
    split
    · rename_i heq
      cases heq
      exact absurd hc (by decide)
    · rename_i heq
      cases heq
      exact absurd hc (by decide)
    · rw [List.takeWhile_cons_of_neg hbare]

/-- The rest of a blank text is blank. -/
theorem isAllBlank_of_suffix {u : Text} (hsuffix : u <:+ t) (h : isAllBlank t = true) : isAllBlank u = true := by
  rw [isAllBlank, List.all_eq_true] at h ⊢
  exact fun c hc => h c (hsuffix.subset hc)

/-- In white space a pair does not begin. -/
theorem readPairWith_of_blank (h : isAllBlank t = true) : readPairWith read (skipSpaces t) = none := by
  have hspaces : isAllBlank (skipSpaces t) = true := isAllBlank_of_suffix (List.dropWhile_suffix _) h
  have hskip : skipSpaces (skipSpaces t) = skipSpaces t := List.dropWhile_idempotent _ t
  have hlimit : nestingLimit - 1 = 78 + 1 := rfl
  have hkey : readKey (skipSpaces t) = none := by
    rw [readKey, hlimit, readKeyParts, hskip, readKeyPart_of_blank hspaces]
  rw [readPairWith, hkey]
  rfl

/-- White space adds nothing to the sections. -/
theorem readLines_of_blank {sections out : List Section} (h : isAllBlank t = true)
    (hread : readLines rounds sections t = some out) : out = sections := by
  induction rounds generalizing t with
  | zero => cases hread
  | succ rounds ih =>
    have hspaces : isAllBlank (skipSpaces t) = true := isAllBlank_of_suffix (List.dropWhile_suffix _) h
    have hnot : ∀ c rest, skipSpaces t = c :: rest → isBlank c = true :=
      fun c rest heq => (List.all_eq_true.1 hspaces) c (heq ▸ List.mem_cons_self)
    rw [readLines] at hread
    split at hread
    · exact (Option.some.inj hread).symm
    · rename_i rest heq
      exact ih (isAllBlank_of_suffix ⟨['\n'], heq.symm⟩ hspaces) hread
    · rename_i rest heq
      exact ih (isAllBlank_of_suffix ⟨['\r', '\n'], heq.symm⟩ hspaces) hread
    · rename_i heq
      exact absurd (hnot _ _ heq) (by decide)
    · rename_i heq
      exact absurd (hnot _ _ heq) (by decide)
    · rename_i heq
      exact absurd (hnot _ _ heq) (by decide)
    · rw [readPairWith_of_blank h] at hread
      cases hread

/-- A byte order mark is not white space. -/
theorem dropMark_of_blank (h : isAllBlank t = true) : dropMark t = t := by
  unfold dropMark
  split
  · exact absurd ((List.all_eq_true.1 h) _ List.mem_cons_self) (by decide)
  · rfl

/-- A blank text that is a document at all is an empty one. -/
theorem parse_of_blank {d : Toml} (hblank : isAllBlank t = true) (h : parse t = some d) : d = .table [] := by
  obtain ⟨sections, hread, h⟩ := Option.bind_eq_some_iff.1 h
  rw [dropMark_of_blank hblank] at hread
  rw [readLines_of_blank hblank hread] at h
  exact (Option.some.inj h).symm

end PathRouting.Toml
