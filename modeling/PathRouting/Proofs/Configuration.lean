import PathRouting.Proofs.Documents
import PathRouting.Settings

/-!
# What configures an application

Three entries of a document configure an application. A section may be written as a table, in which a field is found by its
name, or as a list, in which it is found by its place, and the defaults stand in two places: for a section that is missing,
and for an entry that is missing in its section. Statements: a text is read if it is blank, or if it is a document whose
sections are records and whose three entries have the right kinds; each value is then the one given, or else the standard
one, wherever it is missing; and nothing else in the document makes a difference.
-/

namespace PathRouting

open Text (isAllBlank)

namespace Toml

/-- A field of a record: its name in a table, and its place in a list. -/
structure Field where
  name : Text
  place : Nat

/-- The values that a record is read from. -/
inductive IsRecord : Toml → Prop where
  | table (entries : List (Text × Toml)) : IsRecord (.table entries)
  | list (items : List Toml) : IsRecord (.list items)
  | moment : IsRecord .moment

/-- A value gives another for a field, by name or by place. -/
inductive Gives (field : Field) : Toml → Toml → Prop where
  | byName {entries : List (Text × Toml)} {v : Toml} (h : (field.name, v) ∈ entries) : Gives field (.table entries) v
  | byPlace {items : List Toml} {v : Toml} (h : items[field.place]? = some v) : Gives field (.list items) v

/-- A value gives another for a field of the record that it gives for a section. -/
def GivesIn (sec field : Field) (d v : Toml) : Prop := ∃ u, Gives sec d u ∧ Gives field u v

/-- What is taken for a field: what is read from the value that is given, or the default where none is. -/
def Takes {α : Type} (field : Field) (read : Toml → Option α) (default : α) (v : Toml) (x : α) : Prop :=
  (∃ u, Gives field v u ∧ read u = some x) ∨ (∀ u, ¬Gives field v u) ∧ x = default

section

variable {α β : Type} {field sec : Field} {d u v w : Toml} {names : List Text} {fields : List (Option Toml)}
  {read : Toml → Option α} {default x : α}

/-! ## Fields of a record -/

/-- A table gives a field the value under its name. -/
@[simp]
theorem gives_table_iff {entries : List (Text × Toml)} : (Toml.table entries).Gives field v ↔ (field.name, v) ∈ entries := by
  constructor
  · intro h
    cases h with
    | byName h => exact h
  · exact .byName

/-- A list gives a field the value at its place. -/
@[simp]
theorem gives_list_iff {items : List Toml} : (Toml.list items).Gives field v ↔ items[field.place]? = some v := by
  constructor
  · intro h
    cases h with
    | byPlace h => exact h
  · exact .byPlace

/-- With distinct names a look-up finds just what is there. -/
theorem lookup_eq_some_iff_mem {entries : List (Text × Toml)} {name : Text} (hkeys : (entries.map Prod.fst).Nodup) :
    entries.lookup name = some v ↔ (name, v) ∈ entries := by
  rw [List.lookup_eq_some_iff]
  constructor
  · rintro ⟨front, rest, rfl, -⟩
    exact List.mem_append_right front List.mem_cons_self
  · intro hmem
    obtain ⟨front, rest, rfl⟩ := List.append_of_mem hmem
    rw [List.map_append, List.map_cons, List.nodup_append] at hkeys
    refine ⟨front, rest, rfl, fun e he => ?_⟩
    rw [bne_iff_ne]
    exact (hkeys.2.2 e.1 (List.mem_map_of_mem he) name List.mem_cons_self).symm

/-- The fields of a record can be told from a table or a list, and from nothing else. -/
theorem exists_record?_iff (names : List Text) : (∃ fields, v.record? names = some fields) ↔ v.IsRecord := by
  constructor
  · rintro ⟨fields, h⟩
    cases v with
    | table entries => exact .table entries
    | list items => exact .list items
    | moment => exact .moment
    | text _ => cases h
    | bool _ => cases h
    | number => cases h
  · intro h
    cases h with
    | table entries => exact ⟨_, rfl⟩
    | list items => exact ⟨_, rfl⟩
    | moment => exact ⟨_, rfl⟩

/-- A record's fields are read as they are given. -/
theorem join_getElem?_record?_eq_some_iff (hv : v.HasDistinctKeys) (hfields : v.record? names = some fields)
    (hfield : names[field.place]? = some field.name) : fields[field.place]?.join = some u ↔ v.Gives field u := by
  cases v with
  | table entries =>
    obtain rfl := Option.some.inj hfields
    cases hv with
    | table hkeys _ =>
      rw [List.getElem?_map, hfield, Option.map_some, Option.join_some, lookup_eq_some_iff_mem hkeys, gives_table_iff]
  | list items =>
    obtain rfl := Option.some.inj hfields
    have hplace : field.place < names.length := (List.getElem?_eq_some_iff.1 hfield).1
    rw [List.getElem?_map, List.getElem?_range hplace, Option.map_some, Option.join_some, gives_list_iff]
  | moment =>
    obtain rfl := Option.some.inj hfields
    rw [List.getElem?_map, hfield]
    constructor
    · intro h
      cases h
    · intro h
      cases h
  | text _ => cases hfields
  | bool _ => cases hfields
  | number => cases hfields

/-- A field is given once. -/
theorem Gives.unique (hv : v.HasDistinctKeys) (hu : v.Gives field u) (hw : v.Gives field w) : u = w := by
  cases hu with
  | byName hu =>
    cases hw with
    | byName hw =>
      cases hv with
      | table hkeys _ =>
        rw [← lookup_eq_some_iff_mem hkeys] at hu hw
        exact Option.some.inj (hu.symm.trans hw)
  | byPlace hu =>
    cases hw with
    | byPlace hw => exact Option.some.inj (hu.symm.trans hw)

/-- What a document with distinct names gives has distinct names. -/
theorem Gives.hasDistinctKeys (hv : v.HasDistinctKeys) (hu : v.Gives field u) : u.HasDistinctKeys := by
  cases hu with
  | byName hu =>
    cases hv with
    | table _ hentries => exact hentries _ hu
  | byPlace hu =>
    cases hv with
    | list hitems => exact hitems _ (List.mem_of_getElem? hu)

/-- A document with distinct names gives a field in a section one value at most. -/
theorem GivesIn.unique (hd : d.HasDistinctKeys) (hv : d.GivesIn sec field v) (hw : d.GivesIn sec field w) : v = w := by
  obtain ⟨u, hu, hv⟩ := hv
  obtain ⟨u', hu', hw⟩ := hw
  obtain rfl := hu.unique hd hu'
  exact hv.unique (hu.hasDistinctKeys hd) hw

/-! ## What is taken for a field -/

/-- A field is read as what is given for it, or as its default where nothing is. -/
theorem fieldOr_eq_some_iff {given : Option Toml} (hgiven : ∀ u, given = some u ↔ v.Gives field u) :
    fieldOr default read given = some x ↔ v.Takes field read default x := by
  cases given with
  | none =>
    have hnone : ∀ u, ¬v.Gives field u := fun u hu => Option.some_ne_none u ((hgiven u).2 hu).symm
    rw [fieldOr, Option.some_inj]
    constructor
    · exact fun h => .inr ⟨hnone, h.symm⟩
    · rintro (⟨u, hu, _⟩ | ⟨_, h⟩)
      · exact absurd hu (hnone u)
      · exact h.symm
  | some w =>
    have hw : v.Gives field w := (hgiven w).1 rfl
    rw [fieldOr]
    constructor
    · exact fun h => .inl ⟨w, hw, h⟩
    · rintro (⟨u, hu, h⟩ | ⟨hnone, _⟩)
      · obtain rfl := Option.some.inj ((hgiven u).2 hu)
        exact h
      · exact absurd hw (hnone w)

/-- A field of a record is read as it is taken. -/
theorem fieldOr_record?_eq_some_iff (field : Field) (hv : v.HasDistinctKeys) (hfields : v.record? names = some fields)
    (hfield : names[field.place]? = some field.name) :
    fieldOr default read fields[field.place]?.join = some x ↔ v.Takes field read default x :=
  fieldOr_eq_some_iff (fun _ => join_getElem?_record?_eq_some_iff hv hfields hfield)

/-- Something is taken for a field unless what is given for it cannot be read. -/
theorem exists_takes_iff (default : α) (hv : v.HasDistinctKeys) :
    (∃ x, v.Takes field read default x) ↔ ∀ u, v.Gives field u → ∃ x, read u = some x := by
  constructor
  · rintro ⟨x, ⟨w, hw, hx⟩ | ⟨hnone, _⟩⟩ u hu
    · exact ⟨x, hu.unique hv hw ▸ hx⟩
    · exact absurd hu (hnone u)
  · intro h
    by_cases hgiven : ∃ u, v.Gives field u
    · obtain ⟨u, hu⟩ := hgiven
      obtain ⟨x, hx⟩ := h u hu
      exact ⟨x, .inl ⟨u, hu, hx⟩⟩
    · exact ⟨default, .inr ⟨not_exists.1 hgiven, rfl⟩⟩

/-- Where a section's default is made of its fields' defaults, it makes no difference whether a field or its section is
missing. -/
theorem Takes.through {readSection : Toml → Option β} {standard y : β} (field : Field) (get : β → α) (kind : α → Toml)
    (hkind : ∀ v x, read v = some x → v = kind x) (hd : d.HasDistinctKeys) (h : d.Takes sec readSection standard y)
    (hfield : ∀ u, u.HasDistinctKeys → readSection u = some y → u.Takes field read (get standard) (get y)) :
    d.GivesIn sec field (kind (get y)) ∨ (∀ v, ¬d.GivesIn sec field v) ∧ kind (get y) = kind (get standard) := by
  obtain ⟨u, hu, hy⟩ | ⟨hnone, rfl⟩ := h
  · obtain ⟨v, hv, hx⟩ | ⟨hnone, hx⟩ := hfield u (hu.hasDistinctKeys hd) hy
    · rw [← hkind v _ hx]
      exact .inl ⟨u, hu, hv⟩
    · refine .inr ⟨?_, congrArg kind hx⟩
      rintro v ⟨u', hu', hv⟩
      exact hnone v (hu.unique hd hu' ▸ hv)
  · refine .inr ⟨?_, rfl⟩
    rintro v ⟨u, hu, -⟩
    exact hnone u hu

/-- Only a text is read as one. -/
theorem text?_eq_some_iff {t : Text} : v.text? = some t ↔ v = .text t := by
  constructor
  · intro h
    cases v with
    | text u => rw [Option.some.inj h]
    | _ => cases h
  · rintro rfl
    rfl

/-- Only a truth value is read as one. -/
theorem bool?_eq_some_iff {b : Bool} : v.bool? = some b ↔ v = .bool b := by
  constructor
  · intro h
    cases v with
    | bool c => rw [Option.some.inj h]
    | _ => cases h
  · rintro rfl
    rfl

end

end Toml

/-! ## The three entries -/

/-- The entries of a document that configure an application. -/
inductive Settings.Entry where
  | initialPath
  | level
  | ansi
  deriving DecidableEq, Repr

namespace Settings.Entry

/-- The section that an entry is in. -/
def sectionField : Entry → Toml.Field
  | initialPath => ⟨Text.ofString "router", 0⟩
  | level => ⟨Text.ofString "logging", 1⟩
  | ansi => ⟨Text.ofString "logging", 1⟩

/-- The field of its section that an entry is. -/
def field : Entry → Toml.Field
  | initialPath => ⟨Text.ofString "initial_path", 0⟩
  | level => ⟨Text.ofString "level", 0⟩
  | ansi => ⟨Text.ofString "ansi", 1⟩

/-- A value may be given for an entry: a text, a text and a truth value. -/
def Admits : Entry → Toml → Prop
  | initialPath, v => ∃ t, v = .text t
  | level, v => ∃ t, v = .text t
  | ansi, v => ∃ b, v = .bool b

end Settings.Entry

namespace Settings

/-- What some settings have for an entry. -/
def valueOf (s : Settings) : Entry → Toml
  | .initialPath => .text s.initialPath
  | .level => .text s.level
  | .ansi => .bool s.ansi

/-- A document gives a value for an entry. -/
def Given (d : Toml) (e : Entry) (v : Toml) : Prop := d.GivesIn e.sectionField e.field v

/-- The sections of the three entries are records, where a document gives them. -/
def HasSections (d : Toml) : Prop := ∀ (e : Entry) (u : Toml), d.Gives e.sectionField u → u.IsRecord

/-- A document has the settings in the form in which they are read. -/
def IsReadable (d : Toml) : Prop := HasSections d ∧ ∀ e v, Given d e v → e.Admits v

/-- The value of an entry is the one that a document gives, or the standard one where it gives none. -/
def IsValue (d : Toml) (e : Entry) (v : Toml) : Prop :=
  Given d e v ∨ (∀ u, ¬Given d e u) ∧ v = standard.valueOf e

/-- Two documents agree on the three entries: they give the same values for them, in sections that are records in both or
in neither. -/
def Agree (d d' : Toml) : Prop := (HasSections d ↔ HasSections d') ∧ ∀ e v, Given d e v ↔ Given d' e v

/-- A document gives none of the three entries, and no section that is not a record. -/
def IsEntryFree (d : Toml) : Prop := HasSections d ∧ ∀ e v, ¬Given d e v

/-! ## Sections and documents -/

variable {d d' v : Toml} {s s' : Settings} {e : Entry} {t t' : Text}

/-- A section of the router is read as its field is. -/
theorem router_ofToml_eq_some_iff {r : RouterSettings} (hv : v.HasDistinctKeys) :
    RouterSettings.ofToml v = some r ↔
      v.IsRecord ∧ v.Takes Entry.initialPath.field Toml.text? RouterSettings.defaultInitialPath r.initialPath := by
  rw [← Toml.exists_record?_iff [Text.ofString "initial_path"], RouterSettings.ofToml]
  simp only [Option.bind_eq_bind, Option.bind_eq_some_iff]
  constructor
  · rintro ⟨fields, hfields, initialPath, hinitialPath, heq⟩
    cases heq
    exact ⟨⟨fields, hfields⟩,
      (Toml.fieldOr_record?_eq_some_iff Entry.initialPath.field hv hfields rfl).1 hinitialPath⟩
  · rintro ⟨⟨fields, hfields⟩, hinitialPath⟩
    exact ⟨fields, hfields, r.initialPath,
      (Toml.fieldOr_record?_eq_some_iff Entry.initialPath.field hv hfields rfl).2 hinitialPath, rfl⟩

/-- A section of the log is read as its fields are. -/
theorem logging_ofToml_eq_some_iff {l : LoggingSettings} (hv : v.HasDistinctKeys) :
    LoggingSettings.ofToml v = some l ↔
      v.IsRecord ∧ v.Takes Entry.level.field Toml.text? LoggingSettings.defaultLevel l.level ∧
        v.Takes Entry.ansi.field Toml.bool? LoggingSettings.defaultAnsi l.ansi := by
  rw [← Toml.exists_record?_iff [Text.ofString "level", Text.ofString "ansi"], LoggingSettings.ofToml]
  simp only [Option.bind_eq_bind, Option.bind_eq_some_iff]
  constructor
  · rintro ⟨fields, hfields, level, hlevel, ansi, hansi, heq⟩
    cases heq
    exact ⟨⟨fields, hfields⟩, (Toml.fieldOr_record?_eq_some_iff Entry.level.field hv hfields rfl).1 hlevel,
      (Toml.fieldOr_record?_eq_some_iff Entry.ansi.field hv hfields rfl).1 hansi⟩
  · rintro ⟨⟨fields, hfields⟩, hlevel, hansi⟩
    exact ⟨fields, hfields, l.level, (Toml.fieldOr_record?_eq_some_iff Entry.level.field hv hfields rfl).2 hlevel,
      l.ansi, (Toml.fieldOr_record?_eq_some_iff Entry.ansi.field hv hfields rfl).2 hansi, rfl⟩

/-- A document is read as its sections are. -/
theorem ofToml_eq_some_iff_takes (hd : d.HasDistinctKeys) :
    ofToml d = some s ↔
      d.IsRecord ∧ d.Takes Entry.initialPath.sectionField RouterSettings.ofToml .standard s.toRouterSettings ∧
        d.Takes Entry.level.sectionField LoggingSettings.ofToml .standard s.toLoggingSettings := by
  rw [← Toml.exists_record?_iff [Text.ofString "router", Text.ofString "logging"], ofToml]
  simp only [Option.bind_eq_bind, Option.bind_eq_some_iff]
  constructor
  · rintro ⟨sections, hsections, router, hrouter, logging, hlogging, heq⟩
    cases heq
    exact ⟨⟨sections, hsections⟩,
      (Toml.fieldOr_record?_eq_some_iff Entry.initialPath.sectionField hd hsections rfl).1 hrouter,
      (Toml.fieldOr_record?_eq_some_iff Entry.level.sectionField hd hsections rfl).1 hlogging⟩
  · rintro ⟨⟨sections, hsections⟩, hrouter, hlogging⟩
    exact ⟨sections, hsections, s.toRouterSettings,
      (Toml.fieldOr_record?_eq_some_iff Entry.initialPath.sectionField hd hsections rfl).2 hrouter, s.toLoggingSettings,
      (Toml.fieldOr_record?_eq_some_iff Entry.level.sectionField hd hsections rfl).2 hlogging, rfl⟩

/-! ## What the entries decide -/

/-- Every value of the settings that a document holds is the one it gives, or else the standard one. -/
theorem isValue_of_ofToml (hd : d.HasDistinctKeys) (h : ofToml d = some s) (e : Entry) : IsValue d e (s.valueOf e) := by
  obtain ⟨-, hrouter, hlogging⟩ := (ofToml_eq_some_iff_takes hd).1 h
  cases e with
  | initialPath =>
    exact hrouter.through Entry.initialPath.field RouterSettings.initialPath Toml.text
      (fun _ _ => Toml.text?_eq_some_iff.1) hd (fun u hu hr => ((router_ofToml_eq_some_iff hu).1 hr).2)
  | level =>
    exact hlogging.through Entry.level.field LoggingSettings.level Toml.text
      (fun _ _ => Toml.text?_eq_some_iff.1) hd (fun u hu hl => ((logging_ofToml_eq_some_iff hu).1 hl).2.1)
  | ansi =>
    exact hlogging.through Entry.ansi.field LoggingSettings.ansi Toml.bool
      (fun _ _ => Toml.bool?_eq_some_iff.1) hd (fun u hu hl => ((logging_ofToml_eq_some_iff hu).1 hl).2.2)

/-- A section of the router is read exactly if it is a record and the entry in it is a text. -/
theorem exists_router_ofToml_iff (hv : v.HasDistinctKeys) :
    (∃ r, RouterSettings.ofToml v = some r) ↔
      v.IsRecord ∧ ∀ u, v.Gives Entry.initialPath.field u → Entry.initialPath.Admits u := by
  calc (∃ r, RouterSettings.ofToml v = some r)
      ↔ ∃ r : RouterSettings, v.IsRecord ∧
          v.Takes Entry.initialPath.field Toml.text? RouterSettings.defaultInitialPath r.initialPath :=
        exists_congr (fun r => router_ofToml_eq_some_iff hv)
    _ ↔ v.IsRecord ∧ ∃ t, v.Takes Entry.initialPath.field Toml.text? RouterSettings.defaultInitialPath t := by
        constructor
        · rintro ⟨r, hrecord, h⟩
          exact ⟨hrecord, r.initialPath, h⟩
        · rintro ⟨hrecord, t, h⟩
          exact ⟨⟨t⟩, hrecord, h⟩
    _ ↔ v.IsRecord ∧ ∀ u, v.Gives Entry.initialPath.field u → Entry.initialPath.Admits u := by
        simp only [Toml.exists_takes_iff _ hv, Toml.text?_eq_some_iff, Entry.Admits]

/-- A section of the log is read exactly if it is a record and the entries in it are a text and a truth value. -/
theorem exists_logging_ofToml_iff (hv : v.HasDistinctKeys) :
    (∃ l, LoggingSettings.ofToml v = some l) ↔
      v.IsRecord ∧ (∀ u, v.Gives Entry.level.field u → Entry.level.Admits u) ∧
        ∀ u, v.Gives Entry.ansi.field u → Entry.ansi.Admits u := by
  calc (∃ l, LoggingSettings.ofToml v = some l)
      ↔ ∃ l : LoggingSettings, v.IsRecord ∧
          v.Takes Entry.level.field Toml.text? LoggingSettings.defaultLevel l.level ∧
          v.Takes Entry.ansi.field Toml.bool? LoggingSettings.defaultAnsi l.ansi :=
        exists_congr (fun l => logging_ofToml_eq_some_iff hv)
    _ ↔ v.IsRecord ∧ (∃ t, v.Takes Entry.level.field Toml.text? LoggingSettings.defaultLevel t) ∧
          ∃ b, v.Takes Entry.ansi.field Toml.bool? LoggingSettings.defaultAnsi b := by
        constructor
        · rintro ⟨l, hrecord, hlevel, hansi⟩
          exact ⟨hrecord, ⟨l.level, hlevel⟩, l.ansi, hansi⟩
        · rintro ⟨hrecord, ⟨t, hlevel⟩, b, hansi⟩
          exact ⟨⟨t, b⟩, hrecord, hlevel, hansi⟩
    _ ↔ v.IsRecord ∧ (∀ u, v.Gives Entry.level.field u → Entry.level.Admits u) ∧
          ∀ u, v.Gives Entry.ansi.field u → Entry.ansi.Admits u := by
        simp only [Toml.exists_takes_iff _ hv, Toml.text?_eq_some_iff, Toml.bool?_eq_some_iff, Entry.Admits]

/-- A document is read exactly if it is a record that has the settings in the right form. -/
theorem exists_ofToml_iff (hd : d.HasDistinctKeys) : (∃ s, ofToml d = some s) ↔ d.IsRecord ∧ IsReadable d := by
  have hsections : (∃ s, ofToml d = some s) ↔ d.IsRecord ∧
      (∀ u, d.Gives Entry.initialPath.sectionField u → ∃ r, RouterSettings.ofToml u = some r) ∧
      ∀ u, d.Gives Entry.level.sectionField u → ∃ l, LoggingSettings.ofToml u = some l := by
    rw [← Toml.exists_takes_iff RouterSettings.standard hd, ← Toml.exists_takes_iff LoggingSettings.standard hd]
    simp only [ofToml_eq_some_iff_takes hd]
    constructor
    · rintro ⟨s, hrecord, hrouter, hlogging⟩
      exact ⟨hrecord, ⟨s.toRouterSettings, hrouter⟩, s.toLoggingSettings, hlogging⟩
    · rintro ⟨hrecord, ⟨r, hrouter⟩, l, hlogging⟩
      exact ⟨⟨r, l⟩, hrecord, hrouter, hlogging⟩
  rw [hsections]
  refine and_congr_right (fun _ => ⟨?_, ?_⟩)
  · rintro ⟨hrouter, hlogging⟩
    have hrouter := fun u hu => (exists_router_ofToml_iff (hu.hasDistinctKeys hd)).1 (hrouter u hu)
    have hlogging := fun u hu => (exists_logging_ofToml_iff (hu.hasDistinctKeys hd)).1 (hlogging u hu)
    constructor
    · intro e u hu
      cases e with
      | initialPath => exact (hrouter u hu).1
      | level => exact (hlogging u hu).1
      | ansi => exact (hlogging u hu).1
    · rintro e v ⟨u, hu, hv⟩
      cases e with
      | initialPath => exact (hrouter u hu).2 v hv
      | level => exact (hlogging u hu).2.1 v hv
      | ansi => exact (hlogging u hu).2.2 v hv
  · rintro ⟨hrecord, hadmits⟩
    constructor
    · intro u hu
      rw [exists_router_ofToml_iff (hu.hasDistinctKeys hd)]
      exact ⟨hrecord .initialPath u hu, fun v hv => hadmits .initialPath v ⟨u, hu, hv⟩⟩
    · intro u hu
      rw [exists_logging_ofToml_iff (hu.hasDistinctKeys hd)]
      exact ⟨hrecord .level u hu, fun v hv => hadmits .level v ⟨u, hu, hv⟩, fun v hv => hadmits .ansi v ⟨u, hu, hv⟩⟩

/-- Settings are what they have for the entries. -/
theorem ext_valueOf (h : ∀ e, s.valueOf e = s'.valueOf e) : s = s' := by
  obtain ⟨⟨initialPath⟩, ⟨level, ansi⟩⟩ := s
  obtain ⟨⟨initialPath'⟩, ⟨level', ansi'⟩⟩ := s'
  cases h .initialPath
  cases h .level
  cases h .ansi
  rfl

/-- An entry has one value. -/
theorem IsValue.unique {v w : Toml} (hd : d.HasDistinctKeys) (hv : IsValue d e v) (hw : IsValue d e w) : v = w := by
  obtain hv | ⟨hnone, hv⟩ := hv
  · obtain hw | ⟨hnone, _⟩ := hw
    · exact Toml.GivesIn.unique hd hv hw
    · exact absurd hv (hnone v)
  · obtain hw | ⟨_, hw⟩ := hw
    · exact absurd hw (hnone w)
    · rw [hv, hw]

/-- What a document is read as: the settings with the values of its entries, if it has them in the right form. -/
theorem ofToml_eq_some_iff (hd : d.HasDistinctKeys) :
    ofToml d = some s ↔ (d.IsRecord ∧ IsReadable d) ∧ ∀ e, IsValue d e (s.valueOf e) := by
  constructor
  · exact fun h => ⟨(exists_ofToml_iff hd).1 ⟨s, h⟩, isValue_of_ofToml hd h⟩
  · rintro ⟨hreadable, hvalue⟩
    obtain ⟨s', hs'⟩ := (exists_ofToml_iff hd).2 hreadable
    have heq : s' = s := ext_valueOf (fun e => (isValue_of_ofToml hd hs' e).unique hd (hvalue e))
    rw [hs', heq]

/-- Documents that agree on the entries are read alike. -/
theorem ofToml_congr (hd : d.HasDistinctKeys) (hd' : d'.HasDistinctKeys) (hrecord : d.IsRecord ↔ d'.IsRecord)
    (h : Agree d d') : ofToml d = ofToml d' := by
  refine Option.ext (fun s => ?_)
  rw [ofToml_eq_some_iff hd, ofToml_eq_some_iff hd', hrecord]
  simp only [IsReadable, IsValue, h.1, h.2]

/-- A document without any of the entries holds the standard settings. -/
theorem ofToml_of_isEntryFree (hd : d.HasDistinctKeys) (hrecord : d.IsRecord) (h : IsEntryFree d) :
    ofToml d = some standard := by
  rw [ofToml_eq_some_iff hd]
  exact ⟨⟨hrecord, h.1, fun e v hv => absurd hv (h.2 e v)⟩, fun e => .inr ⟨h.2 e, rfl⟩⟩

/-! ## Texts -/

/-- A blank text gives the standard settings. -/
theorem parse_of_blank (h : isAllBlank t = true) : parse t = .ok standard := by
  rw [parse, if_pos (List.isEmpty_iff.2 (Text.trim_eq_nil_iff.2 h))]

/-- A text that is not blank is read as a document, and refused where that fails. -/
theorem parse_of_not_blank (h : ¬isAllBlank t = true) :
    parse t = ((Toml.parse t).bind ofToml).elim (.error .invalid) .ok := by
  rw [parse, if_neg (fun hempty => h (Text.trim_eq_nil_iff.1 (List.isEmpty_iff.1 hempty)))]
  cases (Toml.parse t).bind ofToml with
  | none => rfl
  | some s => rfl

/-- A document is a table. -/
theorem isRecord_of_parse (h : Toml.parse t = some d) : d.IsRecord := by
  obtain ⟨entries, _, rfl⟩ := Toml.exists_entries_of_parse h
  exact .table _

/-- No table of a document has one name twice. -/
theorem hasDistinctKeys_of_parse (h : Toml.parse t = some d) : d.HasDistinctKeys := by
  obtain ⟨entries, hentries, rfl⟩ := Toml.exists_entries_of_parse h
  exact hentries.toValue

/-- A text that is a document holds the settings of the document, also if it is blank. -/
theorem parse_eq_of_parse (h : Toml.parse t = some d) : parse t = (ofToml d).elim (.error .invalid) .ok := by
  by_cases hblank : isAllBlank t = true
  · rw [parse_of_blank hblank, Toml.parse_of_blank hblank h]
    rfl
  · rw [parse_of_not_blank hblank, h, Option.bind_some]

/-- The settings of a text that is a document are those of the document. -/
theorem parse_eq_ok_iff_of_parse (h : Toml.parse t = some d) : parse t = .ok s ↔ ofToml d = some s := by
  rw [parse_eq_of_parse h]
  cases ofToml d with
  | none => simp
  | some s' => simp

/-- Texts that are read: the blank ones, and the documents that have the settings in the right form. -/
theorem exists_parse_eq_ok_iff (t : Text) :
    (∃ s, parse t = .ok s) ↔ isAllBlank t = true ∨ ∃ d, Toml.parse t = some d ∧ IsReadable d := by
  by_cases hblank : isAllBlank t = true
  · exact iff_of_true ⟨standard, parse_of_blank hblank⟩ (.inl hblank)
  · rw [or_iff_right hblank]
    constructor
    · rintro ⟨s, hs⟩
      rw [parse_of_not_blank hblank] at hs
      cases hparse : Toml.parse t with
      | none =>
        rw [hparse] at hs
        cases hs
      | some d =>
        rw [← parse_of_not_blank hblank, parse_eq_ok_iff_of_parse hparse] at hs
        exact ⟨d, rfl, ((exists_ofToml_iff (hasDistinctKeys_of_parse hparse)).1 ⟨s, hs⟩).2⟩
    · rintro ⟨d, hparse, hreadable⟩
      obtain ⟨s, hs⟩ := (exists_ofToml_iff (hasDistinctKeys_of_parse hparse)).2 ⟨isRecord_of_parse hparse, hreadable⟩
      exact ⟨s, (parse_eq_ok_iff_of_parse hparse).2 hs⟩

/-- Three entries configure an application. A text is read if it is blank, or if it is a document whose sections are records
and whose entries have the right kinds; each value is then the one given, or else the standard one. Documents that agree on
the entries are read alike, and a blank text, a missing file and a document without the entries all leave the standard
settings. -/
theorem parse_depends_on_entries (t : Text) :
    ((∃ s, parse t = .ok s) ↔ isAllBlank t = true ∨ ∃ d, Toml.parse t = some d ∧ IsReadable d) ∧
    (∀ d s, Toml.parse t = some d → parse t = .ok s → ∀ e, IsValue d e (s.valueOf e)) ∧
    (∀ d t' d', Toml.parse t = some d → Toml.parse t' = some d' → Agree d d' → parse t = parse t') ∧
    (isAllBlank t = true → parse t = .ok standard) ∧
    (∀ d, Toml.parse t = some d → IsEntryFree d → parse t = .ok standard) ∧
    ∀ (tree : FileTree) (name : Text), tree.entry? name = none → load tree name = .ok standard := by
  refine ⟨exists_parse_eq_ok_iff t, ?_, ?_, parse_of_blank, ?_, ?_⟩
  · intro d s hparse hs e
    rw [parse_eq_ok_iff_of_parse hparse] at hs
    exact isValue_of_ofToml (hasDistinctKeys_of_parse hparse) hs e
  · intro d t' d' hparse hparse' hagree
    have hrecord : d.IsRecord ↔ d'.IsRecord := iff_of_true (isRecord_of_parse hparse) (isRecord_of_parse hparse')
    rw [parse_eq_of_parse hparse, parse_eq_of_parse hparse',
      ofToml_congr (hasDistinctKeys_of_parse hparse) (hasDistinctKeys_of_parse hparse') hrecord hagree]
  · intro d hparse hfree
    rw [parse_eq_ok_iff_of_parse hparse]
    exact ofToml_of_isEntryFree (hasDistinctKeys_of_parse hparse) (isRecord_of_parse hparse) hfree
  · intro tree name hmissing
    rw [load, hmissing]

/-- One text gives the section for logging as a list, with an entry too many, and one gives it as a table in another order.
Both are read, and give the same settings. A text with no entry for a setting, a blank text and no file at all give the
standard settings. -/
theorem parse_of_two_forms :
    (Toml.parse (Text.ofString "x = 1\nlogging = [\"debug\", false, 7]") =
        some (.table [(Text.ofString "x", .number),
          (Text.ofString "logging", .list [.text (Text.ofString "debug"), .bool false, .number])]) ∧
      Toml.parse (Text.ofString "[logging]\nansi = false\nlevel = \"debug\"") =
        some (.table [(Text.ofString "logging", .table [(Text.ofString "ansi", .bool false),
          (Text.ofString "level", .text (Text.ofString "debug"))])]) ∧
      parse (Text.ofString "x = 1\nlogging = [\"debug\", false, 7]") =
        parse (Text.ofString "[logging]\nansi = false\nlevel = \"debug\"")) ∧
    (Toml.parse (Text.ofString "x = 1") = some (.table [(Text.ofString "x", .number)]) ∧
      parse (Text.ofString "x = 1") = .ok standard) ∧
    isAllBlank [' ', '\n'] = true ∧ parse [' ', '\n'] = .ok standard ∧ load [] fileName = .ok standard := by
  have hlist : Toml.parse (Text.ofString "x = 1\nlogging = [\"debug\", false, 7]") =
      some (.table [(Text.ofString "x", .number),
        (Text.ofString "logging", .list [.text (Text.ofString "debug"), .bool false, .number])]) := by cbv
  have htable : Toml.parse (Text.ofString "[logging]\nansi = false\nlevel = \"debug\"") =
      some (.table [(Text.ofString "logging", .table [(Text.ofString "ansi", .bool false),
        (Text.ofString "level", .text (Text.ofString "debug"))])]) := by cbv
  have hother : Toml.parse (Text.ofString "x = 1") = some (.table [(Text.ofString "x", .number)]) := by cbv
  refine ⟨⟨hlist, htable, (parse_depends_on_entries _).2.2.1 _ _ _ hlist htable ⟨iff_of_true ?_ ?_, ?_⟩⟩,
    ⟨hother, (parse_depends_on_entries _).2.2.2.2.1 _ hother ⟨?_, ?_⟩⟩, rfl,
    (parse_depends_on_entries _).2.2.2.1 rfl, (parse_depends_on_entries []).2.2.2.2.2 [] fileName rfl⟩
  · intro e u hu
    cases e <;> simp [Entry.sectionField, Text.ofString] at hu <;> subst hu <;> exact .list _
  · intro e u hu
    cases e <;> simp [Entry.sectionField, Text.ofString] at hu <;> subst hu <;> exact .table _
  · intro e v
    cases e with
    | initialPath => simp [Given, Toml.GivesIn, Entry.sectionField, Text.ofString]
    | level =>
      simpa [Given, Toml.GivesIn, Entry.sectionField, Entry.field, Text.ofString] using eq_comm
    | ansi =>
      simpa [Given, Toml.GivesIn, Entry.sectionField, Entry.field, Text.ofString] using eq_comm
  · intro e u hu
    cases e <;> simp [Entry.sectionField, Text.ofString] at hu
  · rintro e v ⟨u, hu, -⟩
    cases e <;> simp [Entry.sectionField, Text.ofString] at hu

end Settings

end PathRouting
