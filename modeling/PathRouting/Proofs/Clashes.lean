import PathRouting.Proofs.Ledgers
import PathRouting.Proofs.OwningRuns

/-!
# Drops that panic

What a callback owned is dropped while the registry that the callback was released from is being changed. Statements: the
registries that a drop takes something from are just those that it leaves smaller; a registry is being changed only after a
subscription of it was released, and nothing but drops is done then; a drop that takes something from a registry
which is being changed leaves that registry as it was, and others as they should be; and so the registries are in step with
what was registered and released after just those turns that take nothing from a registry which is being changed.
-/

namespace PathRouting

namespace Session

variable {s t : Session} {us : List Session} {owner : Owner} {g : Registry} {kind : Kind} {name : Text} {rest : List Task}
  {entry : Nat × Callback}

/-! ## What a drop takes away -/

/-- The registries that lose a listener are those of the histories whose routers nothing holds any more. -/
theorem mem_endings {s : Session} : owner ∈ s.endings ↔
    ∃ r k, owner = .history k ∧ s.posts[r]? = some (k, true) ∧ s.holdsRouter r = false := by
  simp only [endings, List.mem_map, List.mem_filter, List.mem_zipIdx_iff_getElem?, Bool.and_eq_true, Bool.not_eq_true',
    posts, List.getElem?_map, Prod.exists, Option.map_eq_some_iff]
  constructor
  · rintro ⟨router, r, ⟨hrouter, halive, hfree⟩, rfl⟩
    exact ⟨r, router.history, rfl, ⟨router, hrouter, by rw [Router.post, halive]⟩, hfree⟩
  · rintro ⟨r, k, rfl, ⟨router, hrouter, hpost⟩, hfree⟩
    obtain ⟨rfl, halive⟩ := Prod.mk.inj hpost
    exact ⟨router, r, ⟨hrouter, halive, hfree⟩, rfl⟩

/-- A drop strips the registry that a subscription is released from, and those of the histories of routers that end. -/
theorem mem_stripped (hfirst : s.agenda = .drop kind name :: rest) (hstep : s.step? = some t) : owner ∈ s.stripped ↔
    (∃ subscription, s.released? = some subscription ∧ subscription.owner = owner) ∨
      ∃ r k, owner = .history k ∧ s.posts[r]? = some (k, true) ∧ t.isAlive r = false := by
  obtain rfl := eq_of_step? hfirst hstep
  have hposts : (({ s with agenda := rest } : Session).drop kind name).posts = s.posts :=
    posts_of_desks (keeps_drop _ kind name).desks
  simp only [stripped, hfirst, List.mem_append, Option.mem_toList, Option.map_eq_some_iff, mem_endings, hposts]
  refine or_congr_right (exists_congr (fun r => exists_congr (fun k => and_congr_right (fun _ => and_congr_right ?_))))
  intro hpost
  have halive : (({ s with agenda := rest } : Session).drop kind name).isAlive r = true :=
    isAlive_iff_post.2 ⟨k, hposts.symm ▸ hpost⟩
  change _ ↔ (({ s with agenda := rest } : Session).drop kind name).sweep.isAlive r = false
  rw [isAlive_sweep, halive, Bool.true_and]

/-- A registry is there for good. -/
theorem OpenRun.exists_registryOf?_of_step (h : OpenRun Session.empty us s) (hstep : s.step? = some t)
    (hg : s.registryOf? owner = some g) : ∃ g', t.registryOf? owner = some g' := by
  obtain ⟨task, rest, hfirst, rfl⟩ := (step?_eq_some_iff s t).1 hstep
  have hg' : registryOf? { s with agenda := rest } owner = some g := by
    rw [← hg]
    cases owner <;> rfl
  obtain ⟨_, hperformed⟩ := exists_registryOf?_perform (s := { s with agenda := rest }) h.outletsExist task hg'
  exact exists_registryOf?_sweep hperformed

/-- What stays after a step stayed before. -/
theorem OpenRun.stays_of_step (h : OpenRun Session.empty us s) (hstep : s.step? = some t)
    (hmade : entry ∈ entriesOf owner (registrations us)) (hstays : stays (releases (s :: us)) t.isAlive owner entry = true) :
    stays (releases us) s.isAlive owner entry = true := by
  rw [stays_eq_true_iff] at hstays ⊢
  obtain ⟨hleft, hfollows⟩ := hstays
  rw [releases_cons, List.mem_append, not_or] at hleft
  refine ⟨hleft.1, ?_⟩
  cases hcallback : entry.2 with
  | handler index => rfl
  | follow r =>
    rw [hcallback] at hfollows
    obtain ⟨-, hr⟩ := h.isLedger.followers _ (mem_entriesOf.1 hmade) r hcallback
    have hlater : OpenRun s [s] t := OpenRun.start.step (.own hstep)
    change s.isAlive r = true
    rw [← Bool.not_eq_false]
    intro hgone
    exact Bool.false_ne_true ((hlater.isAlive_eq_false hr hgone).symm.trans hfollows)

/-- A drop leaves of a registry what stays. -/
theorem OpenRun.registryOf?_of_drop (h : OpenRun Session.empty us s) (hfirst : s.agenda = .drop kind name :: rest)
    (hstep : s.step? = some t) (hg : s.registryOf? owner = some g) : t.registryOf? owner =
      some ⟨g.nextKey, g.entries.filter (stays (releases (s :: us)) t.isAlive owner)⟩ := by
  have hlater : OpenRun Session.empty (s :: us) t := h.step (.own hstep)
  have hnew : s.enrolled? = none := by rw [enrolled?, hfirst]; rfl
  have hmade : registrations (s :: us) = registrations us := by
    rw [registrations_cons, hnew]
    exact List.append_nil _
  obtain ⟨g', hg'⟩ : ∃ g', t.registryOf? owner = some g' := h.exists_registryOf?_of_step hstep hg
  have hbefore := h.isLedger.records owner g hg
  have hafter := hlater.isLedger.records owner g' hg'
  rw [hmade] at hafter
  have hkeys : g'.nextKey = g.nextKey := by
    have hranges := congrArg List.length (hafter.keys.symm.trans hbefore.keys)
    rwa [List.length_range, List.length_range] at hranges
  have hentries : g'.entries = g.entries.filter (stays (releases (s :: us)) t.isAlive owner) := by
    rw [hafter.entries, hbefore.entries, List.filter_filter]
    refine List.filter_congr (fun entry hm => ?_)
    cases hstays : stays (releases (s :: us)) t.isAlive owner entry with
    | false => rfl
    | true => rw [h.stays_of_step hstep hm hstays]; rfl
  rw [hg', ← hkeys, ← hentries]

/-- A drop strips just the registries in which something does not stay. -/
theorem OpenRun.mem_stripped_iff (h : OpenRun Session.empty us s) (hfirst : s.agenda = .drop kind name :: rest)
    (hstep : s.step? = some t) : owner ∈ s.stripped ↔ ∃ g, s.registryOf? owner = some g ∧
      ∃ entry ∈ g.entries, stays (releases (s :: us)) t.isAlive owner entry = false := by
  rw [mem_stripped hfirst hstep]
  constructor
  · rintro (⟨subscription, hreleased, rfl⟩ | ⟨r, k, rfl, hpost, hgone⟩)
    · obtain ⟨_, _, hheld⟩ := exists_holding?_of_released? hreleased
      obtain ⟨index, -, g, hg, hentry⟩ := h.isLedger.exists_isRegistered hheld
      refine ⟨g, hg, _, hentry, ?_⟩
      rw [← Bool.not_eq_true, stays_eq_true_iff, releases_cons, hreleased]
      exact fun hstays => hstays.1 (List.mem_append_right _ (List.mem_singleton_self _))
    · have hk : k < s.rosters.length := h.enlists.posts _ (List.mem_of_getElem? hpost)
      have hg : s.rosters[k]? = some s.rosters[k] := List.getElem?_eq_getElem hk
      have hlists := h.enlists.lists k s.rosters[k] hg
      obtain ⟨key, hentry⟩ := Registry.mem_followers.1 ((hlists.followers r).2 hpost)
      refine ⟨s.rosters[k], hg, _, hentry, ?_⟩
      rw [← Bool.not_eq_true, stays_eq_true_iff]
      exact fun hstays => Bool.false_ne_true (hgone.symm.trans hstays.2)
  · rintro ⟨g, hg, ⟨key, callback⟩, hentry, hleaves⟩
    have hstayed := hentry
    rw [(h.isLedger.records owner g hg).entries, List.mem_filter, mem_entriesOf, stays_eq_true_iff] at hstayed
    obtain ⟨hmade, hleft, hfollows⟩ := hstayed
    by_cases hreleased : s.released? = some ⟨owner, key⟩
    · exact Or.inl ⟨_, hreleased, rfl⟩
    · have hkept : ⟨owner, key⟩ ∉ releases (s :: us) := by
        rw [releases_cons, List.mem_append, Option.mem_toList, not_or]
        exact ⟨hleft, hreleased⟩
      cases callback with
      | handler index =>
        have hstays : stays (releases (s :: us)) t.isAlive owner (key, .handler index) = true :=
          stays_eq_true_iff.2 ⟨hkept, rfl⟩
        rw [hstays] at hleaves
        cases hleaves
      | follow r =>
        obtain ⟨⟨k, rfl⟩, -⟩ := h.isLedger.followers _ hmade r rfl
        have hlists := h.enlists.lists k g hg
        refine Or.inr ⟨r, k, rfl, (hlists.followers r).1 (Registry.mem_followers.2 ⟨key, hentry⟩), ?_⟩
        rw [← Bool.not_eq_true]
        intro halive
        have hstays : stays (releases (s :: us)) t.isAlive (.history k) (key, .follow r) = true :=
          stays_eq_true_iff.2 ⟨hkept, halive⟩
        rw [hstays] at hleaves
        cases hleaves

/-- A registry that a drop does not strip is left as it was. -/
theorem OpenRun.registryOf?_of_notMem_stripped (h : OpenRun Session.empty us s) (hfirst : s.agenda = .drop kind name :: rest)
    (hstep : s.step? = some t) (hg : s.registryOf? owner = some g) (hother : owner ∉ s.stripped) :
    t.registryOf? owner = some g := by
  have hkept : g.entries.filter (stays (releases (s :: us)) t.isAlive owner) = g.entries := by
    rw [List.filter_eq_self]
    intro entry hentry
    rw [← Bool.not_eq_false]
    exact fun hleaves => hother ((h.mem_stripped_iff hfirst hstep).2 ⟨g, hg, entry, hentry, hleaves⟩)
  rw [h.registryOf?_of_drop hfirst hstep hg, hkept]

/-- A registry that a drop strips has fewer entries after it. -/
theorem OpenRun.size_lt_of_mem_stripped (h : OpenRun Session.empty us s) (hfirst : s.agenda = .drop kind name :: rest)
    (hstep : s.step? = some t) (howner : owner ∈ s.stripped) :
    ∃ g g', s.registryOf? owner = some g ∧ t.registryOf? owner = some g' ∧ g'.size < g.size := by
  obtain ⟨g, hg, entry, hentry, hleaves⟩ := (h.mem_stripped_iff hfirst hstep).1 howner
  refine ⟨g, _, hg, h.registryOf?_of_drop hfirst hstep hg, ?_⟩
  exact List.length_filter_lt_length_iff_exists.2 ⟨entry, hentry, by rw [hleaves]; exact Bool.false_ne_true⟩

end Session

namespace OwningSession

variable {e : OwningSession} {us : List Session} {t : Session} {turn : Turn} {owner : Owner}
  {others : Session → Session → Prop}

/-! ## While a registry is being changed -/

/-- The task drops something, or is the end of some drops. -/
def IsBurial (task : Task) : Prop := (∃ kind name, task = .drop kind name) ∨ task = .script []

/-- From a registry that is being changed a subscription was released, and until the change is over only drops are done. -/
structure BuriesOnly (e : OwningSession) (released : List Subscription) : Prop where
  released : ∀ f ∈ e.frames, ∀ owner, f.activity = .changing owner → ∃ subscription ∈ released, subscription.owner = owner
  ahead : ∀ f ∈ e.frames, f.activity.isChange = true → ∃ ahead behind, e.session.agenda = ahead ++ behind ∧
    behind.length = f.waiting ∧ ahead ≠ [] ∧ ∀ task ∈ ahead, IsBurial task

/-- While nothing is being dropped there is nothing to bury. -/
theorem buriesOnly_of_isDropping {released : List Subscription} (hfree : e.isDropping = false) : e.BuriesOnly released := by
  rw [isDropping, List.any_eq_false] at hfree
  exact ⟨fun f hf owner hchanges => absurd (by rw [hchanges]; rfl) (hfree f hf),
    fun f hf hchanges => absurd hchanges (hfree f hf)⟩

/-- What is put first when a closure goes is the drop of what it captured. -/
theorem isBurial_of_mem_burial {task : Task} (h : task ∈ e.burial) : IsBurial task :=
  (mem_burial h).imp_left (fun ⟨c, _, hc⟩ => ⟨c.kind, c.name, hc⟩)

/-- Nothing comes of a drop. -/
theorem IsBurial.agenda_eq {s : Session} {task : Task} {rest : List Task} (h : IsBurial task)
    (hfirst : s.agenda = task :: rest) (hstep : s.step? = some t) : t.agenda = rest := by
  obtain rfl := Session.eq_of_step? hfirst hstep
  obtain ⟨new, hagenda, hleads⟩ := Session.leads_perform { s with agenda := rest } task
  have hnone : new = [] := by
    obtain ⟨kind, name, rfl⟩ | rfl := h <;>
    · cases hleads
      rfl
  rw [hnone] at hagenda
  exact hagenda

/-- A turn goes on with the drops, and begins to change a registry only as it releases a subscription of it. -/
theorem BuriesOnly.settle (h : e.BuriesOnly (Session.releases us)) (hstep : e.session.step? = some t) :
    (e.settle t).BuriesOnly (Session.releases (e.session :: us)) := by
  have hkept : ∀ f ∈ (e.advance t).frames, ∀ owner, f.activity = .changing owner →
      ∃ subscription ∈ Session.releases (e.session :: us), subscription.owner = owner := by
    intro f hf owner hchanges
    obtain ⟨hbefore, -⟩ := mem_frames_advance hf (by rw [hchanges]; rfl)
    obtain ⟨subscription, hm, howner⟩ := h.released f hbefore owner hchanges
    exact ⟨subscription, by rw [Session.releases_cons]; exact List.mem_append_left _ hm, howner⟩
  have hahead : ∀ f ∈ (e.advance t).frames, f.activity.isChange = true → ∃ ahead behind, t.agenda = ahead ++ behind ∧
      behind.length = f.waiting ∧ ahead ≠ [] ∧ ∀ task ∈ ahead, IsBurial task := by
    intro f hf hchanges
    obtain ⟨hbefore, hwaiting⟩ := mem_frames_advance hf hchanges
    obtain ⟨ahead, behind, hagenda, hlength, hne, hburial⟩ := h.ahead f hbefore hchanges
    obtain ⟨task, later, rfl⟩ := List.exists_cons_of_ne_nil hne
    obtain ⟨hfirst, hlater⟩ := List.forall_mem_cons.1 hburial
    have hleft : t.agenda = later ++ behind := hfirst.agenda_eq hagenda hstep
    refine ⟨later, behind, hleft, hlength, ?_, hlater⟩
    rintro rfl
    rw [hleft, List.nil_append, hlength] at hwaiting
    exact Nat.lt_irrefl _ hwaiting
  obtain ⟨-, hsettle⟩ | ⟨-, hsettle⟩ := settle_cases e t
  · rw [hsettle]
    exact ⟨hkept, hahead⟩
  · rw [hsettle]
    have hburial : ∀ task ∈ (e.advance t).burial, IsBurial task := fun task hm => isBurial_of_mem_burial hm
    have hne : (e.advance t).burial ≠ [] := List.append_ne_nil_of_right_ne_nil _ (List.cons_ne_nil _ _)
    have hchanged : ∀ f ∈ e.changed t, ∃ subscription, e.session.released? = some subscription ∧
        f = ⟨.changing subscription.owner, t.agenda.length⟩ := by
      intro f hf
      unfold changed at hf
      split at hf
      · rename_i subscription hreleased
        split at hf
        · exact ⟨subscription, hreleased, List.mem_singleton.1 hf⟩
        · cases hf
      · cases hf
    refine ⟨fun f hf owner hchanges => ?_, fun f hf hchanges => ?_⟩
    · rcases List.mem_append.1 hf with hf | hf
      · obtain ⟨subscription, hreleased, rfl⟩ := hchanged f hf
        refine ⟨subscription, ?_, Activity.changing.inj hchanges⟩
        rw [Session.releases_cons, hreleased]
        exact List.mem_append_right _ (List.mem_singleton_self _)
      · exact hkept f hf owner hchanges
    · rcases List.mem_append.1 hf with hf | hf
      · obtain ⟨_, _, rfl⟩ := hchanged f hf
        exact ⟨(e.advance t).burial, t.agenda, rfl, rfl, hne, hburial⟩
      · obtain ⟨ahead, behind, hagenda, hlength, -, hdrops⟩ := hahead f hf hchanges
        refine ⟨(e.advance t).burial ++ ahead, behind, ?_, hlength, List.append_ne_nil_of_left_ne_nil hne _, ?_⟩
        · change (e.advance t).burial ++ t.agenda = _
          rw [hagenda, List.append_assoc]
        · exact List.forall_mem_append.2 ⟨hburial, hdrops⟩

/-- Along every run a registry is being changed only after a subscription of it was released, and only drops are done then. -/
theorem Run.buriesOnly (h : Run others .empty us e) : e.BuriesOnly (Session.releases us) := by
  induction h with
  | start => exact buriesOnly_of_isDropping rfl
  | step _ hstep ih =>
    cases hstep with
    | own hturn =>
      obtain ⟨t, hown, -, rfl⟩ := settle_of_turn? hturn
      exact ih.settle hown
    | meanwhile hothers hfree => exact buriesOnly_of_isDropping hfree
    | capture c hhas hfree => exact buriesOnly_of_isDropping hfree

/-- While a registry is being changed a subscription of it is just released, and the first task is one of the drops that come
of this. -/
theorem Run.exists_released_of_isChanging (h : Run others .empty us e) (hchanging : e.isChanging owner = true) :
    (∃ subscription ∈ Session.releases us, subscription.owner = owner) ∧
      ∃ task rest, e.session.agenda = task :: rest ∧ IsBurial task := by
  obtain ⟨f, hf, hchanges⟩ := List.any_eq_true.1 hchanging
  have hactivity : f.activity = .changing owner := eq_of_beq hchanges
  refine ⟨h.buriesOnly.released f hf owner hactivity, ?_⟩
  obtain ⟨ahead, behind, hagenda, -, hne, hburial⟩ := h.buriesOnly.ahead f hf (by rw [hactivity]; rfl)
  obtain ⟨task, later, rfl⟩ := List.exists_cons_of_ne_nil hne
  exact ⟨task, later ++ behind, hagenda, hburial task (List.mem_cons_self ..)⟩

/-! ## What a drop that panics leaves -/

/-- A drop that panics leaves the registries that were being changed as they were, and the others as it leaves them. -/
theorem registryOf?_abandon (e : OwningSession) (t : Session) (owner : Owner) :
    (e.abandon t).registryOf? owner = (t.registryOf? owner).map (e.left owner) := by
  cases owner with
  | history k => simp only [abandon, Session.registryOf?, List.getElem?_map, List.getElem?_mapIdx, Option.map_map]; rfl
  | bare b => simp only [abandon, Session.registryOf?, List.getElem?_map, List.getElem?_mapIdx, Option.map_map]; rfl
  | router r => simp only [abandon, Session.registryOf?, List.getElem?_map, List.getElem?_mapIdx, Option.map_map]; rfl

/-- A panic in the middle of a drop leaves a registry that is being changed as it was. -/
theorem registryOf?_abandon_of_isChanging {g : Registry} (hbefore : Session.OpenRun .empty us e.session)
    (hstep : e.session.step? = some t) (hg : e.session.registryOf? owner = some g) (hchanging : e.isChanging owner = true) :
    (e.abandon t).registryOf? owner = some g := by
  obtain ⟨g', hg'⟩ := hbefore.exists_registryOf?_of_step hstep hg
  rw [registryOf?_abandon, hg', Option.map_some, left, if_pos hchanging, hg, Option.getD_some]

/-- A panic leaves the same routers alive. -/
theorem isAlive_abandon (e : OwningSession) (t : Session) : (e.abandon t).isAlive = t.isAlive := by
  funext r
  simp only [Session.isAlive, abandon, List.getElem?_mapIdx]
  cases t.routers[r]? <;> rfl

/-- A turn that panics is a drop. -/
theorem exists_drop_of_clashes (h : e.clashes = true) : ∃ kind name rest, e.session.agenda = .drop kind name :: rest := by
  obtain ⟨owner, howner, -⟩ := List.any_eq_true.1 h
  unfold Session.stripped at howner
  split at howner
  · rename_i kind name rest hagenda
    exact ⟨kind, name, rest, hagenda⟩
  · cases howner

/-! ## In step -/

/-- A drop that takes something from a registry which is being changed leaves it out of step. -/
theorem not_isInStep_abandon (hbefore : Session.OpenRun .empty us e.session) (hstep : e.session.step? = some t)
    (howner : owner ∈ e.session.stripped) (hchanging : e.isChanging owner = true) :
    ¬(e.abandon t).IsInStep (Session.registrations (e.session :: us)) (Session.releases (e.session :: us)) := by
  intro hin
  obtain ⟨kind, name, rest, hfirst⟩ := exists_drop_of_clashes (List.any_eq_true.2 ⟨owner, howner, hchanging⟩)
  obtain ⟨g, g', hg, hg', hlt⟩ := hbefore.size_lt_of_mem_stripped hfirst hstep howner
  have hlater : Session.OpenRun .empty (e.session :: us) t := hbefore.step (.own hstep)
  have hleft := hin.size owner g (registryOf?_abandon_of_isChanging hbefore hstep hg hchanging)
  rw [isAlive_abandon, ← hlater.isLedger.isInStep.size owner g' hg'] at hleft
  exact Nat.ne_of_gt hlt hleft

/-- What callbacks own changes the tasks that are left, and nothing else of the session. -/
theorem exists_first_settle (e : OwningSession) (t : Session) : ∃ tasks, (e.settle t).session = t.first tasks := by
  obtain ⟨-, hsettle⟩ | ⟨-, hsettle⟩ := settle_cases e t
  · exact ⟨[], congrArg session hsettle⟩
  · exact ⟨(e.advance t).burial, congrArg session hsettle⟩

/-- A turn leaves the registries in step exactly if it takes nothing from a registry that is being changed. -/
theorem Run.isInStep_turn_iff (h : Run Session.OpenBetween .empty us e) (hturn : e.turn? = some turn) :
    turn.session.IsInStep (Session.registrations (e.session :: us)) (Session.releases (e.session :: us)) ↔
      ∀ owner ∈ e.session.stripped, e.isChanging owner = false := by
  have hclash : e.clashes = false ↔ ∀ owner ∈ e.session.stripped, e.isChanging owner = false := by
    rw [clashes, List.any_eq_false]
    exact forall_congr' (fun owner => imp_congr_right (fun _ => Bool.not_eq_true _ ▸ Iff.rfl))
  rw [← hclash]
  obtain ⟨t, hstep, ⟨hpanics, rfl⟩ | ⟨hgoes, rfl⟩⟩ := turn?_eq_some_iff.1 hturn
  · refine iff_of_false ?_ (by rw [hpanics]; exact Bool.noConfusion)
    obtain ⟨owner, howner, hchanging⟩ := List.any_eq_true.1 hpanics
    exact not_isInStep_abandon h.openRun hstep howner hchanging
  · have hlater : Session.OpenRun .empty (e.session :: us) (e.settle t).session := (h.step (.own hturn)).openRun
    exact iff_of_true hlater.isLedger.isInStep hgoes

/-- Whoever registers, unsubscribes, drops and detaches, in whatever order, and whatever callbacks own: a registry gives its
keys one after the other, and has just the callbacks that were registered with it and not released, but for routers that have
ended; and what is held is active if its owner lives and its callback is registered. A turn keeps that exactly if it takes
nothing from a registry that is being changed; else it panics, and leaves such a registry as it was. A registry is being
changed only after a subscription of it was released, while drops are done. While turns go on, a subscription is held from
when it is made until it is released or detached; releasing it takes its own callback away and no other; and once it is
detached, its callback stays. -/
theorem Run.registries_in_step (h : Run Session.OpenBetween .empty us e) :
    e.session.IsInStep (Session.registrations us) (Session.releases us) ∧
    (∀ owner, e.isChanging owner = true → (∃ subscription ∈ Session.releases us, subscription.owner = owner) ∧
      ∃ task rest, e.session.agenda = task :: rest ∧ IsBurial task) ∧
    (∀ turn, e.turn? = some turn →
      (turn.session.IsInStep (Session.registrations (e.session :: us)) (Session.releases (e.session :: us)) ↔
        ∀ owner ∈ e.session.stripped, e.isChanging owner = false)) ∧
    (∀ left, e.turn? = some (.panics left) → ∃ owner ∈ e.session.stripped, e.isChanging owner = true ∧
      left.registryOf? owner = e.session.registryOf? owner) ∧
    (∀ e', e.turn? = some (.goes e') →
      (∀ subscription index, e.session.enrolled? = some ⟨subscription, .handler index⟩ →
        ∃ kind name, e'.session.holding? kind name = some subscription) ∧
      (∀ kind name subscription, e.session.holding? kind name = some subscription →
        e'.session.holding? kind name = some subscription ∨ e.session.released? = some subscription ∨
          kind = .subscription ∧ e.session.agenda.head? = some (.detach name)) ∧
      (∀ subscription, e.session.released? = some subscription →
        (∃ index, e.session.IsRegistered subscription (.handler index)) ∧
        ∀ other callback, e.session.IsRegistered other callback →
          (e'.session.IsRegistered other callback ↔ other ≠ subscription ∧ callback.follows e'.session.isAlive = true)) ∧
      ∀ name subscription, e.session.agenda.head? = some (.detach name) →
        e.session.names.subscriptions.get? name = some subscription →
        ∃ index, e.session.IsRegistered subscription (.handler index) ∧
          ∀ vs e'', Run Session.OpenBetween e' vs e'' → e''.session.IsRegistered subscription (.handler index)) ∧
    ∀ name subscription, e.session.names.subscriptions.get? name = some subscription →
      e.session.NamesSubscription name subscription := by
  have hopen := h.openRun
  refine ⟨hopen.isLedger.isInStep, fun owner hchanging => h.exists_released_of_isChanging hchanging,
    fun turn hturn => h.isInStep_turn_iff hturn, fun left hturn => ?_, fun e' hturn => ?_,
    fun _ _ hname => Session.namesSubscription_of_get? hname⟩
  · obtain ⟨t, hstep, ⟨hpanics, hleft⟩ | ⟨-, hgoes⟩⟩ := turn?_eq_some_iff.1 hturn
    · obtain ⟨owner, howner, hchanging⟩ := List.any_eq_true.1 hpanics
      obtain ⟨kind, name, rest, hfirst⟩ := exists_drop_of_clashes hpanics
      obtain ⟨g, hg, -⟩ := (hopen.mem_stripped_iff hfirst hstep).1 howner
      refine ⟨owner, howner, hchanging, ?_⟩
      rw [Turn.panics.inj hleft, hg, registryOf?_abandon_of_isChanging hopen hstep hg hchanging]
    · cases hgoes
  · obtain ⟨t, hstep, -, rfl⟩ := settle_of_turn? hturn
    have hlater : Session.OpenRun .empty (e.session :: us) t := hopen.step (.own hstep)
    have hsettle : Session.OpenRun t [] (e.settle t).session := openRun_settle hlater
    obtain ⟨tasks, hfirst⟩ := exists_first_settle e t
    refine ⟨fun subscription index hnew => ?_, fun kind name subscription hheld => ?_, fun subscription hreleased => ?_,
      fun name subscription hdetach hname => ?_⟩
    · have hmade := Session.exists_holding?_of_enrolled? hopen.outletsExist hstep hnew
      rw [hfirst]
      exact hmade
    · have hkept := Session.holding?_of_step hopen.outletsExist hstep hheld
      rw [hfirst]
      exact hkept
    · have htaken := hopen.isRegistered_of_released hstep hreleased
      rw [hfirst]
      exact htaken
    · obtain ⟨index, hregistered, hstays⟩ := hopen.isRegistered_of_detach hstep hdetach hname
      refine ⟨index, hregistered, fun vs e'' hrun => ?_⟩
      have hwhole := hsettle.trans (hrun.openRun_of (hlater.trans hsettle))
      exact hstays _ _ hwhole

/-! ## A listener that owns a subscription -/

/-- Registries `f` and `g`, a listener `b` of one of them, and a listener `a` of `g` that owns the subscription `b`. -/
def ownerListens (registry : String) : OwningSession :=
  let listener (id registry : String) : Command :=
    .mk none (.addListener (Session.given id) (Session.given registry) (.mk .absent .absent .absent))
  let registries := (empty.tell 9 (.mk none (.newListeners (Session.given "f")))).tell 9
    (.mk none (.newListeners (Session.given "g")))
  ((registries.tell 9 (listener "b" registry)).tell 9 (listener "a" "g")).capture 1 ⟨.subscription, Text.ofString "b"⟩

/-- The subscription `a` was released, and what its listener owned is about to be dropped. -/
def ownerReleased (registry : String) : OwningSession :=
  (ownerListens registry).tell 2 (.mk none (.drop (.given .subscription) (Session.given "a")))

/-- The subscription of the example is dropped in a run, whichever registry it is of. -/
theorem exists_run_ownerReleased {registry : String} (hregistry : registry = "f" ∨ registry = "g") :
    ∃ us, Run Session.OpenBetween .empty us (ownerReleased registry) := by
  rcases hregistry with rfl | rfl <;>
  · refine exists_run_tell ?_ 2 _ (.told _ rfl) rfl
    refine exists_run_capture ?_ _ rfl rfl
    refine exists_run_tell ?_ 9 _ (.told _ rfl) rfl
    refine exists_run_tell ?_ 9 _ (.told _ rfl) rfl
    refine exists_run_tell ?_ 9 _ (.told _ rfl) rfl
    exact exists_run_tell ⟨[], .start⟩ 9 _ (.told _ rfl) rfl

/-- A callback may stay registered although its subscription was dropped. -/
theorem not_released_of_clash : ¬∀ us e left subscription index, Run Session.OpenBetween .empty us e →
    e.turn? = some (.panics left) → left.IsRegistered subscription (.handler index) →
    subscription ∉ Session.releases (e.session :: us) := by
  intro hall
  obtain ⟨us, hus⟩ := exists_run_ownerReleased (Or.inr rfl)
  obtain ⟨t, hstep⟩ : ∃ t, (ownerReleased "g").session.step? = some t := ⟨_, rfl⟩
  have hturn : (ownerReleased "g").turn? = some (.panics ((ownerReleased "g").abandon t)) :=
    turn?_eq_some_iff.2 ⟨t, hstep, Or.inl ⟨rfl, rfl⟩⟩
  have hregistered : ((ownerReleased "g").abandon t).IsRegistered ⟨.bare 1, 0⟩ (.handler 0) :=
    ⟨_, registryOf?_abandon_of_isChanging hus.openRun hstep rfl rfl, List.mem_cons_self ..⟩
  refine hall us _ _ ⟨.bare 1, 0⟩ 0 hus hturn hregistered ?_
  rw [Session.releases_cons]
  exact List.mem_append_right _ (Option.mem_toList.2 rfl)

/-- What a listener owned of another registry is released with it, and the registries stay in step. -/
theorem registries_in_step_ownerReleased : ∃ us turn, Run Session.OpenBetween .empty us (ownerReleased "f") ∧
    (ownerReleased "f").turn? = some turn ∧ turn.session.IsInStep (Session.registrations ((ownerReleased "f").session :: us))
      (Session.releases ((ownerReleased "f").session :: us)) := by
  obtain ⟨us, hus⟩ := exists_run_ownerReleased (Or.inl rfl)
  obtain ⟨t, hstep⟩ : ∃ t, (ownerReleased "f").session.step? = some t := ⟨_, rfl⟩
  have hturn : (ownerReleased "f").turn? = some (.goes ((ownerReleased "f").settle t)) :=
    turn?_eq_some_iff.2 ⟨t, hstep, Or.inr ⟨rfl, rfl⟩⟩
  obtain ⟨-, -, hturns, -⟩ := hus.registries_in_step
  have hfree : ∀ owner ∈ (ownerReleased "f").session.stripped, (ownerReleased "f").isChanging owner = false := by
    decide +kernel
  exact ⟨us, _, hus, hturn, (hturns _ hturn).2 hfree⟩

end OwningSession

end PathRouting
