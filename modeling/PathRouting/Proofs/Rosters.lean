import Mathlib.Data.List.Nodup
import PathRouting.Proofs.Places

/-!
# Rosters

The registry of a history lists the routers on it that live, which follow it, and the handlers that were registered with it
and whose registration was not cancelled. Statements: registering, cancelling, making a router and ending routers keep
that; and nobody is listed twice, so that the entries can be counted.
-/

namespace PathRouting

/-- The router that a callback follows a history for. -/
def Callback.follower? : Callback → Option Nat
  | .follow r => some r
  | .handler _ => none

/-- The key of an entry, if a handler is registered with it. -/
def handlerKey? (entry : Nat × Callback) : Option Nat :=
  match entry.2 with
  | .follow _ => none
  | .handler _ => some entry.1

/-- Where a router is: its history, and whether it lives. -/
def Router.post (g : Router) : Nat × Bool := (g.history, g.alive)

namespace Registry

/-- The routers that follow, in the order of registration. -/
def followers (g : Registry) : List Nat := g.entries.filterMap (·.2.follower?)

/-- The keys that handlers are registered with, in the order of registration. -/
def handlerKeys (g : Registry) : List Nat := g.entries.filterMap handlerKey?

/-- After some registrations and cancellations, the registry of a history has the routers that are posted there and live,
and the handlers whose registration was not cancelled. -/
structure Lists (g : Registry) (h : Nat) (made cancelled : List Subscription) (posts : List (Nat × Bool)) : Prop where
  keys : (g.entries.map (·.1)).Nodup
  below : ∀ entry ∈ g.entries, entry.1 < g.nextKey
  once : g.followers.Nodup
  followers : ∀ r, r ∈ g.followers ↔ posts[r]? = some (h, true)
  handlers : ∀ key, key ∈ g.handlerKeys ↔ ⟨.history h, key⟩ ∈ made ∧ ⟨.history h, key⟩ ∉ cancelled
  apart : ∀ entry ∈ g.entries, ⟨.history h, entry.1⟩ ∈ made → handlerKey? entry = some entry.1
  issued : ∀ subscription ∈ made ++ cancelled, subscription.owner = .history h → subscription.key < g.nextKey
  fresh : ((made.filter (fun subscription => subscription.owner = .history h)).map Subscription.key).Nodup

variable {g : Registry} {h : Nat} {made cancelled : List Subscription} {posts : List (Nat × Bool)}

/-- A router that begins to listen comes last among the followers. -/
theorem followers_add (g : Registry) (callback : Callback) :
    (g.add callback).followers = g.followers ++ callback.follower?.toList := by
  rw [followers, add, List.filterMap_append]
  cases callback <;> rfl

/-- A handler that is added has the next key. -/
theorem handlerKeys_add (g : Registry) (callback : Callback) :
    (g.add callback).handlerKeys = g.handlerKeys ++ (handlerKey? (g.nextKey, callback)).toList := by
  rw [handlerKeys, add, List.filterMap_append]
  cases callback <;> rfl

/-- The keys of handlers are those under which one is registered. -/
theorem mem_handlerKeys {key : Nat} : key ∈ g.handlerKeys ↔ ∃ index, (key, .handler index) ∈ g.entries := by
  simp only [handlerKeys, List.mem_filterMap, Prod.exists]
  constructor
  · rintro ⟨key', callback, hm, hkey⟩
    cases callback with
    | follow r => cases hkey
    | handler index =>
      obtain rfl := Option.some.inj hkey
      exact ⟨index, hm⟩
  · rintro ⟨index, hm⟩
    exact ⟨key, .handler index, hm, rfl⟩

/-- The followers are the routers that are registered. -/
theorem mem_followers {r : Nat} : r ∈ g.followers ↔ ∃ key, (key, .follow r) ∈ g.entries := by
  simp only [followers, List.mem_filterMap, Prod.exists]
  constructor
  · rintro ⟨key, callback, hm, hr⟩
    cases callback with
    | follow r' =>
      obtain rfl := Option.some.inj hr
      exact ⟨key, hm⟩
    | handler index => cases hr
  · rintro ⟨key, hm⟩
    exact ⟨key, .follow r, hm, rfl⟩

/-- A new entry has a key of its own. -/
theorem keys_add (hkeys : (g.entries.map (·.1)).Nodup) (hbelow : ∀ entry ∈ g.entries, entry.1 < g.nextKey)
    (callback : Callback) : ((g.add callback).entries.map (·.1)).Nodup ∧
      ∀ entry ∈ (g.add callback).entries, entry.1 < (g.add callback).nextKey := by
  constructor
  · rw [add, List.map_append, List.nodup_append]
    refine ⟨hkeys, List.nodup_singleton _, ?_⟩
    rintro key hkey _ hlast rfl
    obtain ⟨entry, hm, rfl⟩ := List.mem_map.1 hkey
    exact absurd (hbelow entry hm) (by rw [List.mem_singleton.1 hlast]; exact Nat.lt_irrefl _)
  · intro entry hm
    rcases List.mem_append.1 hm with hm | hm
    · exact Nat.lt_succ_of_lt (hbelow entry hm)
    · rw [List.mem_singleton.1 hm]
      exact Nat.lt_succ_self _

/-- The roster of a new history lists nothing. -/
theorem lists_empty (hposts : ∀ post ∈ posts, post.1 ≠ h)
    (howners : ∀ subscription ∈ made ++ cancelled, subscription.owner ≠ .history h) :
    Registry.empty.Lists h made cancelled posts where
  keys := List.nodup_nil
  below := fun _ hm => absurd hm List.not_mem_nil
  once := List.nodup_nil
  followers := fun _ => ⟨fun hm => absurd hm List.not_mem_nil, fun hr => absurd rfl (hposts _ (List.mem_of_getElem? hr))⟩
  handlers := fun _ => ⟨fun hm => absurd hm List.not_mem_nil,
    fun hm => absurd rfl (howners _ (List.mem_append_left _ hm.1))⟩
  apart := fun _ hm => absurd hm List.not_mem_nil
  issued := fun _ hm howner => absurd howner (howners _ hm)
  fresh := by
    have hnone : made.filter (fun subscription => subscription.owner = .history h) = [] := by
      rw [List.filter_eq_nil_iff]
      exact fun subscription hm howner =>
        howners subscription (List.mem_append_left _ hm) (of_decide_eq_true howner)
    rw [hnone]
    exact List.nodup_nil

/-- A new router listens. -/
theorem Lists.follow (hg : g.Lists h made cancelled posts) :
    (g.add (.follow posts.length)).Lists h made cancelled (posts ++ [(h, true)]) where
  keys := (keys_add hg.keys hg.below _).1
  below := (keys_add hg.keys hg.below _).2
  once := by
    rw [followers_add]
    refine List.nodup_append.2 ⟨hg.once, List.nodup_singleton _, ?_⟩
    rintro r hr _ hlast rfl
    rw [List.mem_singleton.1 hlast, hg.followers, List.getElem?_eq_none (Nat.le_refl _)] at hr
    cases hr
  followers := by
    intro r
    rw [followers_add, List.mem_append, hg.followers]
    change _ ∨ r ∈ [posts.length] ↔ _
    rw [List.mem_singleton]
    rcases Nat.lt_trichotomy r posts.length with hlt | rfl | hgt
    · rw [List.getElem?_append_left hlt]
      exact ⟨fun hr => hr.resolve_right (Nat.ne_of_lt hlt), Or.inl⟩
    · rw [List.getElem?_append_right (Nat.le_refl _), Nat.sub_self]
      exact ⟨fun _ => rfl, fun _ => Or.inr rfl⟩
    · rw [List.getElem?_eq_none (Nat.le_of_lt hgt), List.getElem?_eq_none (by simp; omega)]
      constructor
      · exact fun hr => absurd (hr.resolve_left (by simp)) (Nat.ne_of_gt hgt)
      · rintro ⟨⟩
  handlers := by
    intro key
    rw [handlerKeys_add, ← hg.handlers]
    exact List.append_nil _ ▸ Iff.rfl
  apart := by
    intro entry hm hmade
    rcases List.mem_append.1 hm with hm | hm
    · exact hg.apart entry hm hmade
    · rw [List.mem_singleton.1 hm] at hmade
      exact absurd (hg.issued _ (List.mem_append_left _ hmade) rfl) (Nat.lt_irrefl _)
  issued := fun subscription hm howner => Nat.lt_succ_of_lt (hg.issued subscription hm howner)
  fresh := hg.fresh

/-- A router of another history does not listen. -/
theorem Lists.post (hg : g.Lists h made cancelled posts) {post : Nat × Bool} (hpost : post.1 ≠ h) :
    g.Lists h made cancelled (posts ++ [post]) where
  keys := hg.keys
  below := hg.below
  once := hg.once
  followers := by
    intro r
    rw [hg.followers]
    refine ⟨fun hr => by rw [List.getElem?_append_left (List.getElem?_eq_some_iff.1 hr).1, hr], fun hr => ?_⟩
    rcases getElem?_append_singleton_cases hr with hr | ⟨_, hr⟩
    · exact hr
    · exact absurd (congrArg Prod.fst hr).symm hpost
  handlers := hg.handlers
  apart := hg.apart
  issued := hg.issued
  fresh := hg.fresh

/-- A handler is registered. -/
theorem Lists.enrol (hg : g.Lists h made cancelled posts) (index : Nat) :
    (g.add (.handler index)).Lists h (⟨.history h, g.nextKey⟩ :: made) cancelled posts where
  keys := (keys_add hg.keys hg.below _).1
  below := (keys_add hg.keys hg.below _).2
  once := by
    rw [followers_add]
    exact (List.append_nil _).symm ▸ hg.once
  followers := by
    intro r
    rw [followers_add, ← hg.followers]
    exact List.append_nil _ ▸ Iff.rfl
  handlers := by
    intro key
    rw [handlerKeys_add, List.mem_append, hg.handlers]
    change _ ∨ key ∈ [g.nextKey] ↔ _
    rw [List.mem_singleton, List.mem_cons, Subscription.mk.injEq]
    constructor
    · rintro (⟨hmade, hleft⟩ | rfl)
      · exact ⟨Or.inr hmade, hleft⟩
      · refine ⟨Or.inl ⟨rfl, rfl⟩, fun hm => ?_⟩
        exact absurd (hg.issued _ (List.mem_append_right _ hm) rfl) (Nat.lt_irrefl _)
    · rintro ⟨⟨-, rfl⟩ | hmade, hleft⟩
      · exact Or.inr rfl
      · exact Or.inl ⟨hmade, hleft⟩
  apart := by
    intro entry hm hmade
    rcases List.mem_append.1 hm with hm | hm
    · rcases List.mem_cons.1 hmade with hnew | hmade
      · exact absurd (hg.below entry hm) (by rw [(Subscription.mk.inj hnew).2]; exact Nat.lt_irrefl _)
      · exact hg.apart entry hm hmade
    · rw [List.mem_singleton.1 hm]
      rfl
  issued := by
    intro subscription hm howner
    rcases List.mem_cons.1 hm with rfl | hm
    · exact Nat.lt_succ_self _
    · exact Nat.lt_succ_of_lt (hg.issued subscription hm howner)
  fresh := by
    rw [List.filter_cons_of_pos (by simp), List.map_cons, List.nodup_cons]
    refine ⟨fun hkey => ?_, hg.fresh⟩
    obtain ⟨subscription, hm, hkey⟩ := List.mem_map.1 hkey
    obtain ⟨hm, howner⟩ := List.mem_filter.1 hm
    exact absurd (hg.issued _ (List.mem_append_left _ hm) (of_decide_eq_true howner)) (hkey ▸ Nat.lt_irrefl _)

/-- A registration with another owner is none here. -/
theorem Lists.made_cons (hg : g.Lists h made cancelled posts) {subscription : Subscription}
    (howner : subscription.owner ≠ .history h) : g.Lists h (subscription :: made) cancelled posts := by
  have hmade : ∀ key, ⟨.history h, key⟩ ∈ subscription :: made ↔ ⟨.history h, key⟩ ∈ made := by
    intro key
    rw [List.mem_cons]
    exact or_iff_right (fun heq => howner (congrArg Subscription.owner heq).symm)
  refine ⟨hg.keys, hg.below, hg.once, hg.followers, ?_, ?_, ?_, ?_⟩
  · exact fun key => by rw [hmade, hg.handlers]
  · exact fun entry hm hm' => hg.apart entry hm ((hmade _).1 hm')
  · intro other hm howner'
    rcases List.mem_cons.1 hm with rfl | hm
    · exact absurd howner' howner
    · exact hg.issued other hm howner'
  · rw [List.filter_cons_of_neg (by simpa using howner)]
    exact hg.fresh

/-- A registration is cancelled. -/
theorem Lists.remove (hg : g.Lists h made cancelled posts) {key : Nat} (hmade : ⟨.history h, key⟩ ∈ made) :
    (g.remove key).Lists h made (⟨.history h, key⟩ :: cancelled) posts := by
  have hsub : (g.remove key).entries.Sublist g.entries := List.filter_sublist
  have hfollowers : (g.remove key).followers = g.followers := by
    have hkept : ∀ entry ∈ g.entries, entry.2.follower? ≠ none → (entry.1 != key) = true := by
      rintro ⟨key', callback⟩ hm hfollows
      rw [bne_iff_ne]
      rintro rfl
      have hhandler := hg.apart _ hm hmade
      cases callback with
      | follow r => cases hhandler
      | handler index => exact hfollows rfl
    rw [Registry.followers, Registry.followers, Registry.remove, List.filterMap_filter]
    apply List.filterMap_congr
    intro entry hm
    by_cases hfollows : entry.2.follower? = none
    · rw [hfollows]
      split <;> rfl
    · rw [if_pos (hkept entry hm hfollows)]
  refine ⟨hg.keys.sublist (hsub.map _), fun entry hm => hg.below entry (hsub.subset hm), hfollowers ▸ hg.once,
    hfollowers ▸ hg.followers, ?_, fun entry hm => hg.apart entry (hsub.subset hm), ?_, hg.fresh⟩
  · intro key'
    rw [mem_handlerKeys, List.mem_cons, not_or, Subscription.mk.injEq]
    simp only [Registry.remove, List.mem_filter, bne_iff_ne]
    rw [exists_and_right, ← mem_handlerKeys, hg.handlers]
    simp only [true_and]
    constructor
    · rintro ⟨⟨hmade, hleft⟩, hne⟩
      exact ⟨hmade, hne, hleft⟩
    · rintro ⟨hmade, hne, hleft⟩
      exact ⟨⟨hmade, hleft⟩, hne⟩
  · intro subscription hm howner
    rcases List.mem_append.1 hm with hm | hm
    · exact hg.issued subscription (List.mem_append_left _ hm) howner
    · rcases List.mem_cons.1 hm with rfl | hm
      · exact hg.issued _ (List.mem_append_left _ hmade) howner
      · exact hg.issued subscription (List.mem_append_right _ hm) howner

/-- A cancellation with another owner is none here. -/
theorem Lists.cancelled_cons (hg : g.Lists h made cancelled posts) {subscription : Subscription}
    (howner : subscription.owner ≠ .history h) : g.Lists h made (subscription :: cancelled) posts := by
  have hcancelled : ∀ key, ⟨.history h, key⟩ ∈ subscription :: cancelled ↔ ⟨.history h, key⟩ ∈ cancelled := by
    intro key
    rw [List.mem_cons]
    exact or_iff_right (fun heq => howner (congrArg Subscription.owner heq).symm)
  refine ⟨hg.keys, hg.below, hg.once, hg.followers, ?_, hg.apart, ?_, hg.fresh⟩
  · exact fun key => by rw [hcancelled, hg.handlers]
  · intro other hm howner'
    rcases List.mem_append.1 hm with hm | hm
    · exact hg.issued other (List.mem_append_left _ hm) howner'
    · rcases List.mem_cons.1 hm with rfl | hm
      · exact absurd howner' howner
      · exact hg.issued other (List.mem_append_right _ hm) howner'

/-- Routers that end do not listen any more. -/
theorem Lists.prune (hg : g.Lists h made cancelled posts) {posts' : List (Nat × Bool)} {lives : Nat → Bool}
    (hposts : ∀ r, posts'[r]? = some (h, true) ↔ posts[r]? = some (h, true) ∧ lives r = true) :
    (g.prune lives).Lists h made cancelled posts' := by
  have hsub : (g.prune lives).entries.Sublist g.entries := List.filter_sublist
  refine ⟨hg.keys.sublist (hsub.map _), fun entry hm => hg.below entry (hsub.subset hm),
    hg.once.sublist (hsub.filterMap _), ?_, ?_, fun entry hm => hg.apart entry (hsub.subset hm), hg.issued, hg.fresh⟩
  · intro r
    rw [mem_followers, hposts, ← hg.followers, mem_followers]
    simp only [Registry.prune, List.mem_filter, Callback.follows, exists_and_right]
  · intro key
    rw [← hg.handlers, mem_handlerKeys, mem_handlerKeys]
    simp only [Registry.prune, List.mem_filter, Callback.follows, and_true]

/-! ## Counting -/

/-- The entries are followers and handlers. -/
theorem size_eq (g : Registry) : g.size = g.followers.length + g.handlerKeys.length := by
  rw [size, followers, handlerKeys]
  induction g.entries with
  | nil => rfl
  | cons entry entries ih =>
    obtain ⟨key, callback⟩ := entry
    cases callback with
    | follow r =>
      change entries.length + 1 = (entries.filterMap _).length + 1 + (entries.filterMap _).length
      omega
    | handler index =>
      change entries.length + 1 = (entries.filterMap _).length + ((entries.filterMap _).length + 1)
      omega

/-- The keys of handlers are among those of all entries. -/
theorem handlerKeys_sublist (g : Registry) : g.handlerKeys.Sublist (g.entries.map (·.1)) := by
  rw [handlerKeys]
  induction g.entries with
  | nil => exact List.Sublist.refl _
  | cons entry entries ih =>
    obtain ⟨key, callback⟩ := entry
    cases callback with
    | follow r => exact ih.cons key
    | handler index => exact ih.cons_cons key

/-- Two lists without repetition that have the same members are of one length. -/
theorem length_eq_of_nodup {l l' : List Nat} (hl : l.Nodup) (hl' : l'.Nodup) (h : ∀ a, a ∈ l ↔ a ∈ l') :
    l.length = l'.length := ((List.perm_ext_iff_of_nodup hl hl').2 h).length_eq

/-- The followers are the living routers of the history, each of them once. -/
theorem Lists.length_followers (hg : g.Lists h made cancelled posts) :
    g.followers.length = posts.countP (fun post => post = (h, true)) := by
  let places := (posts.zipIdx.filter (fun post => post.1 = (h, true))).map Prod.snd
  have hnodup : places.Nodup := by
    refine List.Nodup.sublist (List.filter_sublist.map _) ?_
    rw [List.zipIdx_map_snd]
    exact List.nodup_range'
  have hsame : ∀ r, r ∈ g.followers ↔ r ∈ places := by
    intro r
    rw [hg.followers]
    constructor
    · intro hr
      exact List.mem_map.2 ⟨((h, true), r), List.mem_filter.2 ⟨List.mk_mem_zipIdx_iff_getElem?.2 hr, decide_eq_true rfl⟩,
        rfl⟩
    · intro hr
      obtain ⟨⟨post, i⟩, hm, rfl⟩ := List.mem_map.1 hr
      obtain ⟨hget, hpost⟩ := List.mem_filter.1 hm
      exact (List.mk_mem_zipIdx_iff_getElem?.1 hget).trans (congrArg some (of_decide_eq_true hpost))
  rw [length_eq_of_nodup hg.once hnodup hsame, List.length_map, ← List.countP_eq_length_filter]
  conv_rhs => rw [← List.zipIdx_map_fst 0 posts, List.countP_map]
  rfl

/-- The handlers are those whose registrations were not cancelled, each of them once. -/
theorem Lists.length_handlerKeys (hg : g.Lists h made cancelled posts) : g.handlerKeys.length =
    made.countP (fun subscription => subscription.owner = .history h ∧ subscription ∉ cancelled) := by
  let kept := made.filter (fun subscription => subscription.owner = .history h ∧ subscription ∉ cancelled)
  have hnodup : (kept.map Subscription.key).Nodup := by
    refine hg.fresh.sublist (List.Sublist.map _ (List.monotone_filter_right made (fun subscription hkept => ?_)))
    exact decide_eq_true (of_decide_eq_true hkept).1
  have hsame : ∀ key, key ∈ g.handlerKeys ↔ key ∈ kept.map Subscription.key := by
    intro key
    rw [hg.handlers]
    constructor
    · rintro ⟨hmade, hleft⟩
      exact List.mem_map.2 ⟨⟨.history h, key⟩, List.mem_filter.2 ⟨hmade, decide_eq_true ⟨rfl, hleft⟩⟩, rfl⟩
    · intro hkey
      obtain ⟨⟨owner, key⟩, hm, rfl⟩ := List.mem_map.1 hkey
      obtain ⟨hmade, hkept⟩ := List.mem_filter.1 hm
      obtain ⟨rfl, hleft⟩ := of_decide_eq_true hkept
      exact ⟨hmade, hleft⟩
  rw [length_eq_of_nodup (hg.keys.sublist g.handlerKeys_sublist) hnodup hsame, List.length_map, ← List.countP_eq_length_filter]

/-- A history has as many listeners as routers that live on it and registrations that were not cancelled. -/
theorem Lists.size_eq (hg : g.Lists h made cancelled posts) : g.size = posts.countP (fun post => post = (h, true)) +
    made.countP (fun subscription => subscription.owner = .history h ∧ subscription ∉ cancelled) := by
  rw [Registry.size_eq, hg.length_followers, hg.length_handlerKeys]

end Registry

end PathRouting
