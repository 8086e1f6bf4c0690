import PathRouting.Text.Blank

/-!
# Registries of callbacks

A registry holds callbacks under keys. Keys are given in increasing order and never twice, so that the entries stand in
the order of registration. A round of notification works on the entries there are when it starts.
-/

namespace PathRouting

/-- What a registry calls: the listener of a router, which does not hold the router, or a handler. What a handler owns stands
in `OwningSession`. -/
inductive Callback where
  | follow (router : Nat)
  | handler (index : Nat)
  deriving DecidableEq, Repr

/-- Callbacks under their keys, in the order of registration, and the key of the next one. -/
structure Registry where
  nextKey : Nat
  entries : List (Nat × Callback)
  deriving DecidableEq, Repr

namespace Registry

/-- Nothing registered. -/
def empty : Registry := ⟨0, []⟩

/-- The registry with one more callback, under the next key. -/
def add (g : Registry) (c : Callback) : Registry := ⟨g.nextKey + 1, g.entries ++ [(g.nextKey, c)]⟩

/-- The registry without the callback of a key. The callback goes while the registry is being changed; what comes of that if it
owned something is said by `OwningSession.turn?`. -/
def remove (g : Registry) (key : Nat) : Registry := ⟨g.nextKey, g.entries.filter (fun entry => entry.1 != key)⟩

/-- A callback is registered under the key. -/
def contains (g : Registry) (key : Nat) : Bool := g.entries.any (fun entry => entry.1 == key)

/-- The number of callbacks. -/
def size (g : Registry) : Nat := g.entries.length

end Registry

/-- Whose registry it is: a history's, one that stands alone, or the observers of a router. -/
inductive Owner where
  | history (index : Nat)
  | bare (index : Nat)
  | router (index : Nat)
  deriving DecidableEq, Repr

/-- A registration that can be cancelled. -/
structure Subscription where
  owner : Owner
  key : Nat
  deriving DecidableEq, Repr

/-- Names for values, each name once. -/
abbrev Directory (α : Type) : Type := List (Text × α)

namespace Directory

variable {α : Type}

/-- The value of a name. -/
def get? (d : Directory α) (name : Text) : Option α := d.lookup name

/-- The directory without a name. -/
def erase (d : Directory α) (name : Text) : Directory α := d.filter (fun entry => entry.1 != name)

/-- The directory with a name for a value, whatever the name stood for. -/
def put (d : Directory α) (name : Text) (value : α) : Directory α := (name, value) :: d.erase name

/-- Some name stands for a value with the property. -/
def holds (d : Directory α) (p : α → Bool) : Bool := d.any (fun entry => p entry.2)

/-- The first name, in the order of texts, that stands for a value with the property. -/
def firstName? (d : Directory α) (p : α → Bool) : Option Text :=
  (d.filter (fun entry => p entry.2)).foldl (fun first entry =>
    match first with
    | none => some entry.1
    | some name => if compare entry.1 name = .lt then some entry.1 else some name) none

end Directory

end PathRouting
