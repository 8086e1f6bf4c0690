import PathRouting.Text.Blank

/-!
# Trails

The entries of a history and a cursor on the current one. A new entry takes the place of all entries after the cursor;
steps back and forward move the cursor only.
-/

namespace PathRouting

/-- The entries of a history, oldest first, and the place of the current one. -/
structure Trail where
  entries : List Text
  cursor : Nat
  deriving DecidableEq, Repr

namespace Trail

/-- A trail of one entry. -/
def start (path : Text) : Trail := ⟨[path], 0⟩

/-- The current entry. -/
def current? (t : Trail) : Option Text := t.entries[t.cursor]?

/-- The current entry, where there is one. -/
def current (t : Trail) : Text := t.current?.getD []

/-- The trail with a new entry after the current one. -/
def push (t : Trail) (path : Text) : Trail := ⟨t.entries.take (t.cursor + 1) ++ [path], t.cursor + 1⟩

/-- The trail one entry back, unless the current entry is the first. -/
def back? (t : Trail) : Option Trail :=
  match t.cursor with
  | 0 => none
  | n + 1 => if n < t.entries.length then some ⟨t.entries, n⟩ else none

/-- The trail one entry forward, unless the current entry is the last. -/
def forward? (t : Trail) : Option Trail :=
  if t.cursor + 1 < t.entries.length then some ⟨t.entries, t.cursor + 1⟩ else none

end Trail

end PathRouting
