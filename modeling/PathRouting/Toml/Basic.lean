import PathRouting.Text.Blank

/-!
# TOML values

What a TOML document holds. Of numbers and of dates and times only the kind is kept, since nothing here is configured
by one.
-/

namespace PathRouting

/-- A value of a TOML document. -/
inductive Toml where
  | text (t : Text)
  | bool (b : Bool)
  | number
  | moment
  | list (items : List Toml)
  | table (entries : List (Text × Toml))
  deriving Repr, Inhabited

namespace Toml

/-- The text of a value that is one. -/
def text? : Toml → Option Text
  | .text t => some t
  | _ => none

/-- The truth value of a value that is one. -/
def bool? : Toml → Option Bool
  | .bool b => some b
  | _ => none

/-- The values of a record's fields, in the order of their names. A record is written as a table, by name, or as a list,
by position; a moment stands for a record without any of them, and no other value is a record. -/
def record? (names : List Text) : Toml → Option (List (Option Toml))
  | .table entries => some (names.map (fun name => entries.lookup name))
  | .list items => some ((List.range names.length).map (fun i => items[i]?))
  | .moment => some (names.map (fun _ => none))
  | _ => none

end Toml

end PathRouting
