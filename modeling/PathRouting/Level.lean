import PathRouting.Text.Blank

/-!
# Log levels

The five levels of a log event and the way a configured name picks one: a name in any ASCII case, or a number from 1 for
errors to 5 for traces.
-/

namespace PathRouting

/-- How much a log event matters. -/
inductive Level where
  | trace
  | debug
  | info
  | warn
  | error
  deriving DecidableEq, Repr

namespace Level

/-- The name of a level. -/
def name : Level → String
  | .trace => "TRACE"
  | .debug => "DEBUG"
  | .info => "INFO"
  | .warn => "WARN"
  | .error => "ERROR"

/-- The level of a number. -/
def ofNumber? : Nat → Option Level
  | 1 => some .error
  | 2 => some .warn
  | 3 => some .info
  | 4 => some .debug
  | 5 => some .trace
  | _ => none

/-- A number without sign: decimal digits, at least one, after an optional `+`. -/
def number? (t : Text) : Option Nat :=
  let digits := match t with
    | '+' :: rest => rest
    | _ => t
  if !digits.isEmpty && digits.all Char.isDigit then
    some (digits.foldl (fun n c => n * 10 + (c.toNat - '0'.toNat)) 0)
  else none

/-- The level of that name in any ASCII case. -/
def ofName? (t : Text) : Option Level :=
  [Level.trace, .debug, .info, .warn, .error].find? (fun level => t.map Char.toUpper == Text.ofString level.name)

/-- The level a configured name picks, white space at its ends left out. -/
def parse? (t : Text) : Option Level :=
  let t := Text.trim t
  match number? t with
  | some n => ofNumber? n
  | none => ofName? t

end Level

end PathRouting
