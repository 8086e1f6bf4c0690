import PathRouting.Text.Blank
import PathRouting.Unicode.Invisible

/-!
# Quoted text

A text between double quotes, as names and values are shown in messages and descriptions. A quote, a backslash and the
usual control characters are written with a backslash, and an invisible character by its code point.
-/

namespace PathRouting.Text

/-- The character is shown by its code point. -/
def isInvisible (c : Char) : Bool := Unicode.invisible.any (fun r => r.1 ≤ c.toNat && c.toNat ≤ r.2)

/-- A code point in lower-case hexadecimal digits. -/
def hexDigits (n : Nat) : Text := Nat.toDigits 16 n

/-- A character as it stands between quotes. -/
def quotedChar (c : Char) : Text :=
  match c with
  | '"' => ['\\', '"']
  | '\\' => ['\\', '\\']
  | '\n' => ['\\', 'n']
  | '\r' => ['\\', 'r']
  | '\t' => ['\\', 't']
  | '\x00' => ['\\', '0']
  | c => if isInvisible c then ['\\', 'u', '\x7b'] ++ hexDigits c.toNat ++ ['\x7d'] else [c]

/-- A text between quotes. -/
def quoted (t : Text) : Text := '"' :: (t.flatMap quotedChar ++ ['"'])

end PathRouting.Text
