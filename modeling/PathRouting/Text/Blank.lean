/-!
# Text and its white space

A text is a list of characters. White space is the Unicode property White_Space, 25 characters, and not the ASCII class
of `Char.isWhitespace`. The property decides what is trimmed from a path, a pattern segment or a level name.
-/

namespace PathRouting

/-- A text: its characters, first to last. -/
abbrev Text : Type := List Char

/-- The text of a string. -/
def Text.ofString (s : String) : Text := s.toList

/-- A text as a string. -/
def Text.toString (t : Text) : String := String.ofList t

/-- The characters with the Unicode property White_Space. -/
def isBlank (c : Char) : Bool :=
  let n := c.toNat
  (9 ≤ n && n ≤ 13) || n == 0x20 || n == 0x85 || n == 0xA0 || n == 0x1680 || (0x2000 ≤ n && n ≤ 0x200A)
    || n == 0x2028 || n == 0x2029 || n == 0x202F || n == 0x205F || n == 0x3000

namespace Text

/-- The text without the longest prefix of characters that satisfy `p`. -/
def trimStartBy (p : Char → Bool) (t : Text) : Text := t.dropWhile p

/-- The text without the longest suffix of characters that satisfy `p`. -/
def trimEndBy (p : Char → Bool) (t : Text) : Text := (t.reverse.dropWhile p).reverse

/-- The text without the white space at its two ends. -/
def trim (t : Text) : Text := trimEndBy isBlank (trimStartBy isBlank t)

/-- The pieces between the occurrences of a separator, empty pieces included; one piece when there is no occurrence. -/
def splitAt (sep : Char) (t : Text) : List Text :=
  t.foldr (fun c pieces =>
    if c = sep then [] :: pieces
    else match pieces with
      | [] => [[c]]
      | piece :: rest => (c :: piece) :: rest) [[]]

/-- The texts in order with a separator between each and the next. -/
def joinWith (sep : Char) : List Text → Text
  | [] => []
  | t :: ts => t ++ ts.flatMap (sep :: ·)

end Text

end PathRouting
