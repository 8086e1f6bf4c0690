import PathRouting.Text.Blank

/-!
# Paths: canonical form, normalisation and segments

A path is a text whose segments stand between separators `/`. A canonical path starts with a separator, repeats none,
ends in none unless it is the root, and carries no white space at its ends. `normalize` brings every text to a canonical
path: it trims, drops the empty pieces, and then trims separators and white space from the end once more, because
dropping a trailing separator can expose white space.
-/

namespace PathRouting.Path

open Text (splitAt joinWith trim trimEndBy)

/-- The character between segments. -/
def separator : Char := '/'

/-- The path with no segments. -/
def root : Text := [separator]

/-- Two separators stand side by side. -/
def hasDoubleSeparator : Text → Bool
  | [] => false
  | [_] => false
  | c :: d :: rest => (c == separator && d == separator) || hasDoubleSeparator (d :: rest)

/-- A path is canonical if it starts with a separator, has no white space at its ends, repeats no separator, and ends in
one only as the root. -/
def isCanonical (path : Text) : Bool :=
  path.head? == some separator && trim path == path && !hasDoubleSeparator path
    && (path == root || path.getLast? != some separator)

/-- The non-empty pieces between separators. -/
def segments (path : Text) : List Text := (splitAt separator path).filter (fun piece => !piece.isEmpty)

/-- The segments of the trimmed text joined again, without separators and white space at the end. -/
def stripped (path : Text) : Text :=
  trimEndBy (fun c => c == separator || isBlank c) (joinWith separator (segments (trim path)))

/-- The canonical form of a path: the path itself when it is canonical, else a separator before its stripped segments. -/
def normalize (path : Text) : Text :=
  if isCanonical path then path else separator :: stripped path

/-- The canonical form needs no new text: the path is canonical already, or nothing is left of it but the root. -/
def isReused (path : Text) : Bool := isCanonical path || (stripped path).isEmpty

end PathRouting.Path
