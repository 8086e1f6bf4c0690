import PathRouting.Unicode.Alphabetic
import PathRouting.Unicode.CaseFold
import PathRouting.Unicode.Word

/-!
# Sets of characters

A set of characters is a list of ranges of code points, in increasing order and apart from each other, so that equal
sets are equal values. The operations are those a bracket expression offers: union, complement, intersection,
differences, and closure under case.
-/

namespace PathRouting

/-- A set of characters: ranges of code points with both ends included. -/
structure CharSet where
  ranges : List (Nat × Nat)
  deriving DecidableEq, Repr

namespace CharSet

/-- The largest code point. -/
def lastCode : Nat := 0x10FFFF

/-- The set holds the code point `n`. -/
def hasCode (s : CharSet) (n : Nat) : Bool := s.ranges.any (fun r => r.1 ≤ n && n ≤ r.2)

/-- The set holds the character. -/
def contains (s : CharSet) (c : Char) : Bool := s.hasCode c.toNat

/-- Adds a range to ranges in order, joined with those it meets or touches. -/
def addRange (r : Nat × Nat) : List (Nat × Nat) → List (Nat × Nat)
  | [] => [r]
  | q :: rest =>
    if r.2 + 1 < q.1 then r :: q :: rest
    else if q.2 + 1 < r.1 then q :: addRange r rest
    else addRange (min r.1 q.1, max r.2 q.2) rest

/-- The set of the code points in any of the ranges. -/
def ofRanges (rs : List (Nat × Nat)) : CharSet := ⟨rs.foldr addRange []⟩

/-- No character. -/
def none : CharSet := ⟨[]⟩

/-- Every character. -/
def all : CharSet := ⟨[(0, lastCode)]⟩

/-- One character. -/
def single (c : Char) : CharSet := ⟨[(c.toNat, c.toNat)]⟩

/-- The characters from `a` to `b`. -/
def between (a b : Char) : CharSet := ⟨[(a.toNat, b.toNat)]⟩

/-- The characters of a list. -/
def ofList (cs : List Char) : CharSet := ofRanges (cs.map (fun c => (c.toNat, c.toNat)))

/-- The characters of either set. -/
def union (s t : CharSet) : CharSet := ofRanges (s.ranges ++ t.ranges)

/-- The code point of the next character: no character has a code from U+D800 to U+DFFF. -/
def nextCode (n : Nat) : Nat := if n = 0xD7FF then 0xE000 else n + 1

/-- The code point of the character before. -/
def prevCode (n : Nat) : Nat := if n = 0xE000 then 0xD7FF else n - 1

/-- The ranges between the ranges and after them, where `last` is the end of the range before. Two ranges that meet at
the codes without a character have the two characters on their sides between them. -/
def gapsAfter (last : Nat) : List (Nat × Nat) → List (Nat × Nat)
  | [] => if last < lastCode then [(nextCode last, lastCode)] else []
  | (a, b) :: rest => (min (nextCode last) (prevCode a), max (nextCode last) (prevCode a)) :: gapsAfter b rest

/-- The characters outside the set. -/
def complement (s : CharSet) : CharSet :=
  match s.ranges with
  | [] => all
  | (a, b) :: rest => ⟨(if 0 < a then [(0, prevCode a)] else []) ++ gapsAfter b rest⟩

/-- The part that two ranges have in common. -/
def overlap? (r q : Nat × Nat) : Option (Nat × Nat) :=
  if max r.1 q.1 ≤ min r.2 q.2 then some (max r.1 q.1, min r.2 q.2) else Option.none

/-- The parts of a range that are outside another. -/
def cut (q r : Nat × Nat) : List (Nat × Nat) :=
  match overlap? r q with
  | some (low, high) =>
    (if r.1 < low then [(r.1, prevCode low)] else []) ++ (if high < r.2 then [(nextCode high, r.2)] else [])
  | Option.none => [r]

/-- The characters of both sets. -/
def inter (s t : CharSet) : CharSet := ⟨s.ranges.flatMap (fun r => t.ranges.filterMap (overlap? r))⟩

/-- The characters of the first set that are not in the second. -/
def diff (s t : CharSet) : CharSet :=
  ⟨s.ranges.flatMap (fun r => t.ranges.foldl (fun pieces q => pieces.flatMap (cut q)) [r])⟩

/-- The characters of exactly one of the sets. -/
def symmDiff (s t : CharSet) : CharSet := (s.union t).diff (s.inter t)

/-- The set with every character that equals one of its members up to case. -/
def closeCase (s : CharSet) : CharSet :=
  ofRanges (s.ranges ++ (Unicode.caseClasses.filter (fun cls => cls.any s.hasCode)).flatten.map (fun n => (n, n)))

/-- The decimal digits. -/
def digits : CharSet := ⟨Unicode.digit⟩

/-- The word characters. -/
def word : CharSet := ⟨Unicode.word⟩

/-- The alphabetic characters. -/
def letters : CharSet := ⟨Unicode.alphabetic⟩

/-- The numbers. -/
def numbers : CharSet := ⟨Unicode.number⟩

/-- The white space characters. -/
def spaces : CharSet :=
  ⟨[(9, 13), (0x20, 0x20), (0x85, 0x85), (0xA0, 0xA0), (0x1680, 0x1680), (0x2000, 0x200A), (0x2028, 0x2029),
    (0x202F, 0x202F), (0x205F, 0x205F), (0x3000, 0x3000)]⟩

end CharSet

end PathRouting
