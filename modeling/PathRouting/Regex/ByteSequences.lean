import PathRouting.CharSet

/-!
# Sets as sequences of bytes

In UTF-8 a set of characters is a set of byte sequences. A range of code points falls into runs in which every byte has a
range of its own, whatever the other bytes are; they are listed here in increasing order.
-/

namespace PathRouting

/-- A run of byte sequences of one length: a range for each byte. -/
abbrev ByteRun : Type := List (Nat × Nat)

namespace ByteRun

/-- The runs of the numbers from `low` to `high`, written with one digit and `more` further digits of six bits. -/
def ofDigits : (more low high : Nat) → List ByteRun
  | 0, low, high => [[(low, high)]]
  | more + 1, low, high =>
    let block := Nat.pow 64 (more + 1)
    let (first, last) := (low / block, high / block)
    if first = last then (ofDigits more (low % block) (high % block)).map ((first, first) :: ·)
    else
      let head := if low % block = 0 then [] else (ofDigits more (low % block) (block - 1)).map ((first, first) :: ·)
      let tail := if high % block = block - 1 then [] else (ofDigits more 0 (high % block)).map ((last, last) :: ·)
      let start := if low % block = 0 then first else first + 1
      let stop := if high % block = block - 1 then last else last - 1
      let middle := if start ≤ stop then [(start, stop) :: List.replicate (more + 1) (0, 63)] else []
      head ++ middle ++ tail

/-- The code points whose sequences have one length. -/
structure Block where
  low : Nat
  high : Nat
  /-- The number of bytes after the first. -/
  more : Nat
  /-- What the first byte holds beside its digit. -/
  mark : Nat

/-- The blocks of code points, without those that belong to no character. -/
def blocks : List Block :=
  [⟨0, 0x7F, 0, 0⟩, ⟨0x80, 0x7FF, 1, 0xC0⟩, ⟨0x800, 0xD7FF, 2, 0xE0⟩, ⟨0xE000, 0xFFFF, 2, 0xE0⟩,
    ⟨0x10000, 0x10FFFF, 3, 0xF0⟩]

/-- The digits as bytes: the first with its mark, and the others with that of bytes inside a sequence. -/
def withMarks (mark : Nat) : ByteRun → ByteRun
  | [] => []
  | r :: rest => (r.1 + mark, r.2 + mark) :: rest.map (fun r => (r.1 + 0x80, r.2 + 0x80))

/-- The runs of a range of code points. -/
def ofRange (r : Nat × Nat) : List ByteRun :=
  blocks.flatMap (fun b =>
    let (low, high) := (max r.1 b.low, min r.2 b.high)
    if low ≤ high then (ofDigits b.more low high).map (withMarks b.mark) else [])

end ByteRun

/-- The runs of a set. -/
def CharSet.byteRuns (s : CharSet) : List ByteRun := s.ranges.flatMap ByteRun.ofRange

end PathRouting
