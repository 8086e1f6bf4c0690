import Std.Data.TreeMap.Basic
import PathRouting.Regex.ByteSequences
import PathRouting.Text.Blank

/-!
# The memory of an automaton

An expression is matched by an automaton over bytes. Its footprint is what it takes of memory: a number of states of one
size, and the links of those states that have several. States are numbered as they are made.

For a set of characters the states come from its byte sequences. A state that is needed again is shared if it is still
remembered. There is a fixed number of places for that; which of them a state has is computed from what it links to, and
it drives out the state that was there before.
-/

namespace PathRouting

/-- The memory an automaton takes so far: its states, and the bytes of their links. -/
structure Footprint where
  states : Nat
  links : Nat
  deriving DecidableEq, Repr

namespace Footprint

/-- The bytes of a state. -/
def stateBytes : Nat := 32

/-- The bytes of a link to a state. -/
def linkBytes : Nat := 4

/-- The bytes of a link to a state for a range of bytes. -/
def rangeLinkBytes : Nat := 8

/-- The most memory an automaton may take: ten mebibytes. -/
def limit : Nat := 10 * 1024 * 1024

/-- The bytes of memory. -/
def bytes (f : Footprint) : Nat := f.states * stateBytes + f.links

/-- The automaton takes too much memory. -/
def isOver (f : Footprint) : Bool := limit < f.bytes

/-- With more states that have one link or none. -/
def addStates (f : Footprint) (count : Nat) : Footprint := { f with states := f.states + count }

/-- With more links out of the states there are. -/
def addLinks (f : Footprint) (count : Nat) : Footprint := { f with links := f.links + count * linkBytes }

/-- With a state that chooses by ranges of bytes. -/
def addChoice (f : Footprint) (ranges : Nat) : Footprint :=
  { states := f.states + 1, links := f.links + ranges * rangeLinkBytes }

end Footprint

/-- What an automaton takes after more was built. -/
abbrev Growth : Type := Footprint → Footprint

/-- So many times the same growth, as long as there is memory. -/
def Growth.times (g : Growth) : Nat → Growth
  | 0, f => f
  | count + 1, f => if f.isOver then f else times g count (g f)

/-- The states remembered, by the place that each has: what it links to, and its number. -/
abbrev Remembered : Type := Std.TreeMap Nat (List Nat × Nat)

namespace Remembered

/-- The place of a description among so many: its numbers are mixed one by one, in 64 bits. -/
def place (places : Nat) (description : List Nat) : Nat :=
  (description.foldl (fun (h : UInt64) n => (h ^^^ n.toUInt64) * 1099511628211) 14695981039346656037).toNat % places

/-- The number of the state with a description, if it is remembered at its place. -/
def find? (m : Remembered) (place : Nat) (description : List Nat) : Option Nat :=
  match m.get? place with
  | some (known, number) => if known = description then some number else none
  | none => none

end Remembered

/-- An automaton for a set under construction. -/
structure SetBuild where
  footprint : Footprint
  remembered : Remembered

/-- The state with a description: the one that is remembered, or a new one, which `add` makes. -/
def SetBuild.state (places : Nat) (description : List Nat) (add : Growth) (b : SetBuild) : Nat × SetBuild :=
  let place := Remembered.place places description
  match Remembered.find? b.remembered place description with
  | some number => (number, b)
  | none =>
    let number := b.footprint.states
    (number, ⟨add b.footprint, b.remembered.insert place (description, number)⟩)

namespace ByteRun

/-- The runs that begin with one range of bytes after the other, each with what follows it. -/
def groups : List ByteRun → List ((Nat × Nat) × List ByteRun)
  | [] => []
  | [] :: rest => groups rest
  | (r :: more) :: rest =>
    match groups rest with
    | (q, follow) :: others => if r = q then (r, more :: follow) :: others else (r, [more]) :: (q, follow) :: others
    | [] => [(r, [more])]

/-- The places for states that read forward. -/
def forwardPlaces : Nat := 10000

/-- The places for states that read backward. -/
def backwardPlaces : Nat := 1000

/-- The state that reads runs of at most `depth` bytes up to the state `target`. It is made after the states that it
links to, and described by each range and the state behind it. -/
def forward (target : Nat) : (depth : Nat) → List ByteRun → SetBuild → Nat × SetBuild
  | 0, _, b => (target, b)
  | depth + 1, runs, b =>
    match groups runs with
    | [] => (target, b)
    | gs =>
      let (links, b) := gs.foldl (fun (links, b) (r, follow) =>
        let (next, b) := forward target depth follow b
        (next :: r.2 :: r.1 :: links, b)) (([] : List Nat), b)
      b.state forwardPlaces links.reverse (fun f => f.addChoice gs.length)

/-- The states that read the bytes of a run backward up to the state `target`: its first byte is read last. -/
def backward (target : Nat) (run : ByteRun) (b : SetBuild) : SetBuild :=
  (run.foldl (fun (target, b) r => b.state backwardPlaces [target, r.1, r.2] (fun f => f.addStates 1)) (target, b)).2

end ByteRun

namespace CharSet

/-- All members are ASCII characters. -/
def isAscii (s : CharSet) : Bool := s.ranges.all (fun r => r.2 < 128)

/-- The growth by a set that is read forward. -/
def forwardGrowth (s : CharSet) : Growth :=
  if s.isAscii then fun f => (f.addStates 1).addChoice s.ranges.length
  else
    let runs := s.byteRuns
    fun f => if f.isOver then f else (ByteRun.forward f.states 4 runs ⟨f.addStates 1, ∅⟩).2.footprint

/-- The growth by a set that is read backward: a state that chooses between its runs, and one where they end. -/
def backwardGrowth (s : CharSet) : Growth :=
  if s.isAscii then fun f => (f.addStates 1).addChoice s.ranges.length
  else
    let runs := s.byteRuns
    fun f =>
      if f.isOver then f
      else (runs.foldl (fun b run => ByteRun.backward (f.states + 1) run b)
        ⟨(f.addStates 2).addLinks runs.length, ∅⟩).footprint

end CharSet

end PathRouting
