import PathRouting.Regex.Token

/-!
# Bracket expressions

Reading `[...]`: characters, ranges, escapes, named ASCII classes, nested brackets, and the operators `&&`, `--` and
`~~`, which bind equally and from the left. Open brackets and waiting operators are kept on a stack, so that the reader
is one loop over the text.
-/

namespace PathRouting

/-- A part of a bracket expression: its set and the depth its text nests. -/
structure ClassPart where
  set : CharSet
  depth : Nat
  deriving DecidableEq, Repr

/-- The operators between parts. -/
inductive ClassOp where
  | inter
  | diff
  | symmDiff
  deriving DecidableEq, Repr

/-- What waits while an inner part is read: an open bracket with the parts before it, or an operator with its left side. -/
inductive ClassFrame where
  | bracket (before : List ClassPart) (negated : Bool)
  | operator (op : ClassOp) (left : ClassPart)
  deriving DecidableEq, Repr

/-- The result of an operator. -/
def ClassOp.apply : ClassOp → CharSet → CharSet → CharSet
  | .inter, s, t => s.inter t
  | .diff, s, t => s.diff t
  | .symmDiff, s, t => s.symmDiff t

namespace ClassPart

/-- One part out of the parts side by side, latest first. -/
def ofParts : List ClassPart → ClassPart
  | [] => ⟨.none, 0⟩
  | [p] => p
  | p :: ps => ⟨(p :: ps).foldl (fun s q => q.set.union s) .none, (ps.foldl (fun d q => max d q.depth) p.depth) + 1⟩

/-- The part as the right side of the operator that waits on top of the stack, if one does. -/
def closeOperator (flags : Flags) (right : ClassPart) : List ClassFrame → ClassPart × List ClassFrame
  | .operator op left :: frames =>
    (⟨op.apply (flags.cased left.set) (flags.cased right.set), max left.depth right.depth + 1⟩, frames)
  | frames => (right, frames)

/-- The part in its brackets. -/
def bracketed (flags : Flags) (negated : Bool) (part : ClassPart) : ClassPart :=
  let set := flags.cased part.set
  ⟨if negated then set.complement else set, part.depth + 1⟩

end ClassPart

/-- The named ASCII classes. -/
def asciiClass? (name : String) : Option CharSet :=
  match name with
  | "alnum" => some (.ofRanges [(0x30, 0x39), (0x41, 0x5A), (0x61, 0x7A)])
  | "alpha" => some (.ofRanges [(0x41, 0x5A), (0x61, 0x7A)])
  | "ascii" => some (.ofRanges [(0x00, 0x7F)])
  | "blank" => some (.ofRanges [(0x09, 0x09), (0x20, 0x20)])
  | "cntrl" => some (.ofRanges [(0x00, 0x1F), (0x7F, 0x7F)])
  | "digit" => some (.ofRanges [(0x30, 0x39)])
  | "graph" => some (.ofRanges [(0x21, 0x7E)])
  | "lower" => some (.ofRanges [(0x61, 0x7A)])
  | "print" => some (.ofRanges [(0x20, 0x7E)])
  | "punct" => some (.ofRanges [(0x21, 0x2F), (0x3A, 0x40), (0x5B, 0x60), (0x7B, 0x7E)])
  | "space" => some (.ofRanges [(0x09, 0x0D), (0x20, 0x20)])
  | "upper" => some (.ofRanges [(0x41, 0x5A)])
  | "word" => some (.ofRanges [(0x30, 0x39), (0x41, 0x5A), (0x5F, 0x5F), (0x61, 0x7A)])
  | "xdigit" => some (.ofRanges [(0x30, 0x39), (0x41, 0x46), (0x61, 0x66)])
  | _ => none

/-- A named ASCII class `[:name:]` or `[:^name:]`, from the character after its bracket on. -/
def readAsciiClass? (flags : Flags) : Text → Option (CharSet × Text)
  | ':' :: t =>
    let (negated, t) := match t with
      | '^' :: rest => (true, rest)
      | rest => (false, rest)
    match t.dropWhile (· != ':') with
    | ':' :: ']' :: rest =>
      (asciiClass? (String.ofList (t.takeWhile (· != ':')))).map (fun s =>
        (if negated then (flags.cased s).complement else flags.cased s, rest))
    | _ => none
  | _ => none

/-- Reads the hyphens at the start of a bracket expression, each of which stands for itself. A skip takes nothing or
more, so there are no more of them than characters. -/
def readLeadingHyphens (flags : Flags) : Nat → List ClassPart → Text → List ClassPart × Text
  | rounds + 1, parts, '-' :: rest => readLeadingHyphens flags rounds (⟨.single '-', 0⟩ :: parts) (flags.skip rest)
  | _, parts, t => (parts, t)

/-- Reads the start of a bracket expression, from the character after its bracket on: whether it is negated, and the
hyphens, or the closing bracket, that stand for themselves there. -/
def readClassStart (flags : Flags) (t : Text) : Bool × List ClassPart × Text :=
  let (negated, t) := match flags.skip t with
    | '^' :: rest => (true, flags.skip rest)
    | rest => (false, rest)
  match t with
  | ']' :: rest => (negated, [⟨.single ']', 0⟩], rest)
  | t => (negated, readLeadingHyphens flags t.length [] t)

/-- Reads one character or escape inside brackets. -/
def readClassAtom (flags : Flags) : Text → Except RegexError (Escape × Text)
  | [] => .error .unclosedClass
  | '\\' :: rest => readEscape flags rest
  | c :: rest => .ok (.char c, rest)

/-- The set of an atom that stands alone. -/
def Escape.toClassPart : Escape → Except RegexError ClassPart
  | .char c => .ok ⟨.single c, 0⟩
  | .set s => .ok ⟨s, 0⟩
  | .look _ => .error .badClassItem

/-- The set of a range between two atoms, which have to be characters in order. -/
def Escape.toClassRange : Escape → Escape → Except RegexError ClassPart
  | .char a, .char b => if a ≤ b then .ok ⟨.between a b, 0⟩ else .error .badRange
  | _, _ => .error .badRange

/-- Reads a character, an escape or a range inside brackets. A hyphen before the closing bracket or before another
hyphen makes no range. -/
def readClassItem (flags : Flags) (t : Text) : Except RegexError (ClassPart × Text) := do
  let (low, rest) ← readClassAtom flags t
  match flags.skip rest with
  | [] => .error .unclosedClass
  | '-' :: afterHyphen =>
    match flags.skip afterHyphen with
    | [] => .error .unclosedClass
    | c :: more =>
      if c = ']' ∨ c = '-' then
        let part ← low.toClassPart
        .ok (part, '-' :: afterHyphen)
      else
        let (high, rest) ← readClassAtom flags (c :: more)
        let part ← low.toClassRange high
        .ok (part, rest)
  | rest =>
    let part ← low.toClassPart
    .ok (part, rest)

/-- Reads a bracket expression to its closing bracket, with `parts` read since the last open bracket or operator. Every
round takes a character at least. -/
def readClassLoop (flags : Flags) : Nat → List ClassFrame → List ClassPart → Text → Except RegexError (ClassPart × Text)
  | 0, _, _, _ => .error .unclosedClass
  | rounds + 1, frames, parts, t =>
    let operator := fun op rest =>
      let (left, frames) := (ClassPart.ofParts parts).closeOperator flags frames
      readClassLoop flags rounds (.operator op left :: frames) [] rest
    match flags.skip t with
    | [] => .error .unclosedClass
    | '[' :: rest =>
      match readAsciiClass? flags rest with
      | some (set, rest) => readClassLoop flags rounds frames (⟨set, 0⟩ :: parts) rest
      | none =>
        let (negated, inner, rest) := readClassStart flags rest
        readClassLoop flags rounds (.bracket parts negated :: frames) inner rest
    | ']' :: rest =>
      match (ClassPart.ofParts parts).closeOperator flags frames with
      | (part, [.bracket _ negated]) => .ok (part.bracketed flags negated, rest)
      | (part, .bracket before negated :: frames) =>
        readClassLoop flags rounds frames (part.bracketed flags negated :: before) rest
      | _ => .error .unclosedClass
    | '&' :: '&' :: rest => operator .inter rest
    | '-' :: '-' :: rest => operator .diff rest
    | '~' :: '~' :: rest => operator .symmDiff rest
    | c :: rest =>
      match readClassItem flags (c :: rest) with
      | .ok (part, rest) => readClassLoop flags rounds frames (part :: parts) rest
      | .error e => .error e

/-- Reads a bracket expression, from the character after its opening bracket on, in so many rounds at most. -/
def readClass (flags : Flags) (rounds : Nat) (t : Text) : Except RegexError (ClassPart × Text) :=
  let (negated, parts, rest) := readClassStart flags t
  readClassLoop flags rounds [.bracket [] negated] parts rest

end PathRouting
