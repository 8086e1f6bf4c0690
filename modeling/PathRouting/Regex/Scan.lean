import PathRouting.Regex.Class

/-!
# Reading tokens

The text of an expression as a list of tokens, with the flags of each place settled. The flags of a group end with it,
so those of the groups around are kept on a stack.
-/

namespace PathRouting

/-- What an opening bracket begins: a group, or only a change of flags. -/
inductive GroupHead where
  | capture (name : Option Text)
  | plain (flags : Flags)
  | directive (flags : Flags)
  deriving DecidableEq, Repr

/-- The characters a group's name may hold, `first` at its start. -/
def isGroupNameChar (first : Bool) (c : Char) : Bool :=
  if first then c == '_' || CharSet.letters.contains c
  else c == '_' || c == '.' || c == '[' || c == ']' || CharSet.letters.contains c || CharSet.numbers.contains c

/-- Reads a group's name up to `>`. -/
def readGroupName (t : Text) : Except RegexError (Text × Text) :=
  let name := t.takeWhile (· != '>')
  match t.dropWhile (· != '>'), name with
  | '>' :: rest, c :: cs =>
    if isGroupNameChar true c && cs.all (isGroupNameChar false) then .ok (name, rest) else .error .badGroupName
  | _, _ => .error .badGroupName

/-- Reads flags up to the `:` or `)` after them. A hyphen, of which there may be one before a letter, clears those that
follow; no letter may come twice. The letters are what was read so far. -/
def readFlags (flags : Flags) (on : Bool) (letters : List Char) (dangling : Bool) : Text → Except RegexError (GroupHead × Text)
  | [] => .error .badFlags
  | c :: rest =>
    if c = ':' then
      if dangling then .error .badFlags else .ok (.plain flags, rest)
    else if c = ')' then
      if dangling || (letters.isEmpty && on) then .error .badFlags else .ok (.directive flags, rest)
    else if c = '-' then
      if on then readFlags flags false letters true rest else .error .badFlags
    else if letters.contains c then .error .badFlags
    else match flags.set? c on with
      | some flags => readFlags flags on (c :: letters) false rest
      | none => .error .badFlags

/-- Reads the start of a group, from the character after its bracket on. -/
def readGroupHead (flags : Flags) (t : Text) : Except RegexError (GroupHead × Text) :=
  match flags.skip t with
  | '?' :: '=' :: _ => .error .lookAround
  | '?' :: '!' :: _ => .error .lookAround
  | '?' :: '<' :: '=' :: _ => .error .lookAround
  | '?' :: '<' :: '!' :: _ => .error .lookAround
  | '?' :: 'P' :: '<' :: rest => (readGroupName rest).map (fun (name, rest) => (.capture (some name), rest))
  | '?' :: '<' :: rest => (readGroupName rest).map (fun (name, rest) => (.capture (some name), rest))
  | '?' :: rest => readFlags flags true [] false rest
  | rest => .ok (.capture none, rest)

/-- The largest count a repetition may name. -/
def largestCount : Nat := 4294967295

/-- Reads a number of a count, with white space around it; `none` where there is no digit. -/
def readCount (flags : Flags) (t : Text) : Except RegexError (Option Nat × Text) :=
  let (digits, rest) := readRun flags Char.isDigit t.length (t.dropWhile isBlank)
  let rest := flags.skip (rest.dropWhile isBlank)
  let value := digits.foldl (fun n c => n * 10 + (c.toNat - '0'.toNat)) 0
  if digits.isEmpty then .ok (none, rest)
  else if value ≤ largestCount then .ok (some value, rest)
  else .error .badCount

/-- Reads a counted repetition, from the character after its opening brace on: its bounds, the second `none` where there
is no upper one. -/
def readCounts (flags : Flags) (t : Text) : Except RegexError ((Nat × Option Nat) × Text) := do
  let (low, rest) ← readCount flags (flags.skip t)
  match low, rest with
  | some n, '\x7d' :: rest => .ok ((n, some n), rest)
  | some n, ',' :: rest =>
    match flags.skip rest with
    | '\x7d' :: rest => .ok ((n, none), rest)
    | rest =>
      let (high, rest) ← readCount flags rest
      match high, rest with
      | some m, '\x7d' :: rest => if n ≤ m then .ok ((n, some m), rest) else .error .badCount
      | _, _ => .error .badCount
  | _, _ => .error .badCount

/-- The repetition with its preference: `?` after it, or the flag `U`, makes it prefer fewer. -/
def readGreed (flags : Flags) (least : Nat) (most : Option Nat) (t : Text) : Token × Text :=
  match t with
  | '?' :: rest => (.repeated least most flags.swapGreed, rest)
  | rest => (.repeated least most (!flags.swapGreed), rest)

/-- The token of an escape outside brackets. -/
def Escape.toToken (flags : Flags) : Escape → Token
  | .char c => .chars (flags.cased (.single c)) 0
  | .set s => .chars s 0
  | .look a => .look a

/-- Reads the token that an opening bracket begins, with the flags after it and the flags that wait outside. -/
def readGroup (flags : Flags) (outer : List Flags) (t : Text) : Except RegexError ((Token × Flags × List Flags) × Text) :=
  (readGroupHead flags t).map (fun (head, rest) =>
    match head with
    | .capture name => ((.openCapture name, flags, flags :: outer), rest)
    | .plain inner => ((.openPlain, inner, flags :: outer), rest)
    | .directive after => ((.directive, after, outer), rest))

/-- Reads one token, with the flags after it and the flags of the groups around it. A bracket expression may take so many
rounds. -/
def readToken (rounds : Nat) (flags : Flags) (outer : List Flags) : Text → Except RegexError ((Token × Flags × List Flags) × Text)
  | [] => .error .unclosedGroup
  | c :: rest =>
    let same := fun (r : Token × Text) => ((r.1, flags, outer), r.2)
    match c with
    | '(' => readGroup flags outer rest
    | ')' =>
      match outer with
      | [] => .error .unopenedGroup
      | before :: outer => .ok ((.close, before, outer), rest)
    | '|' => .ok (same (.bar, rest))
    | '[' => (readClass flags rounds rest).map (fun (part, rest) => same (.chars part.set part.depth, rest))
    | '?' => .ok (same (readGreed flags 0 (some 1) rest))
    | '*' => .ok (same (readGreed flags 0 none rest))
    | '+' => .ok (same (readGreed flags 1 none rest))
    | '\x7b' => (readCounts flags rest).map (fun (bounds, rest) =>
        same (readGreed flags bounds.1 bounds.2 (flags.skip rest)))
    | '\\' => (readEscape flags rest).map (fun (e, rest) => same (e.toToken flags, rest))
    | '.' => .ok (same (.chars flags.dot 0, rest))
    | '^' => .ok (same (.look flags.caret, rest))
    | '$' => .ok (same (.look flags.dollar, rest))
    | c => .ok (same (.chars (flags.cased (.single c)) 0, rest))

/-- Reads all tokens of a text. Every round takes a character at least, so a text needs no more rounds than it has
characters. -/
def readTokens : Nat → Flags → List Flags → List Token → Text → Except RegexError (List Token)
  | 0, _, _, tokens, _ => .ok tokens.reverse
  | rounds + 1, flags, outer, tokens, t =>
    match flags.skip t with
    | [] => .ok tokens.reverse
    | c :: rest =>
      match readToken rounds flags outer (c :: rest) with
      | .ok ((token, flags, outer), rest) => readTokens rounds flags outer (token :: tokens) rest
      | .error e => .error e

/-- The tokens of the text of an expression. -/
def Token.ofText (t : Text) : Except RegexError (List Token) := readTokens (t.length + 1) {} [] [] t

end PathRouting
