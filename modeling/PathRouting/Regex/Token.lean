import PathRouting.Regex.Basic

/-!
# Tokens of a regular expression

What the text of an expression is made of, before brackets and alternatives are put together: sets of characters,
assertions, repetition marks and brackets. Flags act from left to right inside their group, so they are settled here:
a token for a character under the flag `i` already holds both cases of it.
-/

namespace PathRouting

/-- Why a text is not a regular expression the engine takes. -/
inductive RegexError where
  | unfinishedEscape
  | unknownEscape (c : Char)
  | badCodePoint
  | unclosedClass
  | badRange
  | badClassItem
  | nothingToRepeat
  | badCount
  | unclosedGroup
  | unopenedGroup
  | badGroupName
  | duplicateGroupName (name : Text)
  | badFlags
  | lookAround
  | tooDeep
  | tooLarge
  deriving DecidableEq, Repr

/-- The flags in force at a place of an expression. -/
structure Flags where
  /-- `i`: letters match both cases. -/
  ignoreCase : Bool := false
  /-- `m`: `^` and `$` match at the ends of lines. -/
  multiLine : Bool := false
  /-- `s`: `.` matches a line feed too. -/
  dotAll : Bool := false
  /-- `U`: repetitions prefer fewer, and `?` after them makes them prefer more. -/
  swapGreed : Bool := false
  /-- `x`: white space and comments in the expression are skipped. -/
  verbose : Bool := false
  deriving DecidableEq, Repr

/-- A token. The depth of a set counts the brackets its text nests. -/
inductive Token where
  | chars (set : CharSet) (depth : Nat)
  | look (condition : Assertion)
  | directive
  | openCapture (name : Option Text)
  | openPlain
  | close
  | bar
  | repeated (least : Nat) (most : Option Nat) (greedy : Bool)
  deriving DecidableEq, Repr

namespace Flags

/-- The set a character or class stands for under the flags. -/
def cased (flags : Flags) (s : CharSet) : CharSet := if flags.ignoreCase then s.closeCase else s

/-- The set `.` stands for. -/
def dot (flags : Flags) : CharSet := if flags.dotAll then .all else (CharSet.single '\n').complement

/-- What `^` asserts. -/
def caret (flags : Flags) : Assertion := if flags.multiLine then .lineStart else .textStart

/-- What `$` asserts. -/
def dollar (flags : Flags) : Assertion := if flags.multiLine then .lineEnd else .textEnd

/-- The flags with one of them set, if there is a flag of that letter. Unicode is always on, so `u` changes nothing and
cannot be cleared. -/
def set? (flags : Flags) (letter : Char) (on : Bool) : Option Flags :=
  match letter with
  | 'i' => some { flags with ignoreCase := on }
  | 'm' => some { flags with multiLine := on }
  | 's' => some { flags with dotAll := on }
  | 'U' => some { flags with swapGreed := on }
  | 'x' => some { flags with verbose := on }
  | 'u' => if on then some flags else none
  | _ => none

end Flags

/-- The text after white space and comments, where a comment runs from `#` to the end of its line. -/
def dropComments (inComment : Bool) : Text → Text
  | [] => []
  | c :: rest =>
    if inComment then dropComments (c != '\n') rest
    else if isBlank c then dropComments false rest
    else if c = '#' then dropComments true rest
    else c :: rest

/-- The text from the next significant character on. -/
def Flags.skip (flags : Flags) (t : Text) : Text := if flags.verbose then dropComments false t else t

/-- The characters with a meaning of their own in expressions. -/
def isMeta (c : Char) : Bool :=
  ['\\', '.', '+', '*', '?', '(', ')', '|', '[', ']', '\x7b', '\x7d', '^', '$', '#', '&', '-', '~'].contains c

/-- The text with a backslash before each character that has a meaning of its own. -/
def escape (t : Text) : Text := t.flatMap (fun c => if isMeta c then ['\\', c] else [c])

/-- The characters that a backslash leaves as they are: ASCII, neither letters nor digits, and not the angle brackets. -/
def isEscapable (c : Char) : Bool :=
  isMeta c || (c.toNat < 128 && !c.isAlphanum && c != '<' && c != '>')

/-- What a backslash and the characters after it stand for. -/
inductive Escape where
  | char (c : Char)
  | set (s : CharSet)
  | look (condition : Assertion)
  deriving DecidableEq, Repr

/-- The value of a hexadecimal digit. -/
def hexValue? (c : Char) : Option Nat :=
  if c.isDigit then some (c.toNat - '0'.toNat)
  else if 'a' ≤ c ∧ c ≤ 'f' then some (c.toNat - 'a'.toNat + 10)
  else if 'A' ≤ c ∧ c ≤ 'F' then some (c.toNat - 'A'.toNat + 10)
  else none

/-- The character of a code point, if it is one. -/
def charOfCode? (n : Nat) : Option Char := if n.isValidChar then some (Char.ofNat n) else none

/-- Reads the characters of a kind up to the first of another, passing over what the flags skip after each. There are no
more of them than characters. -/
def readRun (flags : Flags) (ofKind : Char → Bool) : Nat → Text → Text × Text
  | rounds + 1, c :: rest =>
    if ofKind c then
      let (run, rest) := readRun flags ofKind rounds (flags.skip rest)
      (c :: run, rest)
    else ([], c :: rest)
  | _, t => ([], t)

/-- Reads a fixed number of hexadecimal digits. -/
def readHexDigits (flags : Flags) : Nat → Nat → Text → Except RegexError (Nat × Text)
  | 0, value, t => .ok (value, t)
  | count + 1, value, t =>
    match flags.skip t with
    | [] => .error .unfinishedEscape
    | c :: rest =>
      match hexValue? c with
      | some d => readHexDigits flags count (value * 16 + d) rest
      | none => .error .badCodePoint

/-- Reads the hexadecimal digits up to a closing brace; there has to be one at least. -/
def readHexBraced (flags : Flags) (t : Text) : Except RegexError (Nat × Text) :=
  let (digits, rest) := readRun flags (fun c => (hexValue? c).isSome) t.length (flags.skip t)
  match digits, rest with
  | _, [] => .error .unfinishedEscape
  | _ :: _, '\x7d' :: rest => .ok (digits.foldl (fun n c => n * 16 + (hexValue? c).getD 0) 0, rest)
  | _, _ => .error .badCodePoint

/-- Reads the code point of `\x`, `\u` or `\U`: in braces, or with exactly `count` digits. -/
def readCodePoint (flags : Flags) (count : Nat) (t : Text) : Except RegexError (Escape × Text) := do
  let (n, rest) ←
    match flags.skip t with
    | '\x7b' :: rest => readHexBraced flags rest
    | rest => readHexDigits flags count 0 rest
  match charOfCode? n with
  | some c => .ok (.char c, rest)
  | none => .error .badCodePoint

/-- Reads what follows `\b`: a name in braces picks one side of a word, and without one it is the word boundary. A brace
that no letter follows opens a count, not a name. -/
def readWordBoundary (flags : Flags) (t : Text) : Except RegexError (Escape × Text) :=
  match t with
  | '\x7b' :: inner =>
    let isNameChar := fun c : Char => c.isAlpha || c == '-'
    match flags.skip inner, readRun flags isNameChar inner.length (flags.skip inner) with
    | [], _ => .error .unfinishedEscape
    | _, ([], _) => .ok (.look .wordBoundary, t)
    | _, (name, '\x7d' :: rest) =>
      match String.ofList name with
      | "start" => .ok (.look .wordStart, rest)
      | "end" => .ok (.look .wordEnd, rest)
      | "start-half" => .ok (.look .wordStartHalf, rest)
      | "end-half" => .ok (.look .wordEndHalf, rest)
      | _ => .error .badClassItem
    | _, _ => .error .unfinishedEscape
  | _ => .ok (.look .wordBoundary, t)

/-- Reads an escape, from the character after the backslash on. -/
def readEscape (flags : Flags) : Text → Except RegexError (Escape × Text)
  | [] => .error .unfinishedEscape
  | c :: rest =>
    match c with
    | 'd' => .ok (.set .digits, rest)
    | 'D' => .ok (.set CharSet.digits.complement, rest)
    | 's' => .ok (.set .spaces, rest)
    | 'S' => .ok (.set CharSet.spaces.complement, rest)
    | 'w' => .ok (.set .word, rest)
    | 'W' => .ok (.set CharSet.word.complement, rest)
    | 'x' => readCodePoint flags 2 rest
    | 'u' => readCodePoint flags 4 rest
    | 'U' => readCodePoint flags 8 rest
    | 'a' => .ok (.char '\x07', rest)
    | 'f' => .ok (.char '\x0c', rest)
    | 't' => .ok (.char '\t', rest)
    | 'n' => .ok (.char '\n', rest)
    | 'r' => .ok (.char '\r', rest)
    | 'v' => .ok (.char '\x0b', rest)
    | 'A' => .ok (.look .textStart, rest)
    | 'z' => .ok (.look .textEnd, rest)
    | 'b' => readWordBoundary flags rest
    | 'B' => .ok (.look .notWordBoundary, rest)
    | '<' => .ok (.look .wordStart, rest)
    | '>' => .ok (.look .wordEnd, rest)
    | c => if isEscapable c then .ok (.char c, rest) else .error (.unknownEscape c)

end PathRouting
