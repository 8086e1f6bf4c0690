import PathRouting.Toml.Basic

/-!
# Scalars of TOML

Readers for what stands between the structure of a TOML document: white space, comments and line ends, strings in their
four forms, keys, numbers, dates and times. A reader takes what it reads from the start of a text and returns the rest;
`none` means that the text does not start with one.
-/

namespace PathRouting.Toml

/-- The text after spaces and tabs. -/
def skipSpaces (t : Text) : Text := t.dropWhile (fun c => c == ' ' || c == '\t')

/-- The text after a line end, if it starts with one. -/
def newline? : Text → Option Text
  | '\n' :: rest => some rest
  | '\r' :: '\n' :: rest => some rest
  | _ => none

/-- The characters of comments: no control characters but the tab. -/
def isCommentChar (c : Char) : Bool := c == '\t' || (0x20 ≤ c.toNat && c.toNat ≠ 0x7F)

/-- The text after the rest of a line: spaces, perhaps a comment, and a line end or the end of the document. -/
def endLine? (t : Text) : Option Text :=
  let rest := match skipSpaces t with
    | '#' :: comment => comment.dropWhile isCommentChar
    | rest => rest
  match rest with
  | [] => some []
  | rest => newline? rest

/-- The text after spaces, line ends and comments. -/
def skipLines (inComment : Bool) : Text → Option Text
  | [] => some []
  | '\n' :: rest => skipLines false rest
  | '\r' :: '\n' :: rest => skipLines false rest
  | c :: rest =>
    if inComment then if isCommentChar c then skipLines true rest else none
    else if c = ' ' ∨ c = '\t' then skipLines false rest
    else if c = '#' then skipLines true rest
    else some (c :: rest)

/-- Where the reader of a string with escapes stands: between characters, after a backslash, inside a code point with so
many digits to come, or after a backslash at the end of a line, before and behind that end. -/
inductive StringPlace where
  | between
  | escaped
  | code (left value : Nat)
  | lineEnding
  | lineStart
  deriving DecidableEq, Repr

/-- The character of a one-letter escape. -/
def escapedChar? (c : Char) : Option Char :=
  match c with
  | 'b' => some '\x08'
  | 't' => some '\t'
  | 'n' => some '\n'
  | 'f' => some '\x0c'
  | 'r' => some '\r'
  | '"' => some '"'
  | '\\' => some '\\'
  | _ => none

/-- The value of a hexadecimal digit. -/
def hexValue? (c : Char) : Option Nat :=
  if c.isDigit then some (c.toNat - '0'.toNat)
  else if 'a' ≤ c ∧ c ≤ 'f' then some (c.toNat - 'a'.toNat + 10)
  else if 'A' ≤ c ∧ c ≤ 'F' then some (c.toNat - 'A'.toNat + 10)
  else none

/-- What a character after a backslash begins: the characters it stands for, and where the reader stands after it. -/
def afterBackslash? (c : Char) : Option (Text × StringPlace) :=
  match c with
  | 'u' => some ([], .code 4 0)
  | 'U' => some ([], .code 8 0)
  | c => (escapedChar? c).map (fun e => ([e], .between))

/-- What a digit of a code point adds. The last digit completes a character, which has to be one. -/
def afterDigit? (left value : Nat) (c : Char) : Option (Text × StringPlace) :=
  match hexValue? c with
  | none => none
  | some d =>
    let value := value * 16 + d
    if left ≤ 1 then if value.isValidChar then some ([Char.ofNat value], .between) else none
    else some ([], .code (left - 1) value)

/-- Reads a string in double quotes, from behind its quote on. What was read is given latest first. -/
def readBasic (read : Text) : StringPlace → Text → Option (Text × Text)
  | _, [] => none
  | .between, c :: rest =>
    if c = '"' then some (read.reverse, rest)
    else if c = '\\' then readBasic read .escaped rest
    else if isCommentChar c then readBasic (c :: read) .between rest
    else none
  | .code left value, c :: rest =>
    match afterDigit? left value c with
    | some (chars, place) => readBasic (chars ++ read) place rest
    | none => none
  | _, c :: rest =>
    match afterBackslash? c with
    | some (chars, place) => readBasic (chars ++ read) place rest
    | none => none

/-- Up to two quotes that stand before the closing ones belong to the string. -/
def closeQuotes (quote : Char) (read : Text) (rest : Text) : Text × Text :=
  match rest with
  | a :: b :: more =>
    if a = quote ∧ b = quote then ((quote :: quote :: read).reverse, more)
    else if a = quote then ((quote :: read).reverse, b :: more)
    else (read.reverse, rest)
  | [a] => if a = quote then ((quote :: read).reverse, []) else (read.reverse, rest)
  | [] => (read.reverse, [])

/-- Reads a string in three double quotes, from behind them on. Line ends are read as line feeds; a backslash at the end
of a line drops it with all white space up to the next character. -/
def readLongBasic (read : Text) : StringPlace → Text → Option (Text × Text)
  | .between, '"' :: '"' :: '"' :: rest => some (closeQuotes '"' read rest)
  | .between, '\n' :: rest => readLongBasic ('\n' :: read) .between rest
  | .between, '\r' :: '\n' :: rest => readLongBasic ('\n' :: read) .between rest
  | .between, '\\' :: rest => readLongBasic read .escaped rest
  | .between, c :: rest => if isCommentChar c then readLongBasic (c :: read) .between rest else none
  | .code left value, c :: rest =>
    match afterDigit? left value c with
    | some (chars, place) => readLongBasic (chars ++ read) place rest
    | none => none
  | .escaped, '\n' :: rest => readLongBasic read .lineStart rest
  | .escaped, '\r' :: '\n' :: rest => readLongBasic read .lineStart rest
  | .escaped, c :: rest =>
    if c = ' ' ∨ c = '\t' then readLongBasic read .lineEnding rest
    else match afterBackslash? c with
      | some (chars, place) => readLongBasic (chars ++ read) place rest
      | none => none
  | .lineEnding, '\n' :: rest => readLongBasic read .lineStart rest
  | .lineEnding, '\r' :: '\n' :: rest => readLongBasic read .lineStart rest
  | .lineEnding, c :: rest => if c = ' ' ∨ c = '\t' then readLongBasic read .lineEnding rest else none
  | .lineStart, '\n' :: rest => readLongBasic read .lineStart rest
  | .lineStart, '\r' :: '\n' :: rest => readLongBasic read .lineStart rest
  | .lineStart, '"' :: '"' :: '"' :: rest => some (closeQuotes '"' read rest)
  | .lineStart, '\\' :: rest => readLongBasic read .escaped rest
  | .lineStart, c :: rest =>
    if c = ' ' ∨ c = '\t' then readLongBasic read .lineStart rest
    else if isCommentChar c then readLongBasic (c :: read) .between rest
    else none
  | _, [] => none

/-- Reads a string in single quotes, from behind its quote on. Nothing is escaped. -/
def readLiteral (t : Text) : Option (Text × Text) :=
  let isLiteralChar := fun c => isCommentChar c && c != '\''
  match t.dropWhile isLiteralChar with
  | '\'' :: rest => some (t.takeWhile isLiteralChar, rest)
  | _ => none

/-- Reads a string in three single quotes, from behind them on. Line ends are read as line feeds. -/
def readLongLiteral (read : Text) : Text → Option (Text × Text)
  | '\'' :: '\'' :: '\'' :: rest => some (closeQuotes '\'' read rest)
  | '\n' :: rest => readLongLiteral ('\n' :: read) rest
  | '\r' :: '\n' :: rest => readLongLiteral ('\n' :: read) rest
  | c :: rest => if isCommentChar c then readLongLiteral (c :: read) rest else none
  | [] => none

/-- The text behind a line end that stands right behind the opening quotes of a long string. -/
def dropFirstNewline (t : Text) : Text := (newline? t).getD t

/-- Reads a string in any of its four forms. -/
def readString : Text → Option (Text × Text)
  | '"' :: '"' :: '"' :: rest => readLongBasic [] .between (dropFirstNewline rest)
  | '"' :: rest => readBasic [] .between rest
  | '\'' :: '\'' :: '\'' :: rest => readLongLiteral [] (dropFirstNewline rest)
  | '\'' :: rest => readLiteral rest
  | _ => none

/-- The characters of bare keys. -/
def isBareKeyChar (c : Char) : Bool := c.isAlphanum || c == '_' || c == '-'

/-- Reads one part of a key: bare, or a string on one line. -/
def readKeyPart : Text → Option (Text × Text)
  | '"' :: rest => readBasic [] .between rest
  | '\'' :: rest => readLiteral rest
  | t =>
    match t.takeWhile isBareKeyChar with
    | [] => none
    | part => some (part, t.dropWhile isBareKeyChar)

/-- A key has fewer parts than this, and values nest less deep. -/
def nestingLimit : Nat := 80

/-- Reads the parts of a dotted key, with the spaces around each, in so many rounds at most. -/
def readKeyParts : Nat → Text → Option (List Text × Text)
  | 0, _ => none
  | rounds + 1, t =>
    match readKeyPart (skipSpaces t) with
    | none => none
    | some (part, rest) =>
      match skipSpaces rest with
      | '.' :: rest => (readKeyParts rounds rest).map (fun (parts, rest) => (part :: parts, rest))
      | rest => some ([part], rest)

/-- Reads a key: the parts before the last, and the last. -/
def readKey (t : Text) : Option ((List Text × Text) × Text) :=
  match readKeyParts (nestingLimit - 1) t with
  | some (parts, rest) => parts.getLast?.map (fun last => ((parts.dropLast, last), rest))
  | none => none

/-- Digits with single underscores between them: the digits, and the rest. -/
def spanDigits (isDigit : Char → Bool) (read : Text) : Text → Text × Text
  | [] => (read.reverse, [])
  | [c] => if isDigit c then ((c :: read).reverse, []) else (read.reverse, [c])
  | c :: d :: rest =>
    if isDigit c then spanDigits isDigit (c :: read) (d :: rest)
    else if c = '_' ∧ isDigit d ∧ !read.isEmpty then spanDigits isDigit read (d :: rest)
    else (read.reverse, c :: d :: rest)

/-- The number some digits write in a base. -/
def valueOf (base : Nat) (digits : Text) : Nat := digits.foldl (fun n c => n * base + (hexValue? c).getD 0) 0

/-- The largest integer. -/
def largestInteger : Nat := 9223372036854775807

/-- Reads the digits of an integer in a base other than ten. -/
def readBased (base : Nat) (t : Text) : Option Text :=
  let (digits, rest) := spanDigits (fun c => (hexValue? c).any (· < base)) [] t
  if !digits.isEmpty && valueOf base digits ≤ largestInteger then some rest else none

/-- The decimal `digits · 10 ^ exponent` is too large for a floating-point number of 64 bits: it rounds to infinity. -/
def overflows (digits : Nat) (exponent : Int) : Bool :=
  let limit := Nat.pow 2 1024 - Nat.pow 2 970
  let size : Int := (Nat.toDigits 10 digits).length + exponent
  if digits = 0 ∨ size < 300 then false
  else if 320 < size then true
  else if 0 ≤ exponent then limit ≤ digits * Nat.pow 10 exponent.toNat
  else limit * Nat.pow 10 (-exponent).toNat ≤ digits

/-- Reads an exponent from behind its letter on: its value, and the rest. -/
def readExponent (t : Text) : Option (Int × Text) :=
  let (negative, t) := match t with
    | '-' :: rest => (true, rest)
    | '+' :: rest => (false, rest)
    | rest => (false, rest)
  let (digits, rest) := spanDigits Char.isDigit [] t
  if digits.isEmpty then none
  else some (if negative then -(valueOf 10 digits : Int) else valueOf 10 digits, rest)

/-- Reads what follows the whole part of a decimal number. Without point and exponent it is an integer and has to be in
range; a positive number may not be too large. -/
def readFraction (negative : Bool) (whole : Text) (t : Text) : Option Text :=
  let finish := fun (digits : Text) (exponent : Int) (rest : Text) =>
    if !negative && overflows (valueOf 10 digits) exponent then none else some rest
  match t with
  | '.' :: t =>
    let (fraction, rest) := spanDigits Char.isDigit [] t
    if fraction.isEmpty then none
    else match rest with
      | c :: after =>
        if c = 'e' ∨ c = 'E' then
          (readExponent after).bind (fun (e, rest) => finish (whole ++ fraction) (e - fraction.length) rest)
        else finish (whole ++ fraction) (-fraction.length) rest
      | [] => finish (whole ++ fraction) (-fraction.length) rest
  | c :: after =>
    if c = 'e' ∨ c = 'E' then (readExponent after).bind (fun (e, rest) => finish whole e rest)
    else if valueOf 10 whole ≤ largestInteger + negative.toNat then some (c :: after) else none
  | [] => if valueOf 10 whole ≤ largestInteger + negative.toNat then some [] else none

/-- Reads a decimal number from behind its sign on. No other digit follows a leading zero. -/
def readDecimal (negative : Bool) : Text → Option Text
  | 'i' :: 'n' :: 'f' :: rest => some rest
  | 'n' :: 'a' :: 'n' :: rest => some rest
  | '0' :: rest => readFraction negative ['0'] rest
  | t =>
    let (whole, rest) := spanDigits Char.isDigit [] t
    if whole.isEmpty then none else readFraction negative whole rest

/-- Reads a number. -/
def readNumber : Text → Option Text
  | '0' :: 'x' :: rest => readBased 16 rest
  | '0' :: 'o' :: rest => readBased 8 rest
  | '0' :: 'b' :: rest => readBased 2 rest
  | '-' :: rest => readDecimal true rest
  | '+' :: rest => readDecimal false rest
  | t => readDecimal false t

/-- Reads two digits whose value is in a range. -/
def readPair (low high : Nat) : Text → Option (Nat × Text)
  | a :: b :: rest =>
    let n := valueOf 10 [a, b]
    if a.isDigit && b.isDigit && low ≤ n && n ≤ high then some (n, rest) else none
  | _ => none

/-- Reads one character that has to be there. -/
def expect (c : Char) : Text → Option Text
  | d :: rest => if c = d then some rest else none
  | [] => none

/-- The days of a month. -/
def daysInMonth (year month : Nat) : Nat :=
  if month = 2 then if year % 4 = 0 ∧ (year % 100 ≠ 0 ∨ year % 400 = 0) then 29 else 28
  else if month = 4 ∨ month = 6 ∨ month = 9 ∨ month = 11 then 30
  else 31

/-- Reads a time of day. -/
def readTime (t : Text) : Option Text := do
  let (_, t) ← readPair 0 23 t
  let (_, t) ← readPair 0 59 (← expect ':' t)
  let (_, t) ← readPair 0 60 (← expect ':' t)
  match t with
  | '.' :: c :: rest => if c.isDigit then some (rest.dropWhile Char.isDigit) else some t
  | _ => some t

/-- Reads the offset of a time from universal time, where there is one. -/
def readOffset : Text → Option Text
  | 'Z' :: rest => some rest
  | 'z' :: rest => some rest
  | c :: rest =>
    if c = '+' ∨ c = '-' then do
      let (_, t) ← readPair 0 23 rest
      let (_, t) ← readPair 0 59 (← expect ':' t)
      some t
    else some (c :: rest)
  | [] => some []

/-- A time of day starts here. -/
def startsTime : Text → Bool
  | a :: b :: ':' :: _ => a.isDigit && b.isDigit
  | _ => false

/-- A date starts here. -/
def startsDate : Text → Bool
  | a :: b :: c :: d :: '-' :: _ => [a, b, c, d].all Char.isDigit
  | _ => false

/-- Reads a date, with the time of day and its offset where they follow. -/
def readDate (t : Text) : Option Text := do
  let year := valueOf 10 (t.take 4)
  let (month, t) ← readPair 1 12 (t.drop 5)
  let (_, t) ← readPair 1 (daysInMonth year month) (← expect '-' t)
  match t with
  | c :: rest =>
    if (c = 'T' ∨ c = 't' ∨ c = ' ') ∧ startsTime rest then (readTime rest).bind readOffset else some t
  | [] => some []

/-- Reads a truth value, a date or time, or a number. -/
def readPlain (t : Text) : Option (Toml × Text) :=
  match t with
  | 't' :: 'r' :: 'u' :: 'e' :: rest => some (.bool true, rest)
  | 'f' :: 'a' :: 'l' :: 's' :: 'e' :: rest => some (.bool false, rest)
  | _ =>
    if startsDate t then (readDate t).map (fun rest => (.moment, rest))
    else if startsTime t then (readTime t).map (fun rest => (.moment, rest))
    else (readNumber t).map (fun rest => (.number, rest))

end PathRouting.Toml
