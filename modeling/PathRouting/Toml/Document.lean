import PathRouting.Toml.Scalar

/-!
# TOML documents

A document is read into statements, one a line, and the statements are then put together. A table may be written in
pieces: a header may name a table below one that comes later, and dotted keys build tables of their own. But no table is
opened twice, and a table that was written in one of these ways is not extended in another.
-/

namespace PathRouting.Toml

/-- How a table came to be: by a header of its own, as a part of a longer header, or by a dotted key. -/
inductive TableKind where
  | headed
  | implied
  | dotted
  deriving DecidableEq, Repr

/-- An entry of a document while it is put together. The tables of an array are kept latest first. -/
inductive Item where
  | value (v : Toml)
  | table (kind : TableKind) (entries : List (Text × Item))
  | tables (elements : List (List (Text × Item)))
  deriving Inhabited

/-- The entries of a table. -/
abbrev Entries : Type := List (Text × Item)

mutual

/-- The finished value of an entry. -/
def Item.toValue : Item → Toml
  | .value v => v
  | .table _ entries => .table (entriesToValues entries)
  | .tables elements => .list (elementsToValues elements).reverse

/-- The finished values of a table's entries. -/
def entriesToValues : Entries → List (Text × Toml)
  | [] => []
  | (key, item) :: rest => (key, item.toValue) :: entriesToValues rest

/-- The finished values of an array's tables. -/
def elementsToValues : List Entries → List Toml
  | [] => []
  | entries :: rest => .table (entriesToValues entries) :: elementsToValues rest

end

/-- Changes the entry of a key, where `f` gets the entry there is and yields the one to put, or refuses. -/
def alter (key : Text) (f : Option Item → Option Item) : Entries → Option Entries
  | [] => (f none).map (fun item => [(key, item)])
  | (k, old) :: rest =>
    if k = key then (f (some old)).map (fun item => (k, item) :: rest)
    else (alter key f rest).map (fun rest => (k, old) :: rest)

/-- Puts a value where there is no entry yet. -/
def put (key : Text) (v : Toml) (entries : Entries) : Option Entries :=
  alter key (fun
    | none => some (.value v)
    | some _ => none) entries

/-- Puts a value below the tables that a dotted key names. A table on the way may not have a header of its own, and the
last one has to come from dotted keys. -/
def putDotted (key : Text) (v : Toml) : List Text → TableKind → Entries → Option Entries
  | [], kind, entries => if kind = .dotted then put key v entries else none
  | part :: parts, _, entries =>
    alter part (fun
      | none => (putDotted key v parts .dotted []).map (.table .dotted)
      | some (.table .headed _) => none
      | some (.table kind below) => (putDotted key v parts kind below).map (.table kind)
      | some (.tables (last :: before)) =>
        (putDotted key v parts .headed last).map (fun last => .tables (last :: before))
      | some _ => none) entries

/-- A key and its value: the parts of the key before the last, the last, and the value. -/
structure Pair where
  path : List Text
  key : Text
  value : Toml

/-- Puts a pair into the table that is open. -/
def Pair.putInto (entries : Entries) (p : Pair) : Option Entries :=
  match p.path with
  | [] => put p.key p.value entries
  | path => putDotted p.key p.value path .headed entries

/-- Changes the entries of the table that a header's path leads to. Tables that are not there are implied by it; of an
array of tables it means the latest. -/
def under (change : Entries → Option Entries) : List Text → Entries → Option Entries
  | [], entries => change entries
  | part :: parts, entries =>
    alter part (fun
      | none => (under change parts []).map (.table .implied)
      | some (.table kind below) => (under change parts below).map (.table kind)
      | some (.tables (last :: before)) => (under change parts last).map (fun last => .tables (last :: before))
      | some _ => none) entries

/-- A header and the pairs below it. -/
structure Section where
  isArray : Bool
  path : List Text
  key : Text
  pairs : List Pair

/-- Puts a section into a document: a table that was not opened before, or one more table of an array. -/
def Section.putInto (document : Entries) (s : Section) : Option Entries :=
  let fill := fun entries => s.pairs.foldlM Pair.putInto entries
  under (alter s.key (fun entry =>
    if s.isArray then
      match entry with
      | none => (fill []).map (fun entries => .tables [entries])
      | some (.tables elements) => (fill []).map (fun entries => .tables (entries :: elements))
      | some _ => none
    else
      match entry with
      | none => (fill []).map (.table .headed)
      | some (.table .implied entries) => (fill entries).map (.table .headed)
      | some _ => none)) s.path document

/-- The table of pairs alone. -/
def tableOf (pairs : List Pair) : Option Toml :=
  (pairs.foldlM Pair.putInto []).map (fun entries => .table (entriesToValues entries))

/-- Reads a key, an equals sign and a value. -/
def readPairWith (readValue : Text → Option (Toml × Text)) (t : Text) : Option (Pair × Text) := do
  let ((path, key), t) ← readKey t
  let t ← expect '=' t
  let (v, t) ← readValue (skipSpaces t)
  some (⟨path, key, v⟩, t)

/-- Reads the items of a list up to its closing bracket, latest first, in so many rounds at most. -/
def readItems (readValue : Text → Option (Toml × Text)) : Nat → List Toml → Text → Option (Toml × Text)
  | 0, _, _ => none
  | rounds + 1, items, t =>
    match skipLines false t with
    | none => none
    | some (']' :: rest) => some (.list items.reverse, rest)
    | some t =>
      match readValue t with
      | none => none
      | some (v, rest) =>
        match skipLines false rest with
        | some (',' :: rest) => readItems readValue rounds (v :: items) rest
        | some (']' :: rest) => some (.list (v :: items).reverse, rest)
        | _ => none

/-- Reads the pairs of an inline table up to its closing brace, latest first, in so many rounds at most. No comma stands
before the brace. -/
def readInline (readValue : Text → Option (Toml × Text)) : Nat → List Pair → Text → Option (Toml × Text)
  | 0, _, _ => none
  | rounds + 1, pairs, t =>
    match readPairWith readValue t with
    | none => none
    | some (pair, rest) =>
      match skipSpaces rest with
      | ',' :: rest => readInline readValue rounds (pair :: pairs) rest
      | '\x7d' :: rest => (tableOf (pair :: pairs).reverse).map (fun v => (v, rest))
      | _ => none

/-- Reads a value in which lists and inline tables nest no deeper than so many levels. -/
def readValue : Nat → Text → Option (Toml × Text)
  | depth, t =>
    match t with
    | '"' :: _ => (readString t).map (fun (s, rest) => (.text s, rest))
    | '\'' :: _ => (readString t).map (fun (s, rest) => (.text s, rest))
    | '[' :: rest =>
      match depth with
      | 0 => none
      | depth + 1 => readItems (readValue depth) (rest.length + 1) [] rest
    | '\x7b' :: rest =>
      match depth with
      | 0 => none
      | depth + 1 =>
        match skipSpaces rest with
        | '\x7d' :: rest => some (.table [], rest)
        | rest => readInline (readValue depth) (rest.length + 1) [] rest
    | _ => readPlain t

/-- Reads a header from behind its brackets on, with the brackets that close it. -/
def readHeader (isArray : Bool) (t : Text) : Option (Section × Text) := do
  let ((path, key), t) ← readKey t
  let t ← expect ']' t
  let t ← if isArray then expect ']' t else some t
  let t ← endLine? t
  some (⟨isArray, path, key, []⟩, t)

/-- Adds a pair to the latest section, or to the pairs before the first. -/
def addPair (pair : Pair) : List Section → List Section
  | [] => []
  | s :: before => { s with pairs := s.pairs ++ [pair] } :: before

/-- Reads the lines of a document, in so many rounds at most. The sections are given latest first; the pairs before the
first header are a section of their own. -/
def readLines : Nat → List Section → Text → Option (List Section)
  | 0, _, _ => none
  | rounds + 1, sections, t =>
    match skipSpaces t with
    | [] => some sections
    | '\n' :: rest => readLines rounds sections rest
    | '\r' :: '\n' :: rest => readLines rounds sections rest
    | '#' :: rest => (endLine? ('#' :: rest)).bind (readLines rounds sections)
    | '[' :: '[' :: rest =>
      (readHeader true rest).bind (fun (s, rest) => readLines rounds (s :: sections) rest)
    | '[' :: rest =>
      (readHeader false rest).bind (fun (s, rest) => readLines rounds (s :: sections) rest)
    | t =>
      (readPairWith (readValue (nestingLimit - 1)) t).bind (fun (pair, rest) =>
        (endLine? rest).bind (readLines rounds (addPair pair sections)))

/-- The text without a byte order mark at its start. -/
def dropMark : Text → Text
  | '\uFEFF' :: rest => rest
  | t => t

/-- The table that some sections write. They are given latest first, and the pairs before the first header last. -/
def ofSections (sections : List Section) : Option Toml :=
  match sections.reverse with
  | [] => none
  | first :: rest =>
    (first.pairs.foldlM Pair.putInto []).bind (fun entries =>
      (rest.foldlM Section.putInto entries).map (fun entries => .table (entriesToValues entries)))

/-- The table that a document writes, or `none` if it is malformed. -/
def parse (t : Text) : Option Toml :=
  (readLines ((dropMark t).length + 1) [⟨false, [], [], []⟩] (dropMark t)).bind ofSections

end PathRouting.Toml
