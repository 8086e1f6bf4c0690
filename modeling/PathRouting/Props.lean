import PathRouting.Text.Quoted

/-!
# Props

The values a route is rendered with: null, truth values, integers, texts, lists and objects. An object keeps its fields
in the order of their keys and each key once, so that equal objects are equal values.
-/

namespace PathRouting

/-- A value that a route is rendered with. -/
inductive Props where
  | null
  | bool (b : Bool)
  | int (n : Int)
  | text (t : Text)
  | list (items : List Props)
  | object (fields : List (Text × Props))
  deriving Repr, Inhabited

namespace Props

/-- Sets a field, among fields in the order of their keys. -/
def setField (key : Text) (value : Props) : List (Text × Props) → List (Text × Props)
  | [] => [(key, value)]
  | (k, v) :: rest =>
    match compare key k with
    | .lt => (key, value) :: (k, v) :: rest
    | .eq => (key, value) :: rest
    | .gt => (k, v) :: setField key value rest

/-- The object of some fields; of two fields with one key the later counts. -/
def ofFields (fields : List (Text × Props)) : Props :=
  .object (fields.foldl (fun sorted field => setField field.1 field.2 sorted) [])

/-- Named texts as an object. -/
def ofParams (params : List (Text × Text)) : Props := ofFields (params.map (fun p => (p.1, .text p.2)))

/-- The smallest and the largest integer that can be added. -/
def intRange : Int × Int := (-9223372036854775808, 9223372036854775807)

/-- The integer is in the range of addition. -/
def inRange (n : Int) : Bool := intRange.1 ≤ n && n ≤ intRange.2

/-- A value and what is added to it: integers are summed, null if one of them or the sum is out of range, texts are
joined, and anything else is put side by side. -/
def combine (old new : Props) : Props :=
  match old, new with
  | .int a, .int b =>
    if inRange a && inRange b && inRange (a + b) then .int (a + b) else .null
  | .text a, .text b => .text (a ++ b)
  | _, _ => .list [old, new]

/-- The value is null. -/
def isNull : Props → Bool
  | .null => true
  | _ => false

/-- A character as it stands in a text of an interchange document. -/
def interchangeChar (c : Char) : Text :=
  match c with
  | '"' => ['\\', '"']
  | '\\' => ['\\', '\\']
  | '\n' => ['\\', 'n']
  | '\r' => ['\\', 'r']
  | '\t' => ['\\', 't']
  | '\x08' => ['\\', 'b']
  | '\x0c' => ['\\', 'f']
  | c =>
    if c.toNat < 0x20 then ['\\', 'u', '0', '0'] ++ (if c.toNat < 0x10 then ['0'] else []) ++ Text.hexDigits c.toNat
    else [c]

/-- A text of an interchange document, with its quotes. -/
def interchangeText (t : Text) : Text := '"' :: (t.flatMap interchangeChar ++ ['"'])

/-- Texts with a separator between them. -/
def separated (separator : Text) : List Text → Text
  | [] => []
  | [t] => t
  | t :: ts => t ++ separator ++ separated separator ts

mutual

/-- The value as an interchange document without white space. -/
def interchange : Props → Text
  | .null => Text.ofString "null"
  | .bool b => Text.ofString (if b then "true" else "false")
  | .int n => Text.ofString (ToString.toString n)
  | .text t => interchangeText t
  | .list items => '[' :: (separated [','] (interchangeItems items) ++ [']'])
  | .object fields => '\x7b' :: (separated [','] (interchangeFields fields) ++ ['\x7d'])

/-- The items of a list as documents. -/
def interchangeItems : List Props → List Text
  | [] => []
  | v :: rest => interchange v :: interchangeItems rest

/-- The fields of an object, each with its key. -/
def interchangeFields : List (Text × Props) → List Text
  | [] => []
  | (k, v) :: rest => (interchangeText k ++ ':' :: interchange v) :: interchangeFields rest

end

mutual

/-- The value with its kind, for diagnosis. -/
def describe : Props → Text
  | .null => Text.ofString "Null"
  | .bool b => Text.ofString (if b then "Bool(true)" else "Bool(false)")
  | .int n => Text.ofString ("Number(" ++ ToString.toString n ++ ")")
  | .text t => Text.ofString "String(" ++ Text.quoted t ++ [')']
  | .list items => Text.ofString "Array [" ++ separated [',', ' '] (describeItems items) ++ [']']
  | .object fields => Text.ofString "Object \x7b" ++ separated [',', ' '] (describeFields fields) ++ ['\x7d']

/-- The items of a list with their kinds. -/
def describeItems : List Props → List Text
  | [] => []
  | v :: rest => describe v :: describeItems rest

/-- The fields of an object with their kinds. -/
def describeFields : List (Text × Props) → List Text
  | [] => []
  | (k, v) :: rest => (Text.quoted k ++ [':', ' '] ++ describe v) :: describeFields rest

end

end Props

end PathRouting
