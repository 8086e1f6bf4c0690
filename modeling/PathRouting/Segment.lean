import PathRouting.Text.Blank

/-!
# Pattern segments

A route pattern is read segment by segment. A segment names a parameter (`:id`), stands for any one segment (`*`), for
any run of segments (`**`), or for itself. Text outside the literal alphabet stands for itself too, but is reported.
-/

namespace PathRouting

/-- What one segment of a route pattern stands for. -/
inductive Segment where
  | param (name : Text)
  | wildcard
  | glob
  | literal (text : Text)
  | unrecognised (text : Text)
  deriving DecidableEq, Repr

namespace Segment

/-- A parameter name: an ASCII letter, then ASCII letters and digits. -/
def isParamName : Text → Bool
  | [] => false
  | c :: rest => c.isAlpha && rest.all Char.isAlphanum

/-- The literal alphabet: ASCII letters and digits, `_` and `-`. -/
def isLiteralChar (c : Char) : Bool := c.isAlphanum || c == '_' || c == '-'

/-- What a segment without separators stands for. -/
def classify : Text → Segment
  | ['*'] => .wildcard
  | ['*', '*'] => .glob
  | ':' :: name => if isParamName name then .param name else .unrecognised (':' :: name)
  | text => if !text.isEmpty && text.all isLiteralChar then .literal text else .unrecognised text

/-- The segment as it is written in a pattern. -/
def written : Segment → Text
  | .param name => ':' :: name
  | .wildcard => ['*']
  | .glob => ['*', '*']
  | .literal text => text
  | .unrecognised text => text

/-- The text a segment carries: a parameter's name or what it matches, nothing for a wildcard or a glob. -/
def carried : Segment → Text
  | .param name => name
  | .wildcard => []
  | .glob => []
  | .literal text => text
  | .unrecognised text => text

/-- A dynamic segment matches more than one text. -/
def isDynamic : Segment → Bool
  | .param _ => true
  | .wildcard => true
  | .glob => true
  | .literal _ => false
  | .unrecognised _ => false

end Segment

end PathRouting
