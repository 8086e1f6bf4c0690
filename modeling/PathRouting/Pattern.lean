import Std.Data.TreeSet.Basic
import PathRouting.Expression
import PathRouting.Log
import PathRouting.Path
import PathRouting.Segment
import PathRouting.Text.Quoted

/-!
# Route patterns

A declared route path is compiled once. A raw expression is kept as it is. Pattern syntax is normalised, split into
segments and classified: without a dynamic segment the pattern is a literal path; the patterns `*` and `**` alone match
everything; any other becomes one anchored expression. Compilation never fails; what is odd about a pattern is reported.
-/

namespace PathRouting

/-- A route path as it is declared. -/
inductive RoutePath where
  | pattern (text : Text)
  | expression (e : Expression)
  deriving Repr

/-- A compiled route path. -/
inductive Pattern where
  | literal (path : Text)
  | all
  | expression (e : Expression)
  deriving Repr

/-- A compiled route path with what was reported on the way. -/
structure Compilation where
  pattern : Pattern
  events : List LogEvent
  deriving Repr

namespace Segment

/-- The classified segments of a normalised pattern. White space around a segment does not count. -/
def ofPattern (normalized : Text) : List Segment :=
  (Text.splitAt Path.separator (normalized.drop 1)).map (fun piece => classify (Text.trim piece))

/-- The expression for any one segment. -/
def anySegment : Text := ['[', '^', '/', ']', '+']

/-- The expression for a run of characters of any kind. -/
def anyRun : Text := ['.', '+']

/-- The part of an expression that matches a segment, where `seen` are the parameters to its left: a parameter is
captured by its name the first time only. -/
def fragment (seen : Std.TreeSet Text) : Segment → Text
  | .param name =>
    if seen.contains name then '(' :: anySegment ++ [')']
    else ['(', '?', '<'] ++ name ++ '>' :: anySegment ++ [')']
  | .wildcard => '(' :: anySegment ++ [')']
  | .glob => '(' :: anyRun ++ [')']
  | .literal text => text
  | .unrecognised text => escape text

/-- The parameters seen once a segment has been read too. -/
def declare (seen : Std.TreeSet Text) : Segment → Std.TreeSet Text
  | .param name => seen.insert name
  | _ => seen

/-- The parts of an expression that match some segments. -/
def fragments (seen : Std.TreeSet Text) : List Segment → List Text
  | [] => []
  | s :: rest => s.fragment seen :: fragments (s.declare seen) rest

/-- The occurrences of parameters that have occurred before, in order. -/
def repeatedParams (seen : Std.TreeSet Text) : List Segment → List Text
  | [] => []
  | .param name :: rest =>
    if seen.contains name then name :: repeatedParams seen rest else repeatedParams (seen.insert name) rest
  | _ :: rest => repeatedParams seen rest

/-- The expression for a path of these segments, with an optional separator at its end. -/
def expressionSource (segments : List Segment) : Text :=
  ['^', '/'] ++ Text.joinWith Path.separator (fragments ∅ segments) ++ ['/', '?', '$']

/-- The literal path of segments that are not dynamic. -/
def literalPath (segments : List Segment) : Text :=
  Path.separator :: Text.joinWith Path.separator (segments.map carried)

/-- The text of a segment that is outside the literal alphabet. -/
def unrecognised? : Segment → Option Text
  | .unrecognised text => some text
  | _ => none

end Segment

namespace Pattern

/-- What compiling pattern syntax yields and reports. -/
def compileText (text : Text) : Compilation :=
  let normalized := Path.normalize text
  if normalized = ['/'] then ⟨.literal ['/'], []⟩
  else if normalized = ['/', '*'] ∨ normalized = ['/', '*', '*'] then ⟨.all, []⟩
  else
    let segments := Segment.ofPattern normalized
    let unrecognised := (segments.filterMap Segment.unrecognised?).map (fun s => .unrecognisedSegment s text)
    if segments.any Segment.isDynamic then
      let repeated := (Segment.repeatedParams ∅ segments).map (fun name => .duplicateParam name text)
      match Expression.ofSource (Segment.expressionSource segments) with
      | .ok e => ⟨.expression e, unrecognised ++ repeated⟩
      | .error _ => ⟨.literal normalized, unrecognised ++ repeated ++ [.patternRejected text]⟩
    else ⟨.literal (Segment.literalPath segments), unrecognised⟩

/-- What compiling a declared route path yields and reports. -/
def compile : RoutePath → Compilation
  | .expression e => ⟨.expression e, []⟩
  | .pattern text => compileText text

/-- Compiles declared route paths in order. -/
def compileAll (paths : List RoutePath) : List Pattern × List LogEvent :=
  let compilations := paths.map compile
  (compilations.map (·.pattern), compilations.flatMap (·.events))

/-- Tests a path as it is. The outcome is the named groups that took part in the match. -/
def matches? (p : Pattern) (path : Text) : Option Params :=
  match p with
  | .all => some []
  | .literal l => if l = path then some [] else none
  | .expression e => e.params? path

/-- The pattern needs an expression to match. -/
def isDynamic : Pattern → Bool
  | .expression _ => true
  | _ => false

/-- Two patterns are the same if they have one kind and one text. -/
def same : Pattern → Pattern → Bool
  | .literal a, .literal b => a == b
  | .all, .all => true
  | .expression a, .expression b => a.source == b.source
  | _, _ => false

/-- The pattern as it is shown. -/
def display : Pattern → Text
  | .literal l => l
  | .all => ['*']
  | .expression e => e.source

/-- The pattern with its kind and parts, for diagnosis. -/
def describe : Pattern → String
  | .literal l => "Literal(" ++ (Text.quoted l).toString ++ ")"
  | .all => "MatchAll"
  | .expression e =>
    "Regex \x7b regex: Regex(" ++ (Text.quoted e.source).toString ++ "), param_names: ["
      ++ ", ".intercalate (e.paramNames.map (fun n => (Text.quoted n).toString)) ++ "] \x7d"

end Pattern

end PathRouting
