import PathRouting.Level

/-!
# Log events

What the library reports about its own work. An event is its cause; level, message and fields follow from it.
-/

namespace PathRouting

/-- The value of a field of an event. -/
inductive FieldValue where
  | text (t : Text)
  | number (n : Nat)
  | flag (b : Bool)
  deriving DecidableEq, Repr

/-- Something that is worth a line in the log. -/
inductive LogEvent where
  | unrecognisedSegment (segment pattern : Text)
  | duplicateParam (name pattern : Text)
  | patternRejected (pattern : Text)
  | routeCompiled (index : Nat) (pattern : Text)
  | routeResolved (path : Text) (matched : Bool)
  | routerReady (routes : Nat)
  | navigationQueued (path : Text)
  | historyMoved (path : Text)
  | linkFollowed (path : Text)
  | loadDiscarded
  | loadNotSpawned
  | unknownLevel (name : Text)
  | loggerAlreadyInstalled
  deriving DecidableEq, Repr

namespace LogEvent

/-- How much the event matters. -/
def level : LogEvent → Level
  | .unrecognisedSegment _ _ => .warn
  | .duplicateParam _ _ => .warn
  | .patternRejected _ => .error
  | .routeCompiled _ _ => .debug
  | .routeResolved _ _ => .debug
  | .routerReady _ => .info
  | .navigationQueued _ => .debug
  | .historyMoved _ => .debug
  | .linkFollowed _ => .debug
  | .loadDiscarded => .debug
  | .loadNotSpawned => .error
  | .unknownLevel _ => .warn
  | .loggerAlreadyInstalled => .debug

/-- The message of the event. -/
def message : LogEvent → String
  | .unrecognisedSegment _ _ => "unrecognised route path segment, matching it literally"
  | .duplicateParam _ _ => "duplicate route parameter, later occurrence is not captured by name"
  | .patternRejected _ => "route pattern rejected by the regex engine, falling back to a literal match"
  | .routeCompiled _ _ => "compiled route"
  | .routeResolved _ _ => "resolved route"
  | .routerReady _ => "router ready"
  | .navigationQueued _ => "queueing navigation requested during navigation"
  | .historyMoved _ => "history moved"
  | .linkFollowed _ => "link navigation"
  | .loadDiscarded => "discarding props loaded for a superseded route"
  | .loadNotSpawned => "failed to spawn route loader"
  | .unknownLevel _ => "unknown log level, using info"
  | .loggerAlreadyInstalled => "global subscriber already installed"

/-- The named values of the event. -/
def fields : LogEvent → List (String × FieldValue)
  | .unrecognisedSegment segment pattern => [("segment", .text segment), ("pattern", .text pattern)]
  | .duplicateParam name pattern => [("param", .text name), ("pattern", .text pattern)]
  | .patternRejected pattern => [("pattern", .text pattern)]
  | .routeCompiled index pattern => [("index", .number index), ("pattern", .text pattern)]
  | .routeResolved path matched => [("path", .text path), ("matched", .flag matched)]
  | .routerReady routes => [("routes", .number routes)]
  | .navigationQueued path => [("path", .text path)]
  | .historyMoved path => [("path", .text path)]
  | .linkFollowed path => [("path", .text path)]
  | .loadDiscarded => []
  | .loadNotSpawned => []
  | .unknownLevel name => [("level", .text name)]
  | .loggerAlreadyInstalled => []

end LogEvent

/-- The level of a configured name. A name that picks none stands for `info`, which is reported. -/
def Level.parse (name : Text) : Level × List LogEvent :=
  match Level.parse? name with
  | some level => (level, [])
  | none => (.info, [.unknownLevel name])

/-- What is reported when logging is set up where a logger is installed already: it stays. -/
def installLogger (levelName : Text) : List LogEvent := (Level.parse levelName).2 ++ [.loggerAlreadyInstalled]

end PathRouting
