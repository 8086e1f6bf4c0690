import PathRouting.Session.Basic
import PathRouting.Text.Quoted

/-!
# Descriptions

The text of an object for diagnosis: its kind and its parts, each with its name.
-/

namespace PathRouting

/-- A truth value as text. -/
def flagText (b : Bool) : String := if b then "true" else "false"

/-- Parts of a description with a name before each, in braces. -/
def describeParts (kind : String) (parts : List (String × String)) : String :=
  kind ++ " \x7b " ++ ", ".intercalate (parts.map (fun part => part.1 ++ ": " ++ part.2)) ++ " \x7d"

/-- Items of a description in brackets. -/
def describeItems (items : List String) : String := "[" ++ ", ".intercalate items ++ "]"

/-- A text in quotes. -/
def quotedText (t : Text) : String := (Text.quoted t).toString

/-- The entries and the cursor of a trail. -/
def Trail.describe (t : Trail) : String :=
  describeParts "Entries" [("stack", describeItems (t.entries.map quotedText)), ("cursor", toString t.cursor)]

/-- A history with its trail and the number of its listeners. -/
def History.describe (h : History) : String :=
  describeParts "MemoryHistory" [("entries", h.trail.describe), ("listeners", toString h.listeners.size)]

/-- A registry with the number of its callbacks. -/
def Registry.describe (g : Registry) : String := describeParts "HistoryListeners" [("len", toString g.size)]

/-- A route with its pattern and whether it has a loader. -/
def Route.describe (route : Route) : String :=
  describeParts "Route" [("pattern", route.pattern.describe), ("has_loader", flagText route.loader.isSome)]

/-- Params in braces. -/
def describeParams (params : Params) : String :=
  "\x7b" ++ ", ".intercalate (params.map (fun p => quotedText p.1 ++ ": " ++ quotedText p.2)) ++ "\x7d"

/-- A subscription with its key. -/
def Subscription.describe (subscription : Subscription) : String :=
  describeParts "Subscription" [("id", toString subscription.key), ("active", "true")]

/-- A scope with its place in the tree. -/
def Scope.describe (scope : Scope) : String :=
  describeParts "Scope" [("provides_router", flagText scope.providesRouter), ("has_parent", flagText scope.hasParent)]

/-- A link with its path. -/
def Link.describe (link : Link) : String := describeParts "RouterLink" [("path", quotedText link.path)]

/-- A cell with its value. -/
def Cell.describe (cell : Cell) : String := "State(" ++ cell.value.describe.toString ++ ")"

/-- What an outlet shows its match with. -/
def describeSlot : Option Props → String
  | none => "Loading"
  | some props => "Ready(" ++ props.describe.toString ++ ")"

namespace Session

/-- A resolution with its route and params. -/
def describeResolution (s : Session) (resolution : Resolution) : String :=
  let route := match s.routeOf? resolution with
    | some route => route.describe
    | none => ""
  describeParts "MatchedRoute" [("route", route), ("params", describeParams resolution.found.params)]

/-- A resolution that may not be there. -/
def describeResolution? (s : Session) (id : Option Nat) : String :=
  match id.bind (fun id => s.resolutions[id]?) with
  | none => "None"
  | some resolution => "Some(" ++ s.describeResolution resolution ++ ")"

/-- A router with its routes, the active resolution and the number of its observers. -/
def describeRouter (s : Session) (router : Router) : String :=
  describeParts "Router" [("routes", describeItems (router.routes.map Route.describe)),
    ("active", s.describeResolution? router.active), ("observers", toString router.observers.size)]

/-- An outlet with the resolution it shows and its props. -/
def describeOutlet (s : Session) (outlet : Outlet) : String :=
  describeParts "RouterOutlet" [("current", s.describeResolution? outlet.shown),
    ("props", "State(" ++ describeSlot outlet.slot ++ ")")]

/-- The description of the object that a name of a kind stands for. -/
def describe? (s : Session) (kind : Kind) (name : Text) : Option String :=
  match kind with
  | .memory => ((s.names.histories.get? name).bind (fun h => s.histories[h]?)).map History.describe
  | .echo => none
  | .listeners =>
    ((s.names.registries.get? name).bind (fun b => s.registries[b]?)).map (fun g => g.listeners.describe)
  | .router => ((s.names.routers.get? name).bind (fun r => s.routers[r]?)).map s.describeRouter
  | .scope => (s.names.scopes.get? name).map Scope.describe
  | .outlet => ((s.names.outlets.get? name).bind (fun o => s.outlets[o]?)).map s.describeOutlet
  | .link => (s.names.links.get? name).map Link.describe
  | .subscription => (s.names.subscriptions.get? name).map Subscription.describe
  | .state => ((s.names.cells.get? name).bind (fun c => s.cells[c]?)).map Cell.describe
  | .snapshot =>
    ((s.names.snapshots.get? name).bind (fun id => s.resolutions[id]?)).map s.describeResolution

end Session

end PathRouting
