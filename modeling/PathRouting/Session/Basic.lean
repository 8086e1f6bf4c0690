import PathRouting.Session.Task
import PathRouting.Session.Trail

/-!
# Sessions

The objects that work together while an application runs, the names they have, and the tasks that are left. An object
is known by its place in the list of its kind. Objects are added at the end and never removed, so that a place means
one object for good; the ones that end are marked.
-/

namespace PathRouting

/-- A history: its trail, whether it announces new entries to its listeners, and these. -/
structure History where
  trail : Trail
  announces : Bool
  listeners : Registry
  alive : Bool
  deriving Repr

/-- A registry of listeners that stands alone. -/
structure BareRegistry where
  listeners : Registry
  alive : Bool
  deriving Repr

/-- A router: its routes and history, the resolution that is active, who observes it, and the navigations that were
requested while one is running. -/
structure Router where
  routes : List Route
  history : Nat
  active : Option Nat
  observers : Registry
  navigating : Bool
  queue : List Text
  alive : Bool
  deriving Repr

/-- One outcome of resolving a path on a router. Two resolutions are two things, even with equal outcomes. -/
structure Resolution where
  router : Nat
  found : Match
  deriving DecidableEq, Repr

/-- An outlet: its router, its key among the observers, the resolution it last began to show, the props it shows that one
with once they are ready, and what it calls when it has to be rendered again. -/
structure Outlet where
  router : Nat
  observerKey : Nat
  shown : Option Nat
  slot : Option Props
  handler : Nat
  deriving Repr

/-- Where the value of a load comes from: it is there, or it is to be delivered. -/
inductive LoadSource where
  | ready (value : Props)
  | pending (n : Nat)
  deriving Repr

/-- A load: the outlet it is for, the resolution it was started for, and where its value comes from. -/
structure Load where
  outlet : Nat
  initiator : Nat
  source : LoadSource
  deriving Repr

/-- The delivery of a value: the value once it is delivered, and the load that waits for it. -/
structure Delivery where
  value : Option Props
  waiter : Option Nat
  deriving Repr

/-- What the pool of loads is doing. -/
inductive Phase where
  | idle
  | running
  | dropped
  deriving DecidableEq, Repr

/-- The loads that can proceed, and those that came since the pool last looked. -/
structure Pool where
  phase : Phase
  ready : List Nat
  spawned : List Nat
  deriving DecidableEq, Repr

/-- A value that tells a handler of each write. -/
structure Cell where
  value : Props
  handler : Nat
  deriving Repr

/-- The names of the objects, kind by kind. -/
structure Names where
  histories : Directory Nat
  echoes : Directory Nat
  registries : Directory Nat
  routers : Directory Nat
  weak : Directory Nat
  scopes : Directory Scope
  outlets : Directory Nat
  links : Directory Link
  subscriptions : Directory Subscription
  cells : Directory Nat
  snapshots : Directory Nat
  deriving Repr

/-- A session: its objects, their names, the tasks that are left, what was reported (the latest first), and the last
answer to a step from outside. -/
structure Session where
  histories : List History
  registries : List BareRegistry
  routers : List Router
  resolutions : List Resolution
  outlets : List Outlet
  loads : List Load
  deliveries : List Delivery
  pool : Pool
  cells : List Cell
  handlers : List Handler
  names : Names
  agenda : List Task
  journal : List Event
  answer : Except StepError Answer

/-- No names. -/
def Names.empty : Names := ⟨[], [], [], [], [], [], [], [], [], [], []⟩

namespace Session

/-- A session with a pool and nothing else. -/
def empty : Session :=
  ⟨[], [], [], [], [], [], [], ⟨.idle, [], []⟩, [], [], .empty, [], [], .ok .nothing⟩

/-- The session with tasks before those that are left. -/
def first (s : Session) (tasks : List Task) : Session := { s with agenda := tasks ++ s.agenda }

/-- The session with one more event reported. -/
def record (s : Session) (e : Event) : Session := { s with journal := e :: s.journal }

/-- The session with log events reported in order. -/
def recordLogs (s : Session) (events : List LogEvent) : Session :=
  { s with journal := events.reverse.map .log ++ s.journal }

/-- The session with one history changed. -/
def withHistory (s : Session) (h : Nat) (f : History → History) : Session :=
  { s with histories := s.histories.modify h f }

/-- The session with one router changed. -/
def withRouter (s : Session) (r : Nat) (f : Router → Router) : Session :=
  { s with routers := s.routers.modify r f }

/-- The session with one outlet changed. -/
def withOutlet (s : Session) (o : Nat) (f : Outlet → Outlet) : Session :=
  { s with outlets := s.outlets.modify o f }

/-- The registry of an owner that is alive. -/
def registry? (s : Session) : Owner → Option Registry
  | .history h =>
    match s.histories[h]? with
    | some history => if history.alive then some history.listeners else none
    | none => none
  | .bare b =>
    match s.registries[b]? with
    | some registry => if registry.alive then some registry.listeners else none
    | none => none
  | .router r =>
    match s.routers[r]? with
    | some router => if router.alive then some router.observers else none
    | none => none

/-- The callbacks registered with an owner. -/
def callbacks (s : Session) (owner : Owner) : List (Nat × Callback) :=
  match s.registry? owner with
  | some registry => registry.entries
  | none => []

/-- The session with one registry changed. -/
def withRegistry (s : Session) (owner : Owner) (f : Registry → Registry) : Session :=
  match owner with
  | .history h => s.withHistory h (fun history => { history with listeners := f history.listeners })
  | .bare b =>
    { s with registries := s.registries.modify b (fun registry => { registry with listeners := f registry.listeners }) }
  | .router r => s.withRouter r (fun router => { router with observers := f router.observers })

/-- The callback of a subscription is still registered, with an owner that is alive. -/
def isSubscribed (s : Session) (subscription : Subscription) : Bool :=
  match s.registry? subscription.owner with
  | some registry => registry.contains subscription.key
  | none => false

/-- The session with a subscription cancelled, if nothing is changing its registry just now; else the drop panics, as
`OwningSession.turn?` has it. -/
def cancel (s : Session) (subscription : Subscription) : Session :=
  s.withRegistry subscription.owner (fun registry => registry.remove subscription.key)

/-- The router is alive. -/
def isAlive (s : Session) (r : Nat) : Bool :=
  match s.routers[r]? with
  | some router => router.alive
  | none => false

/-- The resolution that is active on a router. -/
def activeResolution? (s : Session) (r : Nat) : Option Nat := s.routers[r]?.bind (·.active)

/-- The match that is active on a router. -/
def active? (s : Session) (r : Nat) : Option Match :=
  (s.activeResolution? r).bind (fun id => s.resolutions[id]?.map (·.found))

/-- The route of a resolution. -/
def routeOf? (s : Session) (resolution : Resolution) : Option Route :=
  s.routers[resolution.router]?.bind (fun router => router.routes[resolution.found.route]?)

/-- What an outlet shows now: nothing unless a route is active and its props are ready. -/
def viewOf (s : Session) (o : Nat) : Answer :=
  match s.outlets[o]? with
  | none => .nothing
  | some outlet =>
    match s.active? outlet.router, outlet.slot with
    | some found, some props => .view found.route props
    | _, _ => .nothing

/-- The value of a cell. -/
def valueOf (s : Session) (c : Nat) : Props :=
  match s.cells[c]? with
  | some cell => cell.value
  | none => .null

/-- The answer to a question. -/
def query (s : Session) : Query → Answer
  | .settled a => a
  | .activeOf r => .active (s.active? r)
  | .viewOf o => s.viewOf o
  | .valueOf c => .value (s.valueOf c)

end Session

end PathRouting
