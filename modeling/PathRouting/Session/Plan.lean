import PathRouting.Session.Description
import PathRouting.Session.Navigation
import PathRouting.Settings

/-!
# Plans

A step is turned into the tasks it stands for and the question whose answer is its result. The names in it are looked up
first, in the order they are written, and then its other fields are read; the first that is missing or wrong refuses the
step. A plan changes nothing by itself.
-/

namespace PathRouting

/-- What a step comes to: tasks, and the question that is answered after them. -/
structure Plan where
  tasks : List Task
  query : Except StepError Query

namespace Plan

/-- A step that does nothing but answer. -/
def reply (a : Answer) : Plan := ⟨[], .ok (.settled a)⟩

/-- A step that does one thing and answers nothing. -/
def act (task : Task) : Plan := ⟨[task], .ok (.settled .nothing)⟩

/-- A step that is refused. -/
def refuse (e : StepError) : Plan := ⟨[], .error e⟩

end Plan

/-- The value that a name stands for. -/
def Directory.find {α : Type} (d : Directory α) (name : Text) : Except StepError α :=
  match d.get? name with
  | some value => .ok value
  | none => .error (.noSuch name)

namespace Session

/-- The name of a field and what it stands for. -/
def lookUp {α : Type} (d : Directory α) (f : Field Text) (field : String) : Except StepError α := do
  d.find (← f.need field)

/-- The object that a name in a field stands for. -/
def lookUpIn {α : Type} (objects : List α) (d : Directory Nat) (f : Field Text) (field : String) :
    Except StepError (Nat × α) := do
  let name ← f.need field
  let place ← d.find name
  match objects[place]? with
  | some object => .ok (place, object)
  | none => .error (.noSuch name)

/-- The history that a name in a field stands for, among those of both kinds. -/
def lookUpHistory (s : Session) (f : Field Text) : Except StepError (Nat × History) := do
  let name ← f.need "history"
  let place ← match s.names.histories.get? name with
    | some place => .ok place
    | none => s.names.echoes.find name
  match s.histories[place]? with
  | some history => .ok (place, history)
  | none => .error (.noSuch name)

/-- The history that a name in a field stands for, among those that keep a trail. -/
def lookUpMemory (s : Session) (f : Field Text) : Except StepError (Nat × History) :=
  lookUpIn s.histories s.names.histories f "history"

/-- The registry that a name in a field stands for. -/
def lookUpRegistry (s : Session) (f : Field Text) : Except StepError (Nat × BareRegistry) :=
  lookUpIn s.registries s.names.registries f "listeners"

/-- The router that a name in a field stands for. -/
def lookUpRouter (s : Session) (f : Field Text) : Except StepError (Nat × Router) :=
  lookUpIn s.routers s.names.routers f "router"

/-- The outlet that a name in a field stands for. -/
def lookUpOutlet (s : Session) (f : Field Text) : Except StepError (Nat × Outlet) :=
  lookUpIn s.outlets s.names.outlets f "outlet"

/-- The scope that a name in a field stands for. -/
def lookUpScope (s : Session) (f : Field Text) : Except StepError Scope := lookUp s.names.scopes f "scope"

/-- The link that a name in a field stands for. -/
def lookUpLink (s : Session) (f : Field Text) : Except StepError Link := lookUp s.names.links f "link"

/-- The subscription that a name in a field stands for. -/
def lookUpSubscription (s : Session) (f : Field Text) : Except StepError Subscription :=
  lookUp s.names.subscriptions f "id"

/-- The cell that a name in a field stands for. -/
def lookUpCell (s : Session) (f : Field Text) : Except StepError (Nat × Cell) :=
  lookUpIn s.cells s.names.cells f "state"

/-- The resolution that a name in a field stands for. -/
def lookUpSnapshot (s : Session) (f : Field Text) (field : String) : Except StepError (Nat × Resolution) :=
  lookUpIn s.resolutions s.names.snapshots f field

/-- The pending load of a number that was not delivered yet. -/
def lookUpPending (s : Session) (f : Field Nat) : Except StepError Nat := do
  let n ← f.need "pending"
  match s.deliveries[n]? with
  | some ⟨none, _⟩ => .ok n
  | _ => .error (.noSuch (Text.ofString "pending"))

/-- The host has its pool at hand: it is not being run, and was not dropped. Only then does the host run it or make an outlet,
since it has no spawner to give to the outlet otherwise; an outlet itself takes any spawner, and finds out when it loads. -/
def needPool (s : Session) : Except StepError Unit :=
  if s.pool.phase = .idle then .ok () else .error (.noSuch (Text.ofString "pool"))

/-- The router that a scope resolves to, for a consumer that needs one. -/
def needProvided (scope : Scope) (consumer : Text) : Except StepError Nat :=
  match scope.router? with
  | some r => .ok r
  | none => .error (.missingContext consumer)

/-- The handler that a callback makes, under a name. -/
def handlerOf (name : Text) (signal : Signal) : Reaction → Except StepError Handler
  | .mk script limit condition => do
    let script ← script.optional "then"
    let limit ← limit.optional "limit"
    let condition ← condition.optional "when"
    return ⟨name, signal, script.getD [], limit.getD 1, condition.getD .always, 0⟩

/-- The first name of a router. -/
def routerName? (s : Session) (r : Nat) : Option Text := s.names.routers.firstName? (· == r)

/-- The name of a router that a scope provides, and how many observe it. -/
def providerAnswer (s : Session) (r : Nat) : Answer :=
  .provider (s.routerName? r) (s.callbacks (.router r)).length

/-- The route that a declaration stands for, and what its compilation reports. -/
def declareRoute (spec : RouteSpec) : Except StepError (Pattern × List LogEvent) :=
  match spec.path with
  | .error _ => .error .badRegex
  | .ok none => .error (.badInput "regex")
  | .ok (some path) => .ok ((Pattern.compile path).pattern, (Pattern.compile path).events)

/-- The routes that declarations stand for, and what their compilation reports up to the first that is wrong. -/
def declareRoutes : List RouteSpec → List LogEvent × Except StepError (List Route)
  | [] => ([], .ok [])
  | spec :: rest =>
    match declareRoute spec with
    | .error e => ([], .error e)
    | .ok (pattern, events) =>
      match spec.loader.optional "loader" with
      | .error e => (events, .error e)
      | .ok loader =>
        let (later, routes) := declareRoutes rest
        (events ++ later, routes.map (⟨pattern, loader⟩ :: ·))

/-- Makes a router. Its routes are compiled before anything else is looked at. -/
def planRouter (s : Session) (id history : Field Text) (routes : Field (List RouteSpec)) : Plan :=
  match routes.need "routes" with
  | .error e => .refuse e
  | .ok specs =>
    let (events, declared) := declareRoutes specs
    let opened : Except StepError (Task × Query) := do
      let routes ← declared
      let (h, _) ← s.lookUpHistory history
      return (.openRouter (← id.need "id") h routes, .activeOf s.routers.length)
    match opened with
    | .error e => ⟨[.report events], .error e⟩
    | .ok (task, query) => ⟨[.report events, task], .ok query⟩

/-- The path that an in-memory history starts at: the one that is given, else the configured one, else the root. -/
def initialPath (initial settings : Field Text) : Except StepError Text := do
  match ← initial.optional "initial" with
  | some path => return path
  | none =>
    match ← settings.optional "toml" with
    | none => return Path.root
    | some document =>
      match Settings.parse document with
      | .ok settings => return settings.initialPath
      | .error _ => throw .badSettings

/-- Two snapshots are equal if their routes are one route and their params are equal. They are the same if they are one
resolution. -/
def compareSnapshots (a b : Nat × Resolution) : Answer := .comparison (a.2 == b.2) (a.1 == b.1)

/-- A snapshot as it is shown: its params as props, its pattern, and the view with these props. -/
def snapshotAnswer (s : Session) (resolution : Resolution) : Answer :=
  match s.routeOf? resolution with
  | none => .nothing
  | some route => .snapshot (.ofParams resolution.found.params) route.pattern resolution.found.route

/-- Takes away a name of a kind. -/
def planDrop (s : Session) (kind : Kind) (name : Text) : Except StepError Plan := do
  match kind with
  | .memory => discard (s.names.histories.find name)
  | .echo => discard (s.names.echoes.find name)
  | .listeners => discard (s.names.registries.find name)
  | .router => discard (s.names.routers.find name)
  | .scope => discard (s.names.scopes.find name)
  | .outlet => discard (s.names.outlets.find name)
  | .link => discard (s.names.links.find name)
  | .subscription => discard (s.names.subscriptions.find name)
  | .state => discard (s.names.cells.find name)
  | .snapshot => discard (s.names.snapshots.find name)
  return .act (.drop kind name)

/-- What a step comes to, unless it is refused. -/
def planned (s : Session) : Step → Except StepError Plan
  | .unknown => .error (.badInput "do")
  | .newMemory id initial settings => do
    let name ← id.need "id"
    return .act (.openHistory name false (← initialPath initial settings))
  | .newEcho id initial => do
    let name ← id.need "id"
    return .act (.openHistory name true (← initial.need "initial"))
  | .push history path => do
    let (h, _) ← s.lookUpHistory history
    return .act (.push h (← path.need "path"))
  | .current history => do
    let (_, found) ← s.lookUpHistory history
    return .reply (.text found.trail.current)
  | .listen id history reaction => do
    let (h, _) ← s.lookUpHistory history
    let name ← id.need "id"
    return .act (.subscribe name (.history h) (← handlerOf name .heard reaction))
  | .back history => do
    let (h, _) ← s.lookUpMemory history
    return ⟨[.move h false], .ok (.settled (.flag (s.moved? h false).isSome))⟩
  | .forward history => do
    let (h, _) ← s.lookUpMemory history
    return ⟨[.move h true], .ok (.settled (.flag (s.moved? h true).isSome))⟩
  | .entries history => do
    let (_, found) ← s.lookUpMemory history
    return .reply (.entries found.trail.entries found.trail.current found.listeners.size)
  | .echoEntries history => do
    let (_, found) ← lookUpIn s.histories s.names.echoes history "history"
    return .reply (.log found.trail.entries found.listeners.size)
  | .newListeners id => return .act (.openRegistry (← id.need "id"))
  | .addListener id listeners reaction => do
    let (b, _) ← s.lookUpRegistry listeners
    let name ← id.need "id"
    return .act (.subscribe name (.bare b) (← handlerOf name .heard reaction))
  | .notify listeners path => do
    let (b, _) ← s.lookUpRegistry listeners
    return .act (.notify (.bare b) (← path.need "path"))
  | .listenersSize listeners => do
    let (_, registry) ← s.lookUpRegistry listeners
    return .reply (.size registry.listeners.size)
  | .newRouter id history routes => return s.planRouter id history routes
  | .navigate router path => do
    let (r, _) ← s.lookUpRouter router
    return ⟨[.navigate r (← path.need "path")], .ok (.activeOf r)⟩
  | .setRoute router path => do
    let (r, _) ← s.lookUpRouter router
    return ⟨[.resolve r (← path.need "path")], .ok (.activeOf r)⟩
  | .active router => do
    let (r, _) ← s.lookUpRouter router
    return .reply (.active (s.active? r))
  | .cloneRouter id router => do
    let (r, _) ← s.lookUpRouter router
    return .act (.nameRouter (← id.need "id") r)
  | .downgrade id router => do
    let (r, _) ← s.lookUpRouter router
    return .act (.nameWeak (← id.need "id") r)
  | .upgrade weak => do
    let r ← lookUp s.names.weak weak "weak"
    return .reply (if s.isAlive r then .handle (s.routerName? r) (s.active? r) else .nothing)
  | .routes router => do
    let (_, found) ← s.lookUpRouter router
    return .reply (.routes found.routes)
  | .observers router => do
    let (_, found) ← s.lookUpRouter router
    return .reply (.count found.observers.size)
  | .subscribe id router reaction => do
    let (r, _) ← s.lookUpRouter router
    let name ← id.need "id"
    return .act (.subscribe name (.router r) (← handlerOf name (.fired r) reaction))
  | .isSubscribed id => do
    let subscription ← s.lookUpSubscription id
    return .reply (.flag (s.isSubscribed subscription))
  | .unsubscribe id => do
    let _ ← s.lookUpSubscription id
    return .act (.drop .subscription (← id.need "id"))
  | .detach id => do
    let _ ← s.lookUpSubscription id
    return .act (.detach (← id.need "id"))
  | .snap id router => do
    let (_, found) ← s.lookUpRouter router
    let name ← id.need "id"
    match found.active with
    | none => return .reply (.flag false)
    | some resolution => return ⟨[.nameSnapshot name resolution], .ok (.settled (.flag true))⟩
  | .isActive router snap => do
    let (_, found) ← s.lookUpRouter router
    let (resolution, _) ← s.lookUpSnapshot snap "snap"
    return .reply (.flag (found.active == some resolution))
  | .compareSnaps snap other => do
    let a ← s.lookUpSnapshot snap "snap"
    let b ← s.lookUpSnapshot other "other"
    return .reply (compareSnapshots a b)
  | .snapInfo snap => do
    let (_, resolution) ← s.lookUpSnapshot snap "snap"
    return .reply (s.snapshotAnswer resolution)
  | .newRoot id => return .act (.nameScope (← id.need "id") .root)
  | .newChild id scope => do
    let parent ← s.lookUpScope scope
    return .act (.nameScope (← id.need "id") (.child parent))
  | .cloneScope id scope => do
    let found ← s.lookUpScope scope
    return .act (.nameScope (← id.need "id") found)
  | .provide id scope router => do
    let parent ← s.lookUpScope scope
    let (r, _) ← s.lookUpRouter router
    return .act (.nameScope (← id.need "id") (.provide parent r))
  | .scopeRouter scope => do
    let found ← s.lookUpScope scope
    match found.router? with
    | none => return .reply .nothing
    | some r => return .reply (s.providerAnswer r)
  | .useRouter scope consumer => do
    let found ← s.lookUpScope scope
    return .reply (s.providerAnswer (← needProvided found (← consumer.need "consumer")))
  | .newLink id scope path => do
    let found ← s.lookUpScope scope
    let name ← id.need "id"
    let path ← path.need "path"
    return .act (.nameLink name ⟨← needProvided found (Text.ofString "RouterLink"), path⟩)
  | .linkPath link => do
    let found ← s.lookUpLink link
    return .reply (.text found.path)
  | .applyLink link anchor href => do
    let found ← s.lookUpLink link
    let isAnchor ← anchor.need "anchor"
    let before ← href.optional "href"
    match if isAnchor then some found.path else before with
    | some href => return .reply (.text href)
    | none => return .reply .nothing
  | .click link => do
    let found ← s.lookUpLink link
    return ⟨[.report [.linkFollowed found.path], .navigate found.router found.path], .ok (.settled .suppressed)⟩
  | .newOutlet id scope reaction => do
    let found ← s.lookUpScope scope
    s.needPool
    let name ← id.need "id"
    let handler ← handlerOf name .invalidated reaction
    return .act (.openOutlet name (← needProvided found (Text.ofString "RouterOutlet")) handler)
  | .render outlet => do
    let (o, _) ← s.lookUpOutlet outlet
    return ⟨[.render o], .ok (.viewOf o)⟩
  | .props outlet => do
    let (_, found) ← s.lookUpOutlet outlet
    return .reply (.slot found.slot)
  | .complete pending value => do
    let n ← s.lookUpPending pending
    return .act (.deliver n (← value.need "value"))
  | .cancelLoad pending => return .act (.deliver (← s.lookUpPending pending) .null)
  | .runLoads => do
    s.needPool
    return .act .poll
  | .dropPool => return .act .dropPool
  | .newState id value reaction => do
    let name ← id.need "id"
    let value ← value.need "value"
    return .act (.openCell name value (← handlerOf name .changed reaction))
  | .cloneState id state => do
    let (c, _) ← s.lookUpCell state
    return .act (.nameCell (← id.need "id") c)
  | .readState state => do
    let (_, cell) ← s.lookUpCell state
    return .reply (.value cell.value)
  | .writeState state value => do
    let (c, _) ← s.lookUpCell state
    return .act (.write c (← value.need "value"))
  | .updateState state added => do
    let (c, _) ← s.lookUpCell state
    return ⟨[.update c (← added.need "with")], .ok (.valueOf c)⟩
  | .inspectState state => do
    let (_, cell) ← s.lookUpCell state
    return .reply (.inspection cell.value.isNull cell.value.interchange)
  | .drop kind id => do
    let kind ← kind.need "kind"
    s.planDrop kind (← id.need "id")
  | .describe kind id => do
    let kind ← kind.need "kind"
    let name ← id.need "id"
    match kind.bind (fun kind => s.describe? kind name) with
    | some text => return .reply (.text (Text.ofString text))
    | none => throw (.noSuch name)

/-- What a step comes to. -/
def plan (s : Session) (step : Step) : Plan :=
  match s.planned step with
  | .ok plan => plan
  | .error e => .refuse e

end Session

end PathRouting
