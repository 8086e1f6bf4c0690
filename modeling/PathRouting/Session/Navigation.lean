import PathRouting.Session.Notification

/-!
# Navigation

A router resolves a path and tells its observers; a navigation resolves a path and then adds it to the history. A
navigation that is requested while another one of the same router runs is queued, so that an entry is always added right
after its path was resolved and before the next one is.
-/

namespace PathRouting

namespace Session

/-- Makes a history under a name. -/
def openHistory (s : Session) (name : Text) (announces : Bool) (path : Text) : Session :=
  let place := s.histories.length
  { s with
    histories := s.histories ++ [(⟨.start path, announces, .empty, true⟩ : History)]
    names := if announces then { s.names with echoes := s.names.echoes.put name place }
      else { s.names with histories := s.names.histories.put name place } }

/-- Makes a registry under a name. -/
def openRegistry (s : Session) (name : Text) : Session :=
  { s with
    registries := s.registries ++ [(⟨.empty, true⟩ : BareRegistry)]
    names := { s.names with registries := s.names.registries.put name s.registries.length } }

/-- The session with the outcome of a resolution made the active one of its router. -/
def activate (s : Session) (r : Nat) (found : Option Match) : Session :=
  match found with
  | none => s.withRouter r (fun router => { router with active := none })
  | some m =>
    { s with resolutions := s.resolutions ++ [(⟨r, m⟩ : Resolution)] }.withRouter r
      (fun router => { router with active := some s.resolutions.length })

/-- Makes a router under a name: it reports its routes, resolves the current path of the history and listens to it. -/
def openRouter (s : Session) (name : Text) (h : Nat) (routes : List Route) : Session :=
  match s.histories[h]? with
  | none => s
  | some history =>
    let place := s.routers.length
    let path := history.trail.current
    let found := Route.resolve routes path
    let compiled := routes.mapIdx (fun i route => LogEvent.routeCompiled i route.pattern.display)
    let router : Router := ⟨routes, h, none, .empty, false, [], true⟩
    let added := { s with routers := s.routers ++ [router] }
    let resolved := (added.recordLogs (compiled ++ [LogEvent.routeResolved path found.isSome])).activate place found
    let listening := resolved.withRegistry (.history h) (fun g => g.add (.follow place))
    { listening with names := { listening.names with routers := listening.names.routers.put name place } }.recordLogs
      [.routerReady routes.length]

/-- Replaces the active match of a router by the one that a path resolves to, and starts a round of its observers. -/
def resolve (s : Session) (r : Nat) (path : Text) : Session :=
  match s.routers[r]? with
  | none => s
  | some router =>
    let found := Route.resolve router.routes path
    ((s.recordLogs [.routeResolved path found.isSome]).activate r found).first [.notify (.router r) path]

/-- Adds an entry to a history. One that announces new entries starts a round. -/
def push (s : Session) (h : Nat) (path : Text) : Session :=
  match s.histories[h]? with
  | none => s
  | some history =>
    let pushed := s.withHistory h (fun g => { g with trail := g.trail.push path })
    if history.announces then pushed.first [.notify (.history h) path] else pushed

/-- The trail of a history after a move, if it can move. -/
def moved? (s : Session) (h : Nat) (onward : Bool) : Option Trail :=
  s.histories[h]?.bind (fun history => if onward then history.trail.forward? else history.trail.back?)

/-- Moves the cursor of a history and starts a round with the path it came to, if it can move. -/
def move (s : Session) (h : Nat) (onward : Bool) : Session :=
  match s.moved? h onward with
  | none => s
  | some trail =>
    ((s.withHistory h (fun history => { history with trail := trail })).recordLogs [.historyMoved trail.current]).first
      [.notify (.history h) trail.current]

/-- Navigates a router: resolves a path, adds it to the history, and goes on with what was queued meanwhile. -/
def navigate (s : Session) (r : Nat) (path : Text) : Session :=
  match s.routers[r]? with
  | none => s
  | some router =>
    if router.navigating then
      (s.recordLogs [.navigationQueued path]).withRouter r (fun g => { g with queue := g.queue ++ [path] })
    else
      (s.withRouter r (fun g => { g with navigating := true })).first
        [.resolve r path, .push router.history path, .drain r]

/-- Goes on with the next queued navigation of a router, or ends the navigation. -/
def drain (s : Session) (r : Nat) : Session :=
  match s.routers[r]? with
  | none => s
  | some router =>
    match router.queue with
    | [] => s.withRouter r (fun g => { g with navigating := false })
    | path :: later =>
      (s.withRouter r (fun g => { g with queue := later })).first
        [.resolve r path, .push router.history path, .drain r]

end Session

end PathRouting
