import PathRouting.Session.Notification

/-!
# Outlets and loads

An outlet shows the active match of its router. The first time it renders a match it starts to get the props: without a
loader they are the params; else a load is spawned, and the outlet shows nothing until the load was done. A load that is
done applies to its outlet only if the resolution it was started for is still the active one. Loads proceed only when
the pool is run.
-/

namespace PathRouting

namespace Session

/-- Takes the name of an outlet away and ends its observation of the router. -/
def dropOutlet (s : Session) (name : Text) : Session :=
  match s.names.outlets.get? name with
  | none => s
  | some o =>
    let dropped := { s with names := { s.names with outlets := s.names.outlets.erase name } }
    match s.outlets[o]? with
    | none => dropped
    | some outlet => dropped.cancel ⟨.router outlet.router, outlet.observerKey⟩

/-- Makes an outlet of a router under a name. It observes the router from the start. The outlet that had the name is
dropped after that. -/
def openOutlet (s : Session) (name : Text) (r : Nat) (handler : Handler) : Session :=
  match s.registry? (.router r) with
  | none => s
  | some observers =>
    let place := s.outlets.length
    let index := s.handlers.length
    let observing := (s.addHandler handler).withRegistry (.router r) (fun g => g.add (.handler index))
    let outlet : Outlet := ⟨r, observers.nextKey, none, none, index⟩
    let made := { observing with outlets := observing.outlets ++ [outlet] }
    let freed := made.dropOutlet name
    { freed with names := { freed.names with outlets := freed.names.outlets.put name place } }

/-- Spawns a load, unless the pool was dropped. -/
def spawn (s : Session) (load : Load) : Session :=
  if s.pool.phase = .dropped then s.recordLogs [.loadNotSpawned]
  else
    { s with
      loads := s.loads ++ [load]
      pool := { s.pool with spawned := s.pool.spawned ++ [s.loads.length] } }

/-- Calls the loader of a match for an outlet and spawns the load. -/
def beginLoad (s : Session) (o : Nat) (id : Nat) (found : Match) (loader : Loader) : Session :=
  let emptied := s.withOutlet o (fun outlet => { outlet with slot := none })
  match loader.ready? found.params with
  | some value =>
    (emptied.record (.loading found.route found.params none)).spawn ⟨o, id, .ready value⟩
  | none =>
    let n := s.deliveries.length
    { emptied.record (.loading found.route found.params (some n)) with
      deliveries := s.deliveries ++ [(⟨none, none⟩ : Delivery)] }.spawn ⟨o, id, .pending n⟩

/-- Lets an outlet begin to show the active match, unless it does so already. -/
def render (s : Session) (o : Nat) : Session :=
  match s.outlets[o]? with
  | none => s
  | some outlet =>
    match s.activeResolution? outlet.router with
    | none => s
    | some id =>
      if outlet.shown = some id then s
      else
        match s.resolutions[id]? with
        | none => s
        | some resolution =>
          let showing := s.withOutlet o (fun g => { g with shown := some id })
          match (s.routeOf? resolution).bind (·.loader) with
          | none => showing.withOutlet o (fun g => { g with slot := some (.ofParams resolution.found.params) })
          | some loader => showing.beginLoad o id resolution.found loader

/-- Ends a load with its value: applies it, or discards it if its resolution is no longer active. -/
def finish (s : Session) (load : Load) (value : Props) : Session :=
  match s.outlets[load.outlet]? with
  | none => s
  | some outlet =>
    if s.isAlive outlet.router ∧ s.activeResolution? outlet.router = some load.initiator then
      (s.withOutlet load.outlet (fun g => { g with slot := some value })).first [.call (.handler outlet.handler) []]
    else s.recordLogs [.loadDiscarded]

/-- Makes a load wait for its delivery. -/
def wait (s : Session) (n id : Nat) : Session :=
  { s with deliveries := s.deliveries.modify n (fun d => { d with waiter := some id }) }

/-- Lets a load proceed: it ends if its value is there, and waits for it otherwise. -/
def proceed (s : Session) (id : Nat) : Session :=
  match s.loads[id]? with
  | none => s
  | some load =>
    match load.source with
    | .ready value => s.finish load value
    | .pending n =>
      match s.deliveries[n]?.bind (·.value) with
      | some value => s.finish load value
      | none => s.wait n id

/-- Lets the next load proceed. Those that were spawned meanwhile come after all others. -/
def poll (s : Session) : Session :=
  match s.pool.ready ++ s.pool.spawned with
  | [] => { s with pool := ⟨.idle, [], []⟩ }
  | id :: later => ({ s with pool := ⟨.running, later, []⟩ }.first [.poll]).proceed id

/-- Delivers a value. A load that waits for it can proceed. -/
def deliver (s : Session) (n : Nat) (value : Props) : Session :=
  let delivered := { s with deliveries := s.deliveries.modify n (fun _ => ⟨some value, none⟩) }
  match s.deliveries[n]?.bind (·.waiter) with
  | none => delivered
  | some id =>
    if s.pool.phase = .dropped then delivered
    else { delivered with pool := { s.pool with ready := s.pool.ready ++ [id] } }

/-- Drops all loads, for good. A pool that is being run cannot be dropped. -/
def dropPool (s : Session) : Session :=
  if s.pool.phase = .running then s else { s with pool := ⟨.dropped, [], []⟩ }

end Session

end PathRouting
