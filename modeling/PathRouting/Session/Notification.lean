import PathRouting.Session.Basic

/-!
# Notification

A round calls the callbacks that were registered when it started, in the order of registration, whatever happens to the
registrations meanwhile. A callback may lead to anything, further rounds included, before the next one is called.
-/

namespace PathRouting

namespace Session

/-- The session with one more handler. Its place is the number of handlers before. -/
def addHandler (s : Session) (handler : Handler) : Session := { s with handlers := s.handlers ++ [handler] }

/-- Registers a callback with an owner and names the subscription. The subscription that had the name is cancelled. -/
def subscribe (s : Session) (name : Text) (owner : Owner) (handler : Handler) : Session :=
  match s.registry? owner with
  | none => s
  | some registry =>
    let registered := (s.addHandler handler).withRegistry owner (fun g => g.add (.handler s.handlers.length))
    let stored := { registered with names := { registered.names with
      subscriptions := registered.names.subscriptions.put name ⟨owner, registry.nextKey⟩ } }
    match s.names.subscriptions.get? name with
    | none => stored
    | some previous => stored.cancel previous

/-- Takes the name of a subscription away. -/
def forgetSubscription (s : Session) (name : Text) : Session :=
  { s with names := { s.names with subscriptions := s.names.subscriptions.erase name } }

/-- Cancels a subscription and takes its name away. -/
def dropSubscription (s : Session) (name : Text) : Session :=
  match s.names.subscriptions.get? name with
  | none => s
  | some subscription => (s.forgetSubscription name).cancel subscription

/-- Starts a round: who is registered now is called. -/
def notify (s : Session) (owner : Owner) (path : Text) : Session := s.first [.round owner (s.callbacks owner) path]

/-- Goes on with a round. The owner is held until the last callback is done. -/
def round (s : Session) (owner : Owner) (rest : List (Nat × Callback)) (path : Text) : Session :=
  match rest with
  | [] => s
  | entry :: later => s.first [.call entry.2 path, .round owner later path]

/-- Runs the script of a handler, unless it has none, was run as often as allowed, or its condition does not hold. -/
def react (s : Session) (index : Nat) (handler : Handler) (holds : Bool) : Session :=
  if !handler.script.isEmpty && holds && handler.runs < handler.limit then
    { s with handlers := s.handlers.modify index (fun h => { h with runs := h.runs + 1 }) }.first
      [.script handler.script]
  else s

/-- Calls a handler: it reports that it was called and then reacts. An observer of a router that has ended does nothing. -/
def callHandler (s : Session) (index : Nat) (path : Text) : Session :=
  match s.handlers[index]? with
  | none => s
  | some handler =>
    match handler.signal with
    | .heard => (s.record (.heard handler.name path)).react index handler true
    | .invalidated => (s.record (.invalidated handler.name)).react index handler true
    | .changed => (s.record (.changed handler.name)).react index handler true
    | .fired router =>
      if s.isAlive router then
        let active := s.active? router
        (s.record (.fired handler.name active)).react index handler (handler.condition.holds active.isSome)
      else s

/-- Calls a callback. The listener of a router resolves the path on it, if it is alive. -/
def call (s : Session) (callback : Callback) (path : Text) : Session :=
  match callback with
  | .follow router => if s.isAlive router then s.first [.resolve router path] else s
  | .handler index => s.callHandler index path

/-- Carries out the next step of a script. -/
def script (s : Session) : List Command → Session
  | [] => s
  | c :: rest => s.first [.command true c, .script rest]

end Session

end PathRouting
