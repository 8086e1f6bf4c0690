import PathRouting.Session.Run

/-!
# What callbacks own

A callback comes from outside, and may own what has a name: a subscription, an outlet, a link, a scope, a router, or anything
else. It goes with the last thing that has it, and what it owned is dropped right then. A callback whose subscription is
released goes while its registry is being changed. A registry that is being changed is not changed again meanwhile: where
something that is dropped then is registered in the same registry, or is the last that holds a router which listens there,
the drop panics, and the registry is left as it was.
-/

namespace PathRouting

namespace Session

/-- The registry of an owner, whether it lives or not. -/
def registryOf? (s : Session) : Owner → Option Registry
  | .history k => (s.histories.map (·.listeners))[k]?
  | .bare b => (s.registries.map (·.listeners))[b]?
  | .router r => (s.routers.map (·.observers))[r]?

/-- The owner lives. -/
def lives (s : Session) : Owner → Bool
  | .history k => s.histories[k]?.any (·.alive)
  | .bare b => s.registries[b]?.any (·.alive)
  | .router r => s.routers[r]?.any (·.alive)

/-- All that have registries. -/
def owners (s : Session) : List Owner :=
  (List.range s.histories.length).map .history ++ (List.range s.registries.length).map .bare
    ++ (List.range s.routers.length).map .router

/-! ## What a task releases -/

/-- The subscription that is held under a name: as such, or by the outlet of the name. -/
def holding? (s : Session) (kind : Kind) (name : Text) : Option Subscription :=
  match kind with
  | .subscription => s.names.subscriptions.get? name
  | .outlet => (s.names.outlets.get? name).bind (fun o =>
      (s.outlets.map (fun g => (g.router, g.observerKey)))[o]?.map (fun stall => ⟨.router stall.1, stall.2⟩))
  | _ => none

/-- The name, with its kind, that a task gives to something new, or takes away. -/
def rebinds? (s : Session) : Task → Option (Kind × Text)
  | .subscribe name owner _ => ( s.registry? owner).map (fun _ => (.subscription, name))
  | .openOutlet name r _ => ( s.registry? (.router r)).map (fun _ => (.outlet, name))
  | .detach name => some (.subscription, name)
  | .drop kind name => some (kind, name)
  | _ => none

/-- The subscription that a task releases: what was held under the name, unless it is detached. -/
def releasedBy? (s : Session) (task : Task) : Option Subscription :=
  match task with
  | .detach _ => none
  | _ => (s.rebinds? task).bind (fun place => s.holding? place.1 place.2)

/-- The subscription that the first task releases. -/
def released? (s : Session) : Option Subscription := s.agenda.head?.bind s.releasedBy?

/-- The histories of the routers that end now, since nothing holds them any more. -/
def endings (s : Session) : List Owner :=
  (s.routers.zipIdx.filter (fun p => p.1.alive && !s.holdsRouter p.2)).map (fun p => .history p.1.history)

/-- Whose registries something is taken from when the first task drops a name: that of the subscription which is released, and
those of the histories that the routers which end listen to. -/
def stripped (s : Session) : List Owner :=
  match s.agenda with
  | .drop kind name :: rest =>
    let popped := { s with agenda := rest }
    (s.released?.map (·.owner)).toList ++ (popped.drop kind name).endings
  | _ => []

/-! ## What has a callback -/

/-- A load that has not ended: it can proceed, or waits for its delivery. -/
def isUnfinished (s : Session) (id : Nat) : Bool :=
  s.pool.ready.contains id || s.pool.spawned.contains id
    || (s.pool.phase != .dropped && s.deliveries.any (fun d => d.waiter == some id))

/-- The first task calls a callback. -/
def isCalling (s : Session) : Bool :=
  match s.agenda with
  | .call _ _ :: _ => true
  | _ => false

end Session

namespace Task

/-- The callbacks that a task still calls. -/
def callbacks : Task → List Callback
  | round _ rest _ => rest.map (·.2)
  | call callback _ => [callback]
  | _ => []

/-- The cells that a task writes. -/
def cells : Task → List Nat
  | write c _ => [c]
  | update c _ => [c]
  | _ => []

end Task

/-- Something with a name that a callback owns. -/
structure Capture where
  kind : Kind
  name : Text
  deriving DecidableEq, Repr

/-- The task that drops what a callback owned. -/
def Capture.task (c : Capture) : Task := .drop c.kind c.name

/-- What goes on for some tasks: a handler is being called, or the registry of an owner is being changed. -/
inductive Activity where
  | calling (index : Nat)
  | changing (owner : Owner)
  deriving DecidableEq, Repr

/-- A registry is being changed. -/
def Activity.isChange : Activity → Bool
  | changing _ => true
  | calling _ => false

/-- Something that goes on, and how many tasks wait until it is over. -/
structure Frame where
  activity : Activity
  waiting : Nat
  deriving DecidableEq, Repr

/-- A session with what its handlers own, and what goes on in it. -/
structure OwningSession where
  session : Session
  captures : List (Nat × Capture)
  frames : List Frame

namespace OwningSession

/-- A session with nothing in it. -/
def empty : OwningSession := ⟨.empty, [], []⟩

/-- The registry of an owner is being changed. -/
def isChanging (e : OwningSession) (owner : Owner) : Bool := e.frames.any (fun f => f.activity == .changing owner)

/-- Some registry is being changed. -/
def isDropping (e : OwningSession) : Bool := e.frames.any (fun f => f.activity.isChange)

/-- A handler is registered with an owner that lives, or whose registry is being changed. -/
def registers (e : OwningSession) (k : Nat) : Bool :=
  e.session.owners.any (fun owner => (e.session.lives owner || e.isChanging owner)
    && (e.session.registryOf? owner).any (fun g => g.entries.any (fun entry => entry.2 == .handler k)))

/-- A handler is being called, or a call or a round that is left calls it. -/
def calls (e : OwningSession) (k : Nat) : Bool :=
  e.frames.any (fun f => f.activity == .calling k)
    || e.session.agenda.any (fun task => task.callbacks.contains (.handler k))

/-- A handler is that of an outlet that has a name, or has a load that has not ended. -/
def shows (e : OwningSession) (k : Nat) : Bool :=
  e.session.outlets.zipIdx.any (fun p => p.1.handler == k
    && (e.session.names.outlets.holds (· == p.2)
      || e.session.loads.zipIdx.any (fun q => q.1.outlet == p.2 && e.session.isUnfinished q.2)))

/-- A handler is that of a cell that has a name, or that a task writes. -/
def stores (e : OwningSession) (k : Nat) : Bool :=
  e.session.cells.zipIdx.any (fun p => p.1.handler == k
    && (e.session.names.cells.holds (· == p.2) || e.session.agenda.any (fun task => task.cells.contains p.2)))

/-- Something has the handler. -/
def has (e : OwningSession) (k : Nat) : Bool := e.registers k || e.calls k || e.shows k || e.stores k

/-- The session in which a handler owns one thing more. -/
def capture (e : OwningSession) (k : Nat) (c : Capture) : OwningSession :=
  { e with captures := e.captures ++ [(k, c)] }

/-- What handlers own that something has. -/
def owned (e : OwningSession) : List (Nat × Capture) := e.captures.filter (fun p => e.has p.1)

/-- What was owned by handlers that nothing has any more, and is owned by no other. -/
def loose (e : OwningSession) : List Capture :=
  ((e.captures.map (·.2)).filter (fun c => !e.owned.any (fun p => p.2 == c))).eraseDups

/-- The tasks that drop what was owned by handlers that nothing has any more. -/
def burial (e : OwningSession) : List Task := e.loose.map Capture.task ++ [.script []]

/-- Drops what was owned by handlers that are gone, before anything else and while some things go on. A callback that is just
being called is called first. -/
def bury (e : OwningSession) (frames : List Frame) : OwningSession :=
  if e.loose = [] ∨ e.session.isCalling then e else ⟨e.session.first e.burial, e.owned, frames ++ e.frames⟩

/-- The call that the first task makes, which goes on until what it leads to is done. -/
def entered (e : OwningSession) : List Frame :=
  match e.session.agenda with
  | .call (.handler k) _ :: rest => [⟨.calling k, rest.length⟩]
  | _ => []

/-- The change of the registry that the first task releases a subscription from, if its owner still lives then. It goes on
until what was owned by the callback is dropped. -/
def changed (e : OwningSession) (t : Session) : List Frame :=
  match e.session.released? with
  | some subscription => if t.lives subscription.owner then [⟨.changing subscription.owner, t.agenda.length⟩] else []
  | none => []

/-- The session after its first task, without what is over by then. -/
def advance (e : OwningSession) (t : Session) : OwningSession :=
  ⟨t, e.captures, (e.entered ++ e.frames).filter (fun f => f.waiting < t.agenda.length)⟩

/-- The session after its first task, in which what was owned by handlers that are gone is dropped next. -/
def settle (e : OwningSession) (t : Session) : OwningSession := (e.advance t).bury (e.changed t)

/-- The first task takes something from a registry that is being changed. -/
def clashes (e : OwningSession) : Bool := e.session.stripped.any e.isChanging

/-- The registry of an owner after a drop that panics: as before if it was being changed, else as the drop leaves it. -/
def left (e : OwningSession) (owner : Owner) (g : Registry) : Registry :=
  if e.isChanging owner then (e.session.registryOf? owner).getD g else g

/-- What a drop that panics leaves: the name is gone, and routers may have ended; but the registries that were being changed
are as before. -/
def abandon (e : OwningSession) (t : Session) : Session :=
  { t with
    histories := t.histories.mapIdx (fun k history => { history with listeners := e.left (.history k) history.listeners })
    registries := t.registries.mapIdx (fun b registry => { registry with listeners := e.left (.bare b) registry.listeners })
    routers := t.routers.mapIdx (fun r router => { router with observers := e.left (.router r) router.observers }) }

end OwningSession

/-- What the first task comes to: the session goes on, or the task panics and leaves a session behind. -/
inductive Turn where
  | goes (e : OwningSession)
  | panics (left : Session)

/-- The session after a turn. -/
def Turn.session : Turn → Session
  | goes e => e.session
  | panics left => left

/-- Does the first task that is left, if there is one. -/
def OwningSession.turn? (e : OwningSession) : Option Turn :=
  e.session.step?.map (fun t => if e.clashes then .panics (e.abandon t) else .goes (e.settle t))

end PathRouting
