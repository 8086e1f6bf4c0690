import PathRouting.Session.Basic

/-!
# Liveness

A router lives as long as something holds it: a name, a scope that has a name, an outlet, a link, or a task that is left.
A history lives as long as a name, a router or a task holds it, and a registry that stands alone as long as a name or a
task does. What is held by nothing ends at once, and the listener of a router that ends leaves its history.
-/

namespace PathRouting

/-- The listener of a callback, if it is a router's, is one that lives. -/
def Callback.follows (lives : Nat → Bool) : Callback → Bool
  | .follow router => lives router
  | .handler _ => true

/-- The registry without the listeners of routers that do not live. -/
def Registry.prune (g : Registry) (lives : Nat → Bool) : Registry :=
  ⟨g.nextKey, g.entries.filter (fun entry => entry.2.follows lives)⟩

namespace Session

/-- Something holds the router. -/
def holdsRouter (s : Session) (r : Nat) : Bool :=
  s.names.routers.holds (· == r) || s.names.scopes.holds (fun scope => scope.routers.contains r)
    || s.names.outlets.holds (fun o => s.outlets[o]?.any (fun outlet => outlet.router == r))
    || s.names.links.holds (fun link => link.router == r)
    || s.agenda.any (fun task => task.routers.contains r)

/-- Something holds the history. -/
def holdsHistory (s : Session) (h : Nat) : Bool :=
  s.names.histories.holds (· == h) || s.names.echoes.holds (· == h)
    || s.routers.any (fun router => router.alive && router.history == h)
    || s.agenda.any (fun task => task.histories.contains h)

/-- Something holds the registry. -/
def holdsRegistry (s : Session) (b : Nat) : Bool :=
  s.names.registries.holds (· == b) || s.agenda.any (fun task => task.registries.contains b)

/-- Ends the routers that nothing holds. -/
def endRouters (s : Session) : Session :=
  { s with routers := s.routers.mapIdx (fun r router => { router with alive := router.alive && s.holdsRouter r }) }

/-- Ends the histories that nothing holds, and takes the listeners of ended routers from the others. -/
def endHistories (s : Session) : Session :=
  { s with histories := s.histories.mapIdx (fun h history =>
      { history with listeners := history.listeners.prune s.isAlive, alive := history.alive && s.holdsHistory h }) }

/-- Ends the registries that nothing holds. -/
def endRegistries (s : Session) : Session :=
  { s with registries := s.registries.mapIdx (fun b registry =>
      { registry with alive := registry.alive && s.holdsRegistry b }) }

/-- Ends everything that nothing holds. -/
def sweep (s : Session) : Session := s.endRouters.endHistories.endRegistries

end Session

end PathRouting
