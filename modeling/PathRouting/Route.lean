import PathRouting.Pattern
import PathRouting.Props

/-!
# Routes and resolution

A route pairs a compiled pattern with the source of its props. Resolution normalises a path and takes the first route, in
the order of declaration, whose pattern matches it; no route is preferred for being more specific.
-/

namespace PathRouting

/-- Where a route's props come from when they are loaded. -/
inductive Loader where
  /-- The params, under the key `loaded`. -/
  | params
  /-- One value, whatever the params. -/
  | value (v : Props)
  /-- A value that is delivered later. -/
  | deferred
  deriving Repr

/-- A declared route. Without a loader its props are its params. -/
structure Route where
  pattern : Pattern
  loader : Option Loader
  deriving Repr

/-- The outcome of resolution: the index of the first route that matches, and its params. -/
structure Match where
  route : Nat
  params : Params
  deriving DecidableEq, Repr

/-- What a loader yields at once, if it yields anything. -/
def Loader.ready? (params : Params) : Loader → Option Props
  | .params => some (.ofFields [(Text.ofString "loaded", .ofParams params)])
  | .value v => some v
  | .deferred => none

namespace Route

/-- The first match of a normalised path, with `index` the index of the first of these routes. -/
def firstMatch (path : Text) : (index : Nat) → List Route → Option Match
  | _, [] => none
  | index, route :: rest =>
    match route.pattern.matches? path with
    | some params => some ⟨index, params⟩
    | none => firstMatch path (index + 1) rest

/-- The route that a path resolves to. -/
def resolve (routes : List Route) (path : Text) : Option Match := firstMatch (Path.normalize path) 0 routes

/-- The props of a match that need no waiting: what its route's loader yields at once, or the params. -/
def immediateProps (routes : List Route) (m : Match) : Props :=
  let loaded := routes[m.route]?.bind (fun route => route.loader.bind (Loader.ready? m.params))
  loaded.getD (.ofParams m.params)

end Route

end PathRouting
