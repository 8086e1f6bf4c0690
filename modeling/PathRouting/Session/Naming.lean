import PathRouting.Session.Outlets

/-!
# Naming

Objects get names and lose them. A name that is given again stands for the new object from then on. Taking the name of a
subscription away cancels it, and taking the name of an outlet away ends its observation.
-/

namespace PathRouting

namespace Session

/-- The session with its names changed. -/
def rename (s : Session) (f : Names → Names) : Session := { s with names := f s.names }

/-- Gives a router one more name. -/
def nameRouter (s : Session) (name : Text) (r : Nat) : Session :=
  s.rename (fun names => { names with routers := names.routers.put name r })

/-- Gives a router a name that does not hold it. -/
def nameWeak (s : Session) (name : Text) (r : Nat) : Session :=
  s.rename (fun names => { names with weak := names.weak.put name r })

/-- Gives a resolution a name. -/
def nameSnapshot (s : Session) (name : Text) (id : Nat) : Session :=
  s.rename (fun names => { names with snapshots := names.snapshots.put name id })

/-- Gives a scope a name. -/
def nameScope (s : Session) (name : Text) (scope : Scope) : Session :=
  s.rename (fun names => { names with scopes := names.scopes.put name scope })

/-- Gives a link a name. -/
def nameLink (s : Session) (name : Text) (link : Link) : Session :=
  s.rename (fun names => { names with links := names.links.put name link })

/-- Gives a cell one more name. -/
def nameCell (s : Session) (name : Text) (c : Nat) : Session :=
  s.rename (fun names => { names with cells := names.cells.put name c })

/-- Takes a name away. -/
def drop (s : Session) (kind : Kind) (name : Text) : Session :=
  match kind with
  | .memory => s.rename (fun names => { names with histories := names.histories.erase name })
  | .echo => s.rename (fun names => { names with echoes := names.echoes.erase name })
  | .listeners => s.rename (fun names => { names with registries := names.registries.erase name })
  | .router => s.rename (fun names => { names with routers := names.routers.erase name })
  | .scope => s.rename (fun names => { names with scopes := names.scopes.erase name })
  | .outlet => s.dropOutlet name
  | .link => s.rename (fun names => { names with links := names.links.erase name })
  | .subscription => s.dropSubscription name
  | .state => s.rename (fun names => { names with cells := names.cells.erase name })
  | .snapshot => s.rename (fun names => { names with snapshots := names.snapshots.erase name })

end Session

end PathRouting
