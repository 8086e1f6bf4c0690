/-!
# Scopes

A scope is a place in a tree through which routers are provided. It knows its parent and never changes, so what it
resolves to is settled when it is made: the router of the nearest scope, itself included, that provides one.
-/

namespace PathRouting

/-- A scope: a root, a child that provides nothing, or a child that provides a router. -/
inductive Scope where
  | root
  | child (parent : Scope)
  | provide (parent : Scope) (router : Nat)
  deriving DecidableEq, Repr

namespace Scope

/-- The router of the nearest scope that provides one. -/
def router? : Scope → Option Nat
  | root => none
  | child parent => parent.router?
  | provide _ router => some router

/-- All routers that the scope and those above it provide. -/
def routers : Scope → List Nat
  | root => []
  | child parent => parent.routers
  | provide parent router => router :: parent.routers

/-- The scope itself provides a router. -/
def providesRouter : Scope → Bool
  | provide _ _ => true
  | _ => false

/-- The scope has a scope above it. -/
def hasParent : Scope → Bool
  | root => false
  | _ => true

end Scope

end PathRouting
