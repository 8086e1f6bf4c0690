import PathRouting.Session.Command
import PathRouting.Session.Registry
import PathRouting.Session.Scope

/-!
# Tasks

What a session does, one thing after another. A task names the objects it works on by their places, never by name, and
does one indivisible change; whatever it leads to are further tasks. Calls between objects nest, so the tasks that are
left form a stack: what a task leads to comes before what was waiting.
-/

namespace PathRouting

/-- What calls a handler: a history or registry, the rounds of a router, a change of what an outlet shows, or a write. -/
inductive Signal where
  | heard
  | fired (router : Nat)
  | invalidated
  | changed
  deriving DecidableEq, Repr

/-- A callback given from outside: the name it is reported under, what it runs, and how often it ran it. What it owns besides
is an entry of `OwningSession.captures`. -/
structure Handler where
  name : Text
  signal : Signal
  script : List Command
  limit : Nat
  condition : Condition
  runs : Nat

/-- The condition holds when a route is active, or when none is. -/
def Condition.holds : Condition → (active : Bool) → Bool
  | .always, _ => true
  | .matched, active => active
  | .unmatched, active => !active

/-- The result of a step. -/
inductive Answer where
  | nothing
  | flag (b : Bool)
  | text (t : Text)
  | value (v : Props)
  | count (n : Nat)
  | size (n : Nat)
  | active (found : Option Match)
  | entries (paths : List Text) (current : Text) (listeners : Nat)
  | log (paths : List Text) (listeners : Nat)
  | handle (router : Option Text) (active : Option Match)
  | provider (router : Option Text) (observers : Nat)
  | routes (routes : List Route)
  | comparison (equal same : Bool)
  | snapshot (props : Props) (pattern : Pattern) (route : Nat)
  | view (route : Nat) (props : Props)
  | slot (props : Option Props)
  | inspection (isNull : Bool) (document : Text)
  | suppressed
  deriving Repr

/-- What a step answers when all that it leads to is done: something settled before, or the active match of a router, what
an outlet shows, or the value of a cell at that moment. -/
inductive Query where
  | settled (a : Answer)
  | activeOf (router : Nat)
  | viewOf (outlet : Nat)
  | valueOf (cell : Nat)

/-- Something a session reports while a step is done. -/
inductive Event where
  | log (e : LogEvent)
  | heard (name path : Text)
  | fired (name : Text) (active : Option Match)
  | invalidated (name : Text)
  | changed (name : Text)
  | loading (route : Nat) (params : Params) (pending : Option Nat)
  | nested (word : Option Text) (answer : Except StepError Answer)

/-- A link: the router it navigates and the path it navigates to. -/
structure Link where
  router : Nat
  path : Text
  deriving DecidableEq, Repr

/-- One thing that a session does. -/
inductive Task where
  /-- Carries out a step. One inside a callback reports its answer. -/
  | command (nested : Bool) (c : Command)
  /-- Carries out the steps of a callback. -/
  | script (rest : List Command)
  /-- Answers a step. -/
  | answer (nested : Bool) (word : Option Text) (query : Except StepError Query)
  /-- Reports log events. -/
  | report (events : List LogEvent)
  /-- Makes a history under a name. -/
  | openHistory (name : Text) (announces : Bool) (path : Text)
  /-- Makes a registry under a name. -/
  | openRegistry (name : Text)
  /-- Makes a router over a history under a name. -/
  | openRouter (name : Text) (history : Nat) (routes : List Route)
  /-- Makes an outlet of a router under a name. -/
  | openOutlet (name : Text) (router : Nat) (handler : Handler)
  /-- Makes a cell under a name. -/
  | openCell (name : Text) (value : Props) (handler : Handler)
  /-- Gives a router one more name. -/
  | nameRouter (name : Text) (router : Nat)
  /-- Gives a router a name that does not hold it. -/
  | nameWeak (name : Text) (router : Nat)
  /-- Gives a resolution a name. -/
  | nameSnapshot (name : Text) (resolution : Nat)
  /-- Gives a scope a name. -/
  | nameScope (name : Text) (scope : Scope)
  /-- Gives a link a name. -/
  | nameLink (name : Text) (link : Link)
  /-- Gives a cell one more name. -/
  | nameCell (name : Text) (cell : Nat)
  /-- Registers a handler and names the subscription. -/
  | subscribe (name : Text) (owner : Owner) (handler : Handler)
  /-- Gives a subscription up without cancelling it. -/
  | detach (name : Text)
  /-- Takes a name away. -/
  | drop (kind : Kind) (name : Text)
  /-- Adds an entry to a history. -/
  | push (history : Nat) (path : Text)
  /-- Moves the cursor of a history. -/
  | move (history : Nat) (onward : Bool)
  /-- Starts a round of notification. -/
  | notify (owner : Owner) (path : Text)
  /-- Calls the callbacks of a round that were not called yet. -/
  | round (owner : Owner) (rest : List (Nat × Callback)) (path : Text)
  /-- Calls a callback. -/
  | call (callback : Callback) (path : Text)
  /-- Navigates a router, or queues the navigation while another one runs. -/
  | navigate (router : Nat) (path : Text)
  /-- Replaces the active match of a router. -/
  | resolve (router : Nat) (path : Text)
  /-- Goes on with the queued navigations of a router. -/
  | drain (router : Nat)
  /-- Starts the load of an outlet if it does not show the active match. -/
  | render (outlet : Nat)
  /-- Delivers the value of a pending load. -/
  | deliver (pending : Nat) (value : Props)
  /-- Runs the loads that can proceed. -/
  | poll
  /-- Drops all loads. -/
  | dropPool
  /-- Writes a cell. -/
  | write (cell : Nat) (value : Props)
  /-- Writes a cell with what is added to its value. -/
  | update (cell : Nat) (added : Props)

namespace Query

/-- The routers that are held until the question is answered. -/
def routers : Query → List Nat
  | activeOf router => [router]
  | _ => []

end Query

namespace Task

/-- The routers that a task holds until it is done. -/
def routers : Task → List Nat
  | answer _ _ (.ok query) => query.routers
  | openOutlet _ router _ => [router]
  | nameRouter _ router => [router]
  | nameScope _ scope => scope.routers
  | nameLink _ link => [link.router]
  | subscribe _ (.router router) _ => [router]
  | notify (.router router) _ => [router]
  | round (.router router) _ _ => [router]
  | navigate router _ => [router]
  | resolve router _ => [router]
  | drain router => [router]
  | _ => []

/-- The histories that a task holds until it is done. -/
def histories : Task → List Nat
  | openRouter _ history _ => [history]
  | subscribe _ (.history history) _ => [history]
  | push history _ => [history]
  | move history _ => [history]
  | notify (.history history) _ => [history]
  | round (.history history) _ _ => [history]
  | _ => []

/-- The registries that a task holds until it is done. -/
def registries : Task → List Nat
  | subscribe _ (.bare registry) _ => [registry]
  | notify (.bare registry) _ => [registry]
  | round (.bare registry) _ _ => [registry]
  | _ => []

end Task

end PathRouting
