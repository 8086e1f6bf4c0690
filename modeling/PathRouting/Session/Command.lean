import PathRouting.Route

/-!
# Commands

What a session can be told to do, from outside or by a callback. A command names the objects it works on. A field of it
may be missing or of the wrong kind, which is found out when the field is read, after the objects were looked up.
-/

namespace PathRouting

/-- A field of a command as it was given. -/
inductive Field (α : Type) where
  | absent
  | wrong
  | given (value : α)

/-- When a callback runs its commands: always, or only while a route is active, or while none is. -/
inductive Condition where
  | always
  | matched
  | unmatched
  deriving DecidableEq, Repr

/-- What a loader of a declared route may be given as, and its route path. -/
structure RouteSpec where
  path : Except RegexError (Option RoutePath)
  loader : Field Loader

/-- The kinds of objects that have names. -/
inductive Kind where
  | memory
  | echo
  | listeners
  | router
  | scope
  | outlet
  | link
  | subscription
  | state
  | snapshot
  deriving DecidableEq, Repr

mutual

/-- One thing to do. -/
inductive Step where
  | unknown
  | newMemory (id : Field Text) (initial settings : Field Text)
  | newEcho (id initial : Field Text)
  | push (history path : Field Text)
  | current (history : Field Text)
  | listen (id history : Field Text) (reaction : Reaction)
  | back (history : Field Text)
  | forward (history : Field Text)
  | entries (history : Field Text)
  | echoEntries (history : Field Text)
  | newListeners (id : Field Text)
  | addListener (id listeners : Field Text) (reaction : Reaction)
  | notify (listeners path : Field Text)
  | listenersSize (listeners : Field Text)
  | newRouter (id history : Field Text) (routes : Field (List RouteSpec))
  | navigate (router path : Field Text)
  | setRoute (router path : Field Text)
  | active (router : Field Text)
  | cloneRouter (id router : Field Text)
  | downgrade (id router : Field Text)
  | upgrade (weak : Field Text)
  | routes (router : Field Text)
  | observers (router : Field Text)
  | subscribe (id router : Field Text) (reaction : Reaction)
  | isSubscribed (id : Field Text)
  | unsubscribe (id : Field Text)
  | detach (id : Field Text)
  | snap (id router : Field Text)
  | isActive (router snap : Field Text)
  | compareSnaps (snap other : Field Text)
  | snapInfo (snap : Field Text)
  | newRoot (id : Field Text)
  | newChild (id scope : Field Text)
  | cloneScope (id scope : Field Text)
  | provide (id scope router : Field Text)
  | scopeRouter (scope : Field Text)
  | useRouter (scope consumer : Field Text)
  | newLink (id scope path : Field Text)
  | linkPath (link : Field Text)
  | applyLink (link : Field Text) (anchor : Field Bool) (href : Field Text)
  | click (link : Field Text)
  | newOutlet (id scope : Field Text) (reaction : Reaction)
  | render (outlet : Field Text)
  | props (outlet : Field Text)
  | complete (pending : Field Nat) (value : Field Props)
  | cancelLoad (pending : Field Nat)
  | runLoads
  | dropPool
  | newState (id : Field Text) (value : Field Props) (reaction : Reaction)
  | cloneState (id state : Field Text)
  | readState (state : Field Text)
  | writeState (state : Field Text) (value : Field Props)
  | updateState (state : Field Text) (added : Field Props)
  | inspectState (state : Field Text)
  | drop (kind : Field Kind) (id : Field Text)
  | describe (kind : Field (Option Kind)) (id : Field Text)

/-- What a callback does: the commands it runs, how many times at most, and under which condition. -/
inductive Reaction where
  | mk (script : Field (List Command)) (limit : Field Nat) (condition : Field Condition)

/-- A step with the word it was given as. -/
inductive Command where
  | mk (word : Option Text) (step : Step)

end

/-- The step of a command. -/
def Command.step : Command → Step
  | .mk _ step => step

/-- The word of a command. -/
def Command.word : Command → Option Text
  | .mk word _ => word

/-- Why a step was refused. -/
inductive StepError where
  | noSuch (name : Text)
  | badInput (field : String)
  | badRegex
  | missingContext (consumer : Text)
  | badSettings
  deriving DecidableEq, Repr

/-- The message for a consumer in whose scope no router is provided. -/
def missingContextMessage (consumer : Text) : Text :=
  Text.ofString "Could not find router context for " ++ consumer
    ++ Text.ofString ". Make sure the router is provided in the component tree."

namespace Field

variable {α : Type}

/-- The value of a field that has to be there. -/
def need (f : Field α) (name : String) : Except StepError α :=
  match f with
  | .given value => .ok value
  | _ => .error (.badInput name)

/-- The value of a field that may be missing. -/
def optional (f : Field α) (name : String) : Except StepError (Option α) :=
  match f with
  | .given value => .ok (some value)
  | .absent => .ok none
  | .wrong => .error (.badInput name)

end Field

mutual

/-- A bound on how many commands a step can lead to by the callback it registers. -/
def Step.weight : Step → Nat
  | .listen _ _ reaction => reaction.weight
  | .addListener _ _ reaction => reaction.weight
  | .subscribe _ _ reaction => reaction.weight
  | .newOutlet _ _ reaction => reaction.weight
  | .newState _ _ reaction => reaction.weight
  | _ => 0

/-- A bound on how many commands a callback runs, with all that they lead to. -/
def Reaction.weight : Reaction → Nat
  | .mk script limit _ =>
    (match limit with
      | .given n => n
      | _ => 1) * scriptWeight script

/-- A bound on the commands of a script that may not be there. -/
def scriptWeight : Field (List Command) → Nat
  | .given commands => commandsWeight commands
  | _ => 0

/-- A bound on how many commands some commands lead to, themselves included. -/
def commandsWeight : List Command → Nat
  | [] => 0
  | command :: rest => command.weight + commandsWeight rest

/-- A bound on how many commands a command leads to, itself included. -/
def Command.weight : Command → Nat
  | .mk _ step => 1 + step.weight

end

end PathRouting
