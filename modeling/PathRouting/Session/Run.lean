import PathRouting.Session.Cells
import PathRouting.Session.Liveness
import PathRouting.Session.Naming
import PathRouting.Session.Navigation
import PathRouting.Session.Plan

/-!
# Runs

A session does its first task, ends what is held no longer, and goes on with the next, until no task is left. A step from
outside is one task to begin with; what it leads to is done before the next step from outside.
-/

namespace PathRouting

/-- What a step from outside comes to: its answer, and what was reported while it was done. -/
structure Outcome where
  answer : Except StepError Answer
  events : List Event

namespace Session

/-- Carries out a step: first what it comes to, then its answer. -/
def command (s : Session) (nested : Bool) (c : Command) : Session :=
  let plan := s.plan c.step
  s.first (plan.tasks ++ [.answer nested c.word plan.query])

/-- Answers a step: one inside a callback by an event, one from outside by the answer of the session. -/
def respond (s : Session) (nested : Bool) (word : Option Text) (query : Except StepError Query) : Session :=
  let answer := query.map s.query
  if nested then s.record (.nested word answer) else { s with answer := answer }

/-- Does one task. -/
def perform (s : Session) : Task → Session
  | .command nested c => s.command nested c
  | .script rest => s.script rest
  | .answer nested word query => s.respond nested word query
  | .report events => s.recordLogs events
  | .openHistory name announces path => s.openHistory name announces path
  | .openRegistry name => s.openRegistry name
  | .openRouter name history routes => s.openRouter name history routes
  | .openOutlet name router handler => s.openOutlet name router handler
  | .openCell name value handler => s.openCell name value handler
  | .nameRouter name router => s.nameRouter name router
  | .nameWeak name router => s.nameWeak name router
  | .nameSnapshot name resolution => s.nameSnapshot name resolution
  | .nameScope name scope => s.nameScope name scope
  | .nameLink name link => s.nameLink name link
  | .nameCell name cell => s.nameCell name cell
  | .subscribe name owner handler => s.subscribe name owner handler
  | .detach name => s.forgetSubscription name
  | .drop kind name => s.drop kind name
  | .push history path => s.push history path
  | .move history onward => s.move history onward
  | .notify owner path => s.notify owner path
  | .round owner rest path => s.round owner rest path
  | .call callback path => s.call callback path
  | .navigate router path => s.navigate router path
  | .resolve router path => s.resolve router path
  | .drain router => s.drain router
  | .render outlet => s.render outlet
  | .deliver pending value => s.deliver pending value
  | .poll => s.poll
  | .dropPool => s.dropPool
  | .write cell value => s.write cell value
  | .update cell added => s.update cell added

/-- Does the first task that is left, if there is one, and ends what nothing holds afterwards. -/
def step? (s : Session) : Option Session :=
  match s.agenda with
  | [] => none
  | task :: rest => some (({ s with agenda := rest }.perform task).sweep)

/-- Goes on until no task is left, for a number of tasks at most. -/
def finishTasks : (limit : Nat) → Session → Session
  | 0, s => s
  | limit + 1, s =>
    match s.step? with
    | none => s
    | some next => finishTasks limit next

/-- A bound on the tasks that some commands lead to. With `n` commands and so at most `2 n` registrations, a command leads
to at most one navigation, that to a round of listeners, and each of these to a round of observers. -/
def taskLimit (commands : List Command) : Nat := 8 * Nat.pow (commandsWeight commands + 4) 3

/-- Carries out a step from outside with all that it leads to. -/
def doStep (s : Session) (limit : Nat) (c : Command) : Session :=
  finishTasks limit { s with agenda := [.command false c], journal := [], answer := .ok .nothing }

/-- What the last step from outside came to. -/
def outcome (s : Session) : Outcome := ⟨s.answer, s.journal.reverse⟩

/-- Carries out steps from outside in order. -/
def doSteps (s : Session) (limit : Nat) : List Command → List Outcome
  | [] => []
  | c :: rest =>
    let next := s.doStep limit c
    next.outcome :: doSteps next limit rest

/-- Carries out steps from outside in a new session. -/
def run (commands : List Command) : List Outcome := doSteps empty (taskLimit commands) commands

end Session

end PathRouting
