import Formulary.Machine.Host.Script.Commands

/-!
# Scripts: performing commands

Pipelines, loops and choices. `evaluatorAt` ties the knot: commands and words one level further
inside are evaluated with one level less.
-/

namespace Formulary.Host.Script.Perform

/-! ### Tests -/

/-- Performs a step whose failure has no consequence. -/
def asTest (step : Run Unit) : Run Unit := do
  let testing ← Run.own Local.testing
  Run.modifyOwn fun l => { l with testing := true }
  Run.afterwards step (Run.modifyOwn fun l => { l with testing })

def succeeded : Run Bool := return (← Run.own Local.status) = 0

/-! ### Processes -/

def sequence (ev : Evaluator) (last : Bool) : List Command → Run Unit
  | [] => return ()
  | [c] => ev.run last c
  | c :: rest => do
    ev.run false c
    sequence ev last rest

/-- Starts the stages of a pipeline from left to right, each reading what the one before it writes;
their numbers. The shell keeps a stream open until the stage that reads it has been started. -/
def stages (change : Local → Local) : Option Endpoint → List Command → Run (List Nat)
  | _, [] => return []
  | input, c :: rest => do
    let output ← if rest.isEmpty then pure none else some <$> Run.newPipe
    let connected (l : Local) : Local :=
      let l := match input with
        | some e => l.connect 0 (some e)
        | none => l
      match output with
      | some pipe => l.connect 1 (some (.writeEnd pipe))
      | none => l
    match output with
    | some pipe => Run.modifyOwn fun l => { l with kept := [(0, .readEnd pipe)] :: l.kept }
    | none => pure ()
    let pid ← Run.start (.command c []) fun l =>
      change (connected { l with kept := if output.isSome then l.kept.tail else l.kept })
    let later ← stages change (output.map .readEnd) rest
    if output.isSome then
      Run.modifyOwn fun l => { l with kept := l.kept.tail }
      Run.rouse
    return pid :: later

def pipeline (commands : List Command) : Run Unit := do
  Jobs.forget
  Jobs.finish (← stages id none commands)
  Commands.checkFailure

/-- A process that is not waited for does not care for the signals of a keyboard. -/
def aside (l : Local) : Local := { l with ignored := .interrupt :: .quit :: l.ignored }

/-- Performs a command as the last thing a process does, with redirections that stay. -/
def conclude (ev : Evaluator) (body : Command) (texts : List (Redirection × String)) :
    Run Unit := do
  if ← Redirect.performAll texts then ev.run true body else throw (.fails 2)

/-- Starts a command without waiting for it. It reads nothing, unless it is in the middle of a
pipeline. -/
def background (ev : Evaluator) (body : Command) : Run Unit := do
  Jobs.forget
  let split (body : Command) (texts : List (Redirection × String)) : Run (List Nat) := do
    let pid ← Run.start (.command body texts) fun l => { (aside l).connect 0 (some .sink) with
      testing := false }
    return [pid]
  let pids ← match body with
    | .pipeline commands => stages aside (some .sink) commands
    | .redirected line body redirections => do
      Run.modifyOwn fun l => { l with line }
      split body (← Redirect.expandAll ev redirections)
    | _ => split body []
  Jobs.add pids

/-- Performs a command in a process of its own, or in the present one if that ends with it. -/
def subshell (ev : Evaluator) (last : Bool) (body : Command) (redirections : List Redirection) :
    Run Unit := do
  let texts ← Redirect.expandAll ev redirections
  if last && (← Source.hasNoTraps) then conclude ev body texts
  else
    Jobs.forget
    Jobs.finish [← Run.start (.command body texts) id]
  Commands.checkFailure

/-! ### Loops and choices -/

/-- Performs a step with one more loop around it. -/
def inLoop (step : Run Unit) : Run Unit := do
  Run.modifyOwn fun l => { l with loops := l.loops + 1 }
  Run.afterwards step (Run.modifyOwn fun l => { l with loops := l.loops - 1 })

/-- How a part of a loop comes to its end. -/
inductive Turn where
  /-- It has been performed. -/
  | done
  /-- The loop goes on with its next turn. -/
  | next
  /-- The loop is over. -/
  | over

def turn (step : Run Unit) : Run Turn := do
  match ← Run.caught step with
  | .ok _ => return .done
  | .error (.breakLoop n) => if n ≤ 1 then return .over else throw (.breakLoop (n - 1))
  | .error (.continueLoop n) => if n ≤ 1 then return .next else throw (.continueLoop (n - 1))
  | .error e => throw e

/-- Performs a loop with a test. Its status is that of the last body, or zero. -/
def loop (ev : Evaluator) (untilTrue : Bool) (test body : Command) :
    (fuel : Nat) → (status : Nat) → Run Unit
  | 0, _ => Run.waitFor .never
  | fuel + 1, status => do
    match ← Run.caught (turn (asTest (ev.run false test))) with
    | .ok .done =>
      if (← succeeded) = untilTrue then Run.setStatus status
      else
        match ← turn (ev.run false body) with
        | .over => return ()
        | .done | .next => loop ev untilTrue test body fuel (← Run.own Local.status)
    | .ok .next => loop ev untilTrue test body fuel status
    | .ok .over => Run.setStatus status
    | .error (.returnFrom n) => throw (.returnFrom n)
    | .error e =>
      Run.setStatus status
      throw e

def overValues (ev : Evaluator) (name : String) (body : Command) : List String → Run Unit
  | [] => return ()
  | value :: rest => do
    Run.setVariable name value
    match ← turn (ev.run false body) with
    | .over => return ()
    | .done | .next => overValues ev name body rest

def isEmpty : Command → Bool
  | .sequence [] => true
  | _ => false

/-- Performs a part of a choice, which succeeds if there is nothing in it. -/
def part (ev : Evaluator) (last : Bool) (body : Command) : Run Unit :=
  if isEmpty body then Run.setStatus 0 else ev.run last body

def choose (ev : Evaluator) (last : Bool) (value : List Char) :
    List (List Word × Command) → Run Unit
  | [] => Run.setStatus 0
  | (patterns, body) :: rest => do
    let mut fits := false
    for p in patterns do
      if !fits then fits := Pattern.isMatch (Expand.pattern (← Expand.word ev p)) value
    if fits then part ev last body
    else choose ev last value rest

/-! ### All commands -/

/-- Performs a command. -/
def perform (ev : Evaluator) (last : Bool) : Command → Run Unit
  | .simple line assignments words redirections =>
    Commands.simple ev last line assignments words redirections
  | .sequence commands => sequence ev last commands
  | .pipeline commands => pipeline commands
  | .negated body => do
    asTest (ev.run false body)
    Run.setStatus (if ← succeeded then 1 else 0)
  | .both first second => do
    asTest (ev.run false first)
    if ← succeeded then ev.run last second
  | .either first second => do
    asTest (ev.run false first)
    if !(← succeeded) then ev.run last second
  | .background body => background ev body
  | .subshell line body redirections => do
    Run.modifyOwn fun l => { l with line }
    subshell ev last body redirections
  | .redirected line body redirections => do
    Run.modifyOwn fun l => { l with line }
    let texts ← Redirect.expandAll ev redirections
    let done ← Redirect.keeping redirections do
      if ← Redirect.performAll texts then
        ev.run false body
        return true
      else return false
    if !done then
      Run.setStatus 2
      Commands.checkFailure
  | .conditional test yes no => do
    asTest (ev.run false test)
    if ← succeeded then ev.run last yes else part ev last no
  | .loop untilTrue test body => inLoop (loop ev untilTrue test body Run.mostRepeats 0)
  | .forEach line name words body => do
    Run.modifyOwn fun l => { l with line }
    let values ← match words with
      | some words => Expand.fields ev words
      | none => Run.own Local.params
    if values.isEmpty then Run.setStatus 0
    inLoop (overValues ev name body values)
  | .choice line word arms => do
    Run.modifyOwn fun l => { l with line }
    let value ← Expand.wordText ev word
    choose ev last value.toList arms
  | .define name body => do
    Run.modifyOwn fun l => { l with
      functions := (name, body) :: l.functions.filter fun f => f.1 ≠ name }
    Run.setStatus 0

/-- The evaluator for a depth of nesting. A process that goes deeper than that has used up its
stack. -/
def evaluatorAt : Nat → Evaluator
  | 0 => ⟨fun _ _ => throw (.killed ⟨11⟩), fun _ => throw (.killed ⟨11⟩)⟩
  | depth + 1 =>
    { run := fun last c => do
        Run.spend
        if !(← Run.own fun l => l.settings.readsOnly) then perform (evaluatorAt depth) last c
        Source.attend (evaluatorAt depth) Run.mostSignals
      expand := fun w => Expand.word (evaluatorAt depth) w }

/-- How deep commands are nested when they are performed. -/
def deepestCall : Nat := 20000

end Formulary.Host.Script.Perform
