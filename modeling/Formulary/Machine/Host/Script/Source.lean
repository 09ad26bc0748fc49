import Formulary.Machine.Host.Script.Expand

/-!
# Scripts: texts of commands

The commands of a text are read and performed line by line. Between two commands there is time for
what is to be done at signals; what is to be done at the end comes after the last one.
-/

namespace Formulary.Host.Script.Source

/-! ### Roles -/

/-- Performs a step in which the shell complains in a role. -/
def inRole {α : Type} (role : String) (step : Run α) : Run α := do
  let before ← Run.own Local.role
  Run.modifyOwn fun l => { l with role }
  Run.afterwards step (Run.modifyOwn fun l => { l with role := before })

/-! ### Texts -/

/-- What has been read of a text, between what was left of it and what is left now. -/
def between (before after : Input) : String :=
  String.ofList (before.rest.take (before.rest.length - after.rest.length))

/-- Where the text of commands comes from. -/
inductive Origin where
  /-- From a file, whose lines are shown when they are read, if that is asked for. -/
  | file
  /-- From a word. -/
  | word
  deriving DecidableEq

/-- Performs the commands of a text line by line; tells whether there were any. -/
def runLines (ev : Evaluator) (origin : Origin) : (fuel : Nat) → Bool → Input → Run Bool
  | 0, found, _ => return found
  | fuel + 1, found, i => do
    let l ← Run.own id
    let i := { i with aliases := l.aliases }
    let isShown := origin = .file && l.settings.echoing
    match Read.line?.run i with
    | .error fault =>
      if isShown then Run.complain (String.ofList i.rest)
      Run.modifyOwn fun l => { l with line := fault.line }
      Run.stop ("Syntax error: " ++ fault.reason)
    | .ok (none, after) =>
      if isShown then Run.complain (between i after)
      return found
    | .ok (some c, after) =>
      if isShown then Run.complain (between i after)
      ev.run false c
      runLines ev origin fuel true after

/-- Performs the commands of a text, if there are any. -/
def runText (ev : Evaluator) (origin : Origin) (text : String) : Run Unit := do
  let _ ← runLines ev origin (text.length + 1) false { rest := text.toList }

/-- Performs the commands of a text; the status of the last one, or zero if there are none. -/
def statusOfText (ev : Evaluator) (origin : Origin) (text : String) : Run Nat := do
  if ← runLines ev origin (text.length + 1) false { rest := text.toList } then
    Run.own Local.status
  else return 0

/-! ### Signals and the end -/

/-- Performs what is to be done at a signal and keeps the status. -/
def runTrap (ev : Evaluator) (text : String) : Run Unit := do
  let l ← Run.own id
  let status := l.statusBefore.getD l.status
  Run.modifyOwn fun l => { l with statusBefore := some status }
  runText ev .word text
  Run.modifyOwn fun now => { now with statusBefore := l.statusBefore, status }

/-- Performs what is to be done at the signals that have come. -/
def attend (ev : Evaluator) : (fuel : Nat) → Run Unit
  | 0 => return ()
  | fuel + 1 => do
    if (← get).signals.isEmpty then return ()
    match ← Run.takeTrapped? with
    | none => return ()
    | some (_, text) =>
      runTrap ev text
      attend ev fuel

/-- Nothing is to be done at the end of the process or at signals. -/
def hasNoTraps : Run Bool := Run.own fun l => l.traps.all fun t => t.2 = ""

/-- The status a process leaves with, if it leaves. -/
def leaving? (result : Except Exit Unit) (status : Nat) : Option Nat :=
  match result with
  | .ok _ | .error (.breakLoop _) | .error (.continueLoop _) => some status
  | .error (.leave status) | .error (.fails status) | .error (.returnFrom status) => some status
  | .error (.becomes _) | .error (.killed _) => none

/-- Performs the steps of a process, and at its end what it has asked for. -/
def withExitTrap (ev : Evaluator) (steps : Run Unit) : Run Unit := do
  let result ← Run.caught steps
  let l ← Run.own id
  match leaving? result l.status, result with
  | none, .error e => throw e
  | none, .ok _ => return ()
  | some status, _ =>
    Run.setStatus status
    match l.traps.lookup none with
    | none | some "" => throw (.leave status)
    | some text =>
      Run.modifyOwn fun l => { l with
        traps := l.traps.filter fun t => t.1.isSome
        statusBefore := some status
        role := "" }
      match ← Run.caught (runText ev .word text) with
      | .error (.leave status) => throw (.leave status)
      | .error (.fails status) => throw (.leave status)
      | .error (.killed signal) => throw (.killed signal)
      | .error (.becomes i) => throw (.becomes i)
      | _ => throw (.leave status)

end Formulary.Host.Script.Source
