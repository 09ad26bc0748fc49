import Formulary.Machine.Host.Script.Expand

/-!
# Scripts: redirections

Descriptors are connected to files, to one another or to texts of the script, for one command or
from now on.
-/

namespace Formulary.Host.Script.Redirect

def fdOf : Redirection → Nat
  | .input fd _ | .output fd _ _ | .change fd _ | .copy fd _ | .here fd _ => fd

def wordOf : Redirection → Word
  | .input _ w | .output _ _ w | .change _ w | .copy _ w | .here _ w => w

def expandAll (ev : Evaluator) : List Redirection → Run (List (Redirection × String))
  | [] => return []
  | r :: rest => do
    let text ← Expand.wordText ev (wordOf r)
    return (r, text) :: (← expandAll ev rest)

/-- Complains about a file that cannot be opened. -/
def openFault (what path missing : String) (e : Fault) : Run Bool := do
  let reason := match e with
    | .noEntry | .notDirectory => missing
    | e => e.words
  Run.protest ("cannot " ++ what ++ " " ++ path ++ ": " ++ reason)
  return false

/-- Connects a descriptor to what a path leads to. -/
def openAt (fd : Nat) (path : String) (how : Run.Opening) : Run Bool := do
  match ← Run.openPath path how with
  | .error e =>
    if how = .reading then openFault "open" path "No such file" e
    else openFault "create" path "Directory nonexistent" e
  | .ok e =>
    Run.modifyOwn (·.connect fd (some e))
    Run.rouse
    return true

/-- There is a file like any other at a path. -/
def isThere (path : String) : Run Bool := do
  let s ← get
  return s.files.isFile s.own.cwd ⟨Text.ofOctets path⟩

/-- Performs one redirection; false if it is not possible. -/
def perform (r : Redirection) (text : String) : Run Bool := do
  match r with
  | .input fd _ => openAt fd text .reading
  | .change fd _ => openAt fd text .changing
  | .output fd .append _ => openAt fd text .appending
  | .output fd .empty _ => openAt fd text .emptying
  | .output fd .careful _ =>
    if (← Run.own fun l => l.settings.keepsFiles) && (← isThere text) then
      openFault "create" text "" .exists
    else openAt fd text .emptying
  | .here fd _ =>
    let e ← Run.newText text
    Run.modifyOwn (·.connect fd (some e))
    return true
  | .copy fd _ =>
    match text.toList with
    | ['-'] =>
      Run.close fd
      return true
    | [c] =>
      if !c.isDigit then Run.stop "Syntax error: Bad fd number"
      match ← Run.endpoint? (c.toNat - '0'.toNat) with
      | some e =>
        Run.modifyOwn (·.connect fd (some e))
        Run.rouse
        return true
      | none =>
        Run.protest (text ++ ": " ++ Fault.badDescriptor.words)
        return false
    | _ => Run.stop "Syntax error: Bad fd number"

/-- Performs redirections, up to the first that is not possible. -/
def performAll : List (Redirection × String) → Run Bool
  | [] => return true
  | (r, text) :: rest => do if ← perform r text then performAll rest else return false

def restore (before : List (Nat × Option Endpoint)) : Run Unit := do
  Run.modifyOwn fun l =>
    { before.foldl (fun l (fd, e) => l.connect fd e) l with kept := l.kept.tail }
  Run.rouse

/-- Performs a step and connects the descriptors of redirections as they were afterwards, which are
kept open meanwhile. A process that becomes another program does not come back to that. -/
def keeping {α : Type} (rs : List Redirection) (step : Run α) : Run α := do
  if rs.isEmpty then return ← step
  let l ← Run.own id
  let before := (rs.map fdOf).eraseDups.map fun fd => (fd, l.endpoints.lookup fd)
  let kept := before.filterMap fun (fd, e) => e.map (fd, ·)
  Run.modifyOwn fun l => { l with kept := kept :: l.kept }
  match ← Run.caught step with
  | .error (.becomes i) => throw (.becomes i)
  | result =>
    restore before
    match result with
    | .ok a => return a
    | .error e => throw e

end Formulary.Host.Script.Redirect
