import Formulary.Install.Layout
import Formulary.Machine.Disk
import Formulary.Machine.Supervise
import Formulary.Text.Blank

/-!
# Steps after the installation

Completion scripts are asked of an installed program, one for each shell. All scripts of a step are
there before the first of them is written; what earlier steps wrote stays when a later one fails.
-/

namespace Formulary.Install

/-- Where and how steps are performed. -/
structure Setting where
  launch : Launcher
  root : Path
  /-- The program that steps ask unless they name another one. -/
  binary : String
  timeout : Millis

def Setting.programOf (s : Setting) (c : Completions) : Path :=
  (s.root.join "bin").join (c.executable.getD s.binary)

/-- The base of the file names a step writes. -/
def Setting.baseOf (s : Setting) (c : Completions) : String :=
  c.baseName.getD (c.executable.getD s.binary)

def requestArgs (c : Completions) (shell : Shell) : List String :=
  c.subcommand :: c.style.args shell

/-- The failure of a program that has no script for a shell. -/
def unsupported (c : Completions) (shell : Shell) : Failure :=
  .unsupportedStep (Step.completions c).name
    (String.ofList [Char.ofNat 0x60] ++ " ".intercalate (requestArgs c shell) ++
      String.ofList [Char.ofNat 0x60] ++ " emitting a " ++ shell.name ++ " completion script")

def unlaunchable (c : Completions) (program : Path) (e : Fault) : Failure :=
  .unsupportedStep (Step.completions c).name
    ("a launchable executable " ++ program.text ++ " (" ++ e.message ++ ")")

def generate (s : Setting) (c : Completions) (shell : Shell) : Attempt String := do
  let program := s.programOf c
  let output ← Attempt.orFail
    (supervise s.launch
      { program := program.text, args := requestArgs c shell, env := [("SHELL", shell.name)] }
      s.timeout)
    (unlaunchable c program)
  match output.outcome with
  | .cancelled => throw (.cancelled ("post-install " ++ (Step.completions c).name))
  | .timedOut => throw (unsupported c shell)
  | .exited status =>
    if !status.success || Text.blankText output.stdout then throw (unsupported c shell)
    else return output.stdout

/-- Writes scripts to their places. The places written to so far are kept even if one of them
refuses. -/
def writeScripts : List (Path × String) → List Path → Act (List Path × Except Failure Unit)
  | [], written => return (written, .ok ())
  | (p, script) :: rest, written => do
    let prepared ← match p.parent? with
      | some parent => Disk.makeAll parent
      | none => pure (.ok ())
    match prepared with
    | .error e => return (written, .error (Attempt.ioFailure e))
    | .ok _ =>
      match ← Disk.write p (Text.encode script) with
      | .error e => return (written, .error (Attempt.ioFailure e))
      | .ok _ => writeScripts rest (written ++ [p])

def scripts (s : Setting) (c : Completions) : Attempt (List (Path × String)) :=
  c.shells.mapM fun shell => do
    return (shell.completionPath s.root (s.baseOf c), ← generate s c shell)

/-- Performs a step; the places written to are added to those of earlier steps. -/
def perform (s : Setting) (step : Step) (written : List Path) :
    Act (List Path × Except Failure Unit) := do
  match step with
  | .completions c =>
    match ← (scripts s c).run with
    | .error e => return (written, .error e)
    | .ok list => writeScripts list written

/-- Performs steps in their order up to the first that fails. -/
def performAll (s : Setting) : List Step → List Path → Act (List Path × Except Failure Unit)
  | [], written => return (written, .ok ())
  | step :: rest, written => do
    match ← perform s step written with
    | (written, .ok _) => performAll s rest written
    | failed => return failed

/-- Performs all steps: the files written, in order, and how it went. -/
def run (s : Setting) (steps : List Step) : Act (List Path × Except Failure Unit) :=
  performAll s steps []

end Formulary.Install
