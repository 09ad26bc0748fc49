import Formulary.Machine.World
import Formulary.Pipeline

/-!
# Transcripts

What a command says while it acts on the world, and how it ends: with an exit code, which a refusal
settles at once.
-/

namespace Formulary.CommandLine

/-- What was said. -/
structure Transcript where
  stdout : String := ""
  stderr : String := ""
  deriving DecidableEq

/-- The course of a command. It may end early with an exit code. -/
abbrev Work := ExceptT Nat (StateT Transcript Act)

namespace Work

def write (text : String) : Work Unit :=
  modifyThe Transcript fun t => { t with stdout := t.stdout ++ text }

def protest (text : String) : Work Unit :=
  modifyThe Transcript fun t => { t with stderr := t.stderr ++ text }

def say (line : String) : Work Unit := write (line ++ "\n")

def complain (line : String) : Work Unit := protest (line ++ "\n")

def sayAll : List String → Work Unit
  | [] => pure ()
  | line :: rest => do
    say line
    sayAll rest

/-- Ends with a failure in a stage. -/
def refuse {α : Type} (stage : Stage) (e : Failure) : Work α := do
  complain ("[FAILED] " ++ e.message)
  throw (e.exitCode stage)

/-- An action whose failure ends the command. -/
def orRefuse {α : Type} (stage : Stage) (attempt : Attempt α) : Work α := do
  match ← (attempt.run : Act (Except Failure α)) with
  | .ok a => return a
  | .error e => refuse stage e

def transcript (work : Work Nat) : Act (Nat × Transcript) := do
  let (ended, said) ← work.run.run {}
  match ended with
  | .ok code => return (code, said)
  | .error code => return (code, said)

end Work

end Formulary.CommandLine
