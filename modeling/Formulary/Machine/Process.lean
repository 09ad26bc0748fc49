import Formulary.Machine.Files
import Formulary.Machine.Signal
import Formulary.Resolution

/-!
# Processes

A program is started by a command from the state of the machine at that moment. What is known of
the process that follows is when and how it would end if nothing stopped it, and how far it would
have come after any time; who watches it decides how much of that time it gets.
-/

namespace Formulary

abbrev Millis := Nat

/-! ### Endings -/

/-- How a process ended. -/
inductive ExitStatus where
  /-- By itself, with a code. -/
  | exited (code : Nat)
  /-- By a signal, of which a dump of its memory may be left. -/
  | signaled (signal : Signal) (dumped : Bool)
  deriving DecidableEq, Repr

namespace ExitStatus

def success : ExitStatus → Bool
  | exited code => code == 0
  | signaled _ _ => false

/-- The exit code, if the process ended by itself. -/
def code? : ExitStatus → Option Int
  | exited code => some code
  | signaled _ _ => none

/-- The process was interrupted. -/
def interrupted : ExitStatus → Bool
  | exited _ => false
  | signaled signal _ => signal = .interrupt

def display : ExitStatus → String
  | exited code => "exit status: " ++ toString code
  | signaled signal dumped =>
    "signal: " ++ signal.display ++ if dumped then " (core dumped)" else ""

theorem eq_of_success (status : ExitStatus) (h : status.success = true) : status = exited 0 := by
  cases status with
  | exited code => rw [eq_of_beq h]
  | signaled signal dumped => cases h

end ExitStatus

/-! ### Commands and processes -/

/-- A program to start, with what is given to it. -/
structure Command where
  program : String
  args : List String := []
  /-- Variables that are set over those of the environment. -/
  env : Environment := []
  /-- The directory it starts in, if not the present one. -/
  dir : Option Path := none
  deriving DecidableEq

/-- What a program sees when it starts. -/
structure Site where
  files : Files
  cwd : Path
  env : Environment

/-- A program that was started: its command, and what it saw. -/
structure Launch where
  command : Command
  site : Site

/-- How far a process has come. -/
structure Progress where
  stdout : Bytes := []
  stderr : Bytes := []
  /-- The files as they are by then. -/
  files : Files

/-- A process that nothing stops. -/
structure Process where
  /-- When waiting for it comes to an end, counted from its start, if it ever does, and with what: how
  the process ended, or why it cannot be waited for any longer. -/
  ending : Option (Millis × Except Fault ExitStatus)
  /-- How far it has come after a time. -/
  after : Millis → Progress

/-- How waiting for a process came to an end and when, if it did so before a time. -/
def Process.endedBefore (p : Process) (time : Millis) : Option (Millis × Except Fault ExitStatus) :=
  p.ending.filter fun e => e.1 < time

/-- How programs are started: a process, or the reason why there is none. -/
abbrev Launcher := Command → Site → Except Fault Process

/-! ### Variables of the environment -/

/-- A character of a variable's name in a shell. -/
def Environment.isNameChar (c : Char) : Bool := c.isAlphanum || c = '_'

/-- A name that a shell takes for a variable's. -/
def Environment.isName (s : String) : Bool :=
  match s.toList with
  | c :: rest => (c.isAlpha || c = '_') && rest.all isNameChar
  | [] => false

def Environment.setVariable (env : Environment) (key value : String) : Environment :=
  env.filter (fun entry => entry.1 ≠ key) ++ [(key, value)]

/-- An environment with variables set over it, one after another. -/
def Environment.override (env overrides : Environment) : Environment :=
  overrides.foldl (fun env (key, value) => Environment.setVariable env key value) env

end Formulary
