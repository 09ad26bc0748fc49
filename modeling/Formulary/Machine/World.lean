import Formulary.Machine.Process

/-!
# The world a run acts in

Files, the environment, clocks, the request to stop, and the programs that were started. A run
acts on it step by step; `Attempt` is an action that may fail.
-/

namespace Formulary

/-- The state of everything a run reads or changes. -/
structure World where
  files : Files
  cwd : Path := "/"
  env : Environment := []
  /-- Milliseconds since the world began. -/
  clock : Millis := 0
  /-- The time of the world's beginning, in seconds from the start of 1970. -/
  epoch : Int := 0
  /-- Whether a stop has been asked for, at each look at it. -/
  stopRequested : Nat → Bool := fun _ => false
  /-- How often it was looked at. -/
  looks : Nat := 0
  /-- How many temporary names were made up. -/
  tickets : Nat := 0
  /-- The programs that were started, in order. -/
  started : List Launch := []

/-- An action on the world. -/
abbrev Act := StateM World

/-- An action that may fail. -/
abbrev Attempt := ExceptT Failure Act

namespace World

/-- The present directory as a place. -/
def here (w : World) : Location := w.cwd.parts

def now (w : World) : Int := w.epoch + (w.clock / 1000 : Nat)

/-- What a program would see if it started now. -/
def site (w : World) : Site := ⟨w.files, w.cwd, w.env⟩

def requestStop (w : World) : World := { w with stopRequested := fun _ => true }

end World

namespace Act

/-- Looks whether a stop has been asked for. -/
def stopRequested : Act Bool :=
  modifyGet fun w => (w.stopRequested w.looks, { w with looks := w.looks + 1 })

def clock : Act Millis := return (← get).clock

def requestStop : Act Unit := modify World.requestStop

/-- Asks something about the files. -/
def ask {α : Type} (f : Files → Location → α) : Act α := do
  let w ← get
  return f w.files w.here

def change (f : Files → Location → Except Fault Files) : Act (Except Fault Unit) := do
  let w ← get
  match f w.files w.here with
  | .ok files =>
    set { w with files }
    return .ok ()
  | .error e => return .error e

end Act

namespace Attempt

/-- An action whose refusal is a failure of its own kind. -/
def orFail {α : Type} (action : Act (Except Fault α)) (failure : Fault → Failure) : Attempt α := do
  match ← (action : Act _) with
  | .ok a => return a
  | .error e => throw (failure e)

def ioFailure (e : Fault) : Failure := .io e.message

/-- An action on files whose refusal is a failure. -/
def io {α : Type} (action : Act (Except Fault α)) : Attempt α := orFail action ioFailure

end Attempt

end Formulary
