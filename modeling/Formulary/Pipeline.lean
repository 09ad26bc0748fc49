import Formulary.Failure

/-!
# The pipeline

Four stages lead from a loaded formula to a verified program, each only after the one before it.
Any of them may fail, and a failed or verified run stays as it is. A run records the outcome of
every stage it entered.
-/

namespace Formulary

/-! ### Stages and states -/

/-- A step of a run. -/
inductive Stage where
  | load
  | resolve
  | build
  | postInstall
  | verify
  deriving DecidableEq, Repr

namespace Stage

def all : List Stage := [load, resolve, build, postInstall, verify]

/-- A stage's position, the first digit of an exit code. -/
def index : Stage → Nat
  | load => 1
  | resolve => 2
  | build => 3
  | postInstall => 4
  | verify => 5

def display : Stage → String
  | load => "load"
  | resolve => "resolve"
  | build => "build"
  | postInstall => "post-install"
  | verify => "verify"

/-- The form a stage is written in a report. -/
def key : Stage → String
  | load => "load"
  | resolve => "resolve"
  | build => "build"
  | postInstall => "post_install"
  | verify => "verify"

end Stage

/-- Where a run stands. -/
inductive RunState where
  | loaded
  | resolved
  | built
  | postInstalled
  | verified
  /-- A stage failed; the reason is what the failure says, the code its reason code. -/
  | failed (stage : Stage) (reason : String) (code : Nat)
  deriving DecidableEq, Repr, Inhabited

/-- The exit code of a stage that failed for a reason. -/
def failureCode (stage : Stage) (code : Nat) : Nat := stage.index * 10 + code

def Failure.exitCode (e : Failure) (stage : Stage) : Nat := failureCode stage e.reasonCode

namespace RunState

/-- The stage that leads on; none when the run is over. -/
def next? : RunState → Option Stage
  | loaded => some .resolve
  | resolved => some .build
  | built => some .postInstall
  | postInstalled => some .verify
  | verified | failed _ _ _ => none

/-- Where a run stands after a stage. -/
def after : Stage → RunState
  | .load => loaded
  | .resolve => resolved
  | .build => built
  | .postInstall => postInstalled
  | .verify => verified

def ofFailure (stage : Stage) (e : Failure) : RunState := failed stage e.message e.reasonCode

/-- No stage leads on. -/
def isTerminal (s : RunState) : Bool := s.next?.isNone

/-- The process exit code; a run that is not over has one of its own. -/
def exitCode : RunState → Nat
  | verified => 0
  | failed stage _ code => failureCode stage code
  | _ => 99

def display : RunState → String
  | loaded => "loaded"
  | resolved => "resolved"
  | built => "built"
  | postInstalled => "post-installed"
  | verified => "verified"
  | failed stage reason _ => "failed at " ++ stage.display ++ ": " ++ reason

/-- The stage a run failed in. -/
def failedStage? : RunState → Option Stage
  | failed stage _ _ => some stage
  | _ => none

end RunState

/-! ### Runs -/

/-- The outcome of one stage, with the time it took in milliseconds. -/
structure StageRecord where
  stage : Stage
  succeeded : Bool
  duration : Nat
  deriving DecidableEq, Repr

/-- A run: where it stands, what it did, and why it stopped. -/
structure Pipeline where
  state : RunState := .loaded
  records : List StageRecord := []
  failure : Option Failure := none
  deriving DecidableEq

/-- What a run watches while it works: whether it is to stop, and the time in milliseconds. -/
structure Watch (m : Type → Type) where
  cancelled : m Bool
  now : m Nat

namespace Pipeline

/-- The run stops with a failure in a stage. -/
def fail (p : Pipeline) (stage : Stage) (e : Failure) : Pipeline :=
  { p with state := .ofFailure stage e, failure := some e }

/-- The failure of asking for a stage out of order. -/
def outOfOrder (p : Pipeline) (stage : Stage) : Failure :=
  .invalidTransition p.state.display stage.display

/-- A stage asked for out of order: a run that is over stays as it is, any other fails. -/
def refuse (p : Pipeline) (stage : Stage) : Pipeline :=
  if p.state.isTerminal then p else p.fail stage (p.outOfOrder stage)

/-- A stage that was entered and ended with a result after a time. -/
def settle {α : Type} (p : Pipeline) (stage : Stage) (result : Except Failure α)
    (duration : Nat) : Option α × Pipeline :=
  match result with
  | .ok value =>
    (some value, { p with
      state := .after stage, records := p.records ++ [⟨stage, true, duration⟩] })
  | .error e =>
    let recorded : Pipeline := { p with records := p.records ++ [⟨stage, false, duration⟩] }
    (none, recorded.fail stage e)

/-- Runs a stage. Its action is performed only if the stage leads on from where the run stands and
the run is not to stop; what it gives is given back if it succeeds. -/
def run {m : Type → Type} [Monad m] {α : Type} (watch : Watch m) (p : Pipeline) (stage : Stage)
    (action : m (Except Failure α)) : m (Option α × Pipeline) := do
  if p.state.next? ≠ some stage then return (none, p.refuse stage)
  else if ← watch.cancelled then return (none, p.fail stage (.cancelled stage.display))
  else
    let started ← watch.now
    let result ← action
    let ended ← watch.now
    return p.settle stage result (ended - started)

end Pipeline

end Formulary
