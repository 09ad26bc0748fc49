import Formulary.Machine.World

/-!
# Supervision

A started program is watched until it ends, its time is over or a stop is asked for; it and all
that it started are killed then. The watch goes in passes: each looks whether to stop, looks at
the time and waits for a short while.
-/

namespace Formulary

/-- How a supervised program came to its end. -/
inductive Outcome where
  /-- It ended by itself. -/
  | exited (status : ExitStatus)
  /-- Its time was over. -/
  | timedOut
  /-- A stop was asked for. -/
  | cancelled
  deriving DecidableEq, Repr

def Outcome.interrupted : Outcome → Bool
  | exited status => status.interrupted
  | _ => false

/-! ### The watch -/

/-- What is looked at in a pass. Time is counted in milliseconds, or as finely as a clock does. -/
structure Watched (m : Type → Type) where
  /-- Whether a stop has been asked for. -/
  stopRequested : m Bool
  /-- How long the program has been running. -/
  elapsed : m Nat
  /-- Waits, but no longer than for a while, and tells how the program ended if it did. -/
  waitFor : Nat → m (Except Fault (Option ExitStatus))
  /-- The units of time in a millisecond. -/
  perMilli : Nat := 1
  perMilli_pos : 0 < perMilli := by decide

namespace Watched

section Watch

variable {m : Type → Type} (w : Watched m)

/-- The longest wait of a pass. -/
def longestWait : Nat := 100 * w.perMilli

/-- The wait of a pass with so much time left. -/
def slice (timeout elapsed : Nat) : Nat := min w.longestWait (timeout - elapsed)

/-- As many passes as a watch can take if time does not stand still. -/
def enoughPasses (timeout : Nat) : Nat := (timeout + w.longestWait - 1) / w.longestWait + 1

variable [Monad m]

/-- What an ending comes to: an interrupted program was stopped, and so was one that failed when a
stop had been asked for. -/
def classify (status : ExitStatus) : m Outcome := do
  if status.interrupted then return .cancelled
  else if status.success then return .exited status
  else if ← w.stopRequested then return .cancelled
  else return .exited status

/-- Watches for at most so many passes; nothing is known when they are used up. -/
def wait (timeout : Nat) : Nat → m (Except Fault (Option Outcome))
  | 0 => return .ok none
  | passes + 1 => do
    if ← w.stopRequested then return .ok (some .cancelled)
    let elapsed ← w.elapsed
    if timeout ≤ elapsed then return .ok (some .timedOut)
    match ← w.waitFor (w.slice timeout elapsed) with
    | .error e => return .error e
    | .ok none => wait timeout passes
    | .ok (some status) => return .ok (some (← w.classify status))

end Watch

end Watched

/-! ### Supervised programs -/

/-- What a supervised program left. -/
structure Output where
  outcome : Outcome
  stdout : String
  stderr : String
  deriving DecidableEq

namespace Output

/-- The exit code, if the program ended by itself and not by a signal. -/
def exitCode (o : Output) : Option Int :=
  match o.outcome with
  | .exited status => status.code?
  | _ => none

def success (o : Output) : Bool :=
  match o.outcome with
  | .exited status => status.success
  | _ => false

/-- Everything the program wrote: the results first, then the complaints. -/
def combined (o : Output) : String := o.stdout ++ o.stderr

end Output

/-- Waits for a process that started at a time. One that ends within the wait is seen right after
its ending, and so is one that cannot be waited for any longer. -/
def Process.waitFor (p : Process) (start span : Millis) : Act (Except Fault (Option ExitStatus)) := do
  let clock ← Act.clock
  match p.endedBefore (clock + span - start) with
  | some (moment, ending) =>
    modify fun w => { w with clock := max clock (start + moment + 1) }
    return ending.map some
  | none =>
    modify fun w => { w with clock := clock + span }
    return .ok none

/-- The watch over a process that started at a time. -/
def Process.watched (p : Process) (start : Millis) : Watched Act where
  stopRequested := Act.stopRequested
  elapsed := do return (← Act.clock) - start
  waitFor := p.waitFor start

/-- Notes a program as started. -/
def noteStart (c : Command) : Act Unit :=
  modify fun w => { w with started := w.started ++ [⟨c, w.site⟩] }

/-- Starts a program, watches it and collects what it wrote until its end or its being killed. One
that cannot be waited for is killed as well, and only the fault of the wait is told of it. -/
def supervise (launch : Launcher) (c : Command) (timeout : Millis) : Act (Except Fault Output) := do
  match launch c (← get).site with
  | .error e => return .error e
  | .ok process =>
    noteStart c
    let start ← Act.clock
    let watched := process.watched start
    let outcome ← watched.wait timeout (watched.enoughPasses timeout)
    let progress := process.after ((← Act.clock) - start)
    modify fun w => { w with files := progress.files }
    return outcome.map fun outcome => {
      outcome := outcome.getD .timedOut
      stdout := Text.decodeLossy progress.stdout
      stderr := Text.decodeLossy progress.stderr }

end Formulary
