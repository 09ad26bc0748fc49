import Formulary.Machine.Host.Script.State

/-!
# Scripts: steps of a process

A step of a process comes to an end at once, or it waits for something and goes on later, in the
state the others have left by then. `Run` is the monad of such steps; a step may also leave its
course.
-/

namespace Formulary.Host.Script

/-- How a step goes on. -/
inductive Course (α : Type) where
  /-- It has come to its end. -/
  | done (value : α) (state : State)
  /-- It waits, and goes on in a later state. -/
  | waits (wake : Wake) (state : State) (resume : State → Course α)

namespace Course

def bind {α β : Type} (c : Course α) (f : α → State → Course β) : Course β :=
  match c with
  | done a s => f a s
  | waits wake s resume => waits wake s fun s => (resume s).bind f

def map {α β : Type} (f : α → β) (c : Course α) : Course β := c.bind fun a s => done (f a) s

end Course

/-- A step of a process, which may leave its course. -/
def Run (α : Type) : Type := State → Course (Except Exit α)

namespace Run

@[always_inline, inline] def pure {α : Type} (a : α) : Run α := fun s => .done (.ok a) s

@[always_inline, inline] def bind {α β : Type} (x : Run α) (f : α → Run β) : Run β := fun s =>
  match x s with
  | .done (.ok a) s => f a s
  | .done (.error e) s => .done (.error e) s
  | .waits wake s resume => .waits wake s fun s => (resume s).bind fun
    | .ok a, s => f a s
    | .error e, s => .done (.error e) s

instance : Monad Run where
  pure := Run.pure
  bind := Run.bind

instance : MonadStateOf State Run where
  get := fun s => .done (.ok s) s
  set s := fun _ => .done (.ok ()) s
  modifyGet f := fun s =>
    let (a, s) := f s
    .done (.ok a) s

/-- Performs a step and tells how it left its course. -/
@[always_inline, inline] def caught {α : Type} (step : Run α) : Run (Except Exit α) := fun s =>
  match step s with
  | .done result s => .done (.ok result) s
  | .waits wake s resume => .waits wake s fun s => (resume s).map .ok

instance : MonadExceptOf Exit Run where
  throw e := fun s => .done (.error e) s
  tryCatch x handle := Run.bind (caught x) fun
    | .ok a => Run.pure a
    | .error e => handle e

def waitFor (wake : Wake) : Run Unit := fun s => .waits wake s fun s => .done (.ok ()) s

/-! ### The present process -/

def own {α : Type} (f : Local → α) : Run α := fun s => .done (.ok (f s.own)) s

def modifyOwn (f : Local → Local) : Run Unit := modify fun s => { s with own := f s.own }

def setStatus (status : Nat) : Run Unit := modifyOwn fun l => { l with status }

/-- Performs a step, and another one afterwards even if the first leaves its course. -/
def afterwards {α : Type} (step : Run α) (after : Run Unit) : Run α := do
  let result ← caught step
  after
  match result with
  | .ok a => return a
  | .error e => throw e

/-! ### Time -/

/-- Time goes by; whoever is due meanwhile comes first. -/
def tick (span : Nat) : Run Unit := fun s =>
  let s := { s with clock := s.clock + span }
  if s.clock < s.horizon then .done (.ok ()) s
  else .waits (.at s.clock) s fun s => .done (.ok ()) s

/-- How long a step takes, in microseconds. -/
def stepTime : Nat := 3

/-- How long a process rests that has been busy for long, in microseconds. -/
def restTime : Nat := 20000

/-- How many steps it performs between two rests. -/
def shortestBurst : Nat := 500

def charge (steps : Nat) : Run Unit := modify fun s =>
  { s with budget := s.budget - steps, own := { s.own with burst := s.own.burst - steps } }

/-- One more step is performed, if there may be one. A process that has been busy for long performs
a few at a time only, unless a signal comes. -/
def spend : Run Unit := do
  let s ← get
  if s.budget = 0 then waitFor .never
  if s.own.burst = 0 then
    waitFor (.either (.at (s.clock + restTime)) .signal)
    modifyOwn fun l => { l with burst := shortestBurst }
  charge 1
  tick stepTime

def sleep (span : Nat) : Run Unit := do waitFor (.at ((← get).clock + span))

/-- Repeats a step as long as it says so. -/
def repeatWhile (step : Run Bool) : Nat → Run Unit
  | 0 => waitFor .never
  | fuel + 1 => do
    if ← step then repeatWhile step fuel else return ()

def mostRepeats : Nat := 10000000

end Run

end Formulary.Host.Script
