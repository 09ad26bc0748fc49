import Formulary.Machine.Host.Script.Process

/-!
# Scripts: processes side by side

A run is all its processes together. Each of them does its steps until it waits; then the one that
is due first goes on. What a process has waited for becomes due a short while after it has come
about.
-/

namespace Formulary.Host.Script

/-- A process that waits. -/
structure Waiting where
  pid : Nat
  /-- Since when it waits. -/
  since : Moment
  wake : Wake
  /-- When it takes notice of what has come about. -/
  noticed : Option Moment := none
  /-- When it goes on, if that is known. -/
  due : Option Moment := none
  resume : State → Course ExitStatus

/-- All processes of a run between two steps. -/
structure Bustle where
  state : State
  waiting : List Waiting := []
  /-- When and how the first process ended, if it did. -/
  ended : Option (Moment × ExitStatus) := none

/-! ### When somebody is due -/

/-- What a process waits for has come about, if it is no moment. -/
def Wake.hasCome (s : State) (pid : Nat) : Wake → Bool
  | .at _ | .never => false
  | .readable pipe => s.isReadable pipe
  | .writable pipe => s.isWritable pipe
  | .readers pipe count => (s.pipes[pipe]?.map Pipe.readers).any (count < ·)
  | .writers pipe count => (s.pipes[pipe]?.map Pipe.writers).any (count < ·)
  | .ended pids => pids.any s.hasEnded
  | .signal =>
    s.signals.any fun x => x.1 = pid && s.others.any fun l => l.pid = pid && (l.trapFor? x.2).isSome
  | .either first second => first.hasCome s pid || second.hasCome s pid

def Wake.moment? : Wake → Option Moment
  | .at moment => some moment
  | .either first second => earlier first.moment? second.moment?
  | _ => none
where
  earlier (a b : Option Moment) : Option Moment :=
    match a, b with
    | some m, some n => some (min m n)
    | m, n => m.or n

/-- A process that waits takes notice of what has come about, a short while after it has. -/
def Waiting.notice (s : State) (w : Waiting) : Waiting :=
  if s.stopped.contains w.pid then { w with due := none, noticed := none }
  else
    let noticed := if w.wake.hasCome s w.pid then
        some (w.noticed.getD (s.clock + Run.noticeTime))
      else none
    { w with noticed, due := Wake.moment?.earlier noticed w.wake.moment? }

def Waiting.isBefore (a b : Waiting) : Bool :=
  match a.due, b.due with
  | some m, some n => m < n || (m = n && a.since < b.since)
  | some _, none => true
  | none, _ => false

def firstDue : List Waiting → Option Waiting
  | [] => none
  | w :: rest =>
    match firstDue rest with
    | some v => some (if v.isBefore w then v else w)
    | none => if w.due.isSome then some w else none

def nobody : Local where
  pid := 0
  parent := 0
  group := 0
  mainPid := 0
  arg0 := ""

namespace Bustle

/-! ### Births, ends and signals -/

/-- Processes that have been started wait for their beginning. -/
def takeIn (begins : Work → Run ExitStatus) (b : Bustle) : Bustle :=
  let newcomers := b.state.births.map fun x => {
    pid := x.own.pid
    since := b.state.clock
    wake := .at x.moment
    resume := fun s => (begins x.work s).map fun
      | .ok status => status
      | .error e => Run.statusOf (.error e) 0 : Waiting }
  { b with
    state := { b.state with births := [] }
    waiting := b.waiting ++ newcomers }

/-- The signal a process gets when one that it has started ends. -/
def childEnded : Signal := ⟨17⟩

def bury (b : Bustle) (l : Local) (status : ExitStatus) : Bustle :=
  let s := b.state
  let others := s.others.filter fun p => p.pid ≠ l.pid
  let told := others.filter fun p => p.pid = l.parent && (p.trapFor? childEnded).isSome
  let endings := s.endings.filter fun e => e.parent ≠ l.pid
  let endings := if others.any fun p => p.pid = l.parent then
      endings ++ [⟨l.pid, l.parent, status⟩]
    else endings
  { state := { s with
      others, endings
      own := nobody
      signals := s.signals.filter (fun x => x.1 ≠ l.pid) ++ told.map fun p => (p.pid, childEnded)
      stopped := s.stopped.filter (· ≠ l.pid) }
    waiting := b.waiting.filter fun w => w.pid ≠ l.pid
    ended := if b.ended.isNone && l.parent = 1 then
        some (s.clock, status)
      else b.ended }

/-- A signal has its effect on a process that waits, unless it has commands for it. -/
def settle (b : Bustle) (x : Nat × Signal) : Bustle :=
  let s := b.state
  match s.others.find? fun l => l.pid = x.1 with
  | none => { b with state := { s with signals := s.signals.erase x } }
  | some l =>
    let heard : Bustle := { b with state := { s with signals := s.signals.erase x } }
    match l.effectOf x.2 with
    | .ends => if s.stopped.contains l.pid && x.2 ≠ .kill then b else b.bury l (.signaled x.2 false)
    | .stops => { heard with state := { heard.state with stopped := l.pid :: s.stopped } }
    | .goesOn => heard
    | .nothing => if (l.trapFor? x.2).isSome && !x.2.isStrict then b else heard

def settleAll (b : Bustle) : Bustle := b.state.signals.foldl settle b

/-! ### Going on -/

/-- Everybody has taken notice of what there is. -/
def settled (begins : Work → Run ExitStatus) (b : Bustle) : Bustle := (b.takeIn begins).settleAll

/-- The process that is due first goes on, if one is due before a limit. -/
def advance (limit : Moment) (b : Bustle) : Option Bustle :=
  let waiting := b.waiting.map (Waiting.notice b.state)
  match firstDue waiting with
  | none => none
  | some w =>
    let due := max b.state.clock (w.due.getD limit)
    let rest := waiting.filter fun v => v.pid ≠ w.pid
    let horizon := rest.foldl (fun h v => match v.due with
      | some m => min h m
      | none => h) limit
    match decide (due < limit), b.state.others.find? fun l => l.pid = w.pid with
    | true, some own =>
      let s := { b.state with
        own, horizon
        clock := due
        others := b.state.others.filter fun l => l.pid ≠ w.pid }
      match w.resume s with
      | .waits wake s resume =>
        some { b with
          state := { s with others := s.others ++ [s.own], own := nobody }
          waiting := rest ++ [{ pid := w.pid, since := s.clock, wake, resume }] }
      | .done status s =>
        some (bury { b with state := s, waiting := rest } s.own status)
    | _, _ => none

/-- How often one process goes on in place of another one at most. -/
def mostTurns : Nat := 1000000

/-- Goes on until something has come about, or nobody is due before a limit any more. -/
def goOn (begins : Work → Run ExitStatus) (limit : Moment) (enough : Bustle → Bool) :
    (turns : Nat) → Bustle → Bustle
  | 0, b => b
  | turns + 1, b =>
    let b := b.settled begins
    if enough b then b
    else
      match b.advance limit with
      | none => b
      | some b => goOn begins limit enough turns b

def dismiss (group : Nat) (b : Bustle) : Bustle :=
  let gone := (b.state.others.filter fun l => l.group = group).map Local.pid
  { b with
    state := { b.state with
      others := b.state.others.filter fun l => !gone.contains l.pid
      births := b.state.births.filter fun x => !gone.contains x.own.pid }
    waiting := b.waiting.filter fun w => !gone.contains w.pid }

/-- Nobody keeps a stream open that is collected. -/
def isSilent (b : Bustle) : Bool := !(b.state.others.any Local.isHeard)

end Bustle

end Formulary.Host.Script
