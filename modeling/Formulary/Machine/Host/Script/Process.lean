import Formulary.Machine.Host.Script.Streams

/-!
# Scripts: processes

Starting processes, waiting for their ends, and signals. A signal lies with its process until it
has its effect: at once where the process does not care for it, and between two commands where a
script has said what to do.
-/

namespace Formulary.Host.Script.Run

/-! ### Complaints of the shell -/

/-- A complaint about the present line by one of the shell's commands. -/
def blame (text : String) : Run Unit := do
  let l ← own id
  complain (l.arg0 ++ ": " ++ toString l.line ++ ": " ++ text ++ "\n")

/-- A complaint of a command that cannot go on. -/
def abort {α : Type} (text : String) : Run α := do
  blame text
  throw (.fails 2)

/-- A complaint of the shell itself, in its present role. -/
def protest (text : String) : Run Unit := do
  let role ← own Local.role
  blame (role ++ text)

/-- A complaint of the shell itself that cannot go on. -/
def stop {α : Type} (text : String) : Run α := do
  protest text
  throw (.fails 2)

/-! ### Starting -/

/-- How long it takes to start a process, in microseconds. -/
def forkTime : Nat := 60

/-- How long after its start a process begins. -/
def birthTime : Nat := 150

/-- How long it takes to load a program. -/
def loadTime : Nat := 400

/-- How many steps it counts for to start a process. -/
def forkSteps : Nat := 10

/-- Descriptors from this number on are the shell's own. -/
def firstHidden : Nat := 1000

/-- What a process starts with when it is split off from another one. -/
def splitOff (l : Local) (pid : Nat) : Local :=
  { l with
    pid
    parent := l.pid
    endpoints := l.endpoints.filter fun p => p.1 < firstHidden
    jobs := []
    pending := .empty
    unwritten := none
    burst := longestBurst
    traps := l.traps.filter fun t => t.2 = "" }

def mostProcesses : Nat := 400

/-- Starts a process, as it is split off from the present one and then changed; its number. -/
def start (work : Work) (change : Local → Local) : Run Nat := do
  if mostProcesses ≤ (← get).others.length then stop "Cannot fork"
  let s ← get
  let pid := s.nextPid
  let child := change (splitOff s.own pid)
  let delay := match work with
    | .command _ _ => birthTime
    | .program _ => birthTime + loadTime
  set { s with
    nextPid := pid + 1
    others := s.others ++ [child]
    births := s.births ++ [{ own := child, work, moment := s.clock + delay : Birth }] }
  modify fun s => s.rouse (delay + 1)
  charge forkSteps
  tick forkTime
  return pid

/-- How a process ended that nobody has asked about yet. -/
def takeEnding? (pid : Nat) : Run (Option ExitStatus) :=
  modifyGet fun s =>
    match s.endings.find? fun e => e.pid = pid with
    | some e => (some e.status, { s with endings := s.endings.filter fun e => e.pid ≠ pid })
    | none => (none, s)

def await (pid : Nat) : Run ExitStatus := do
  if !(← get).hasEnded pid then waitFor (.ended [pid])
  return (← takeEnding? pid).getD (.exited 127)

/-- How a process ended, from how its steps ended. -/
def statusOf (result : Except Exit Unit) (status : Nat) : ExitStatus :=
  match result with
  | .ok _ | .error (.breakLoop _) | .error (.continueLoop _) | .error (.becomes _) => .exited status
  | .error (.returnFrom status) | .error (.leave status) | .error (.fails status) =>
    .exited (status % 256)
  | .error (.killed signal) => .signaled signal false

/-- The status a shell gives the ending of a process. -/
def statusNumber : ExitStatus → Nat
  | .exited code => code
  | .signaled signal _ => 128 + signal.number

/-! ### Signals -/

/-- The first of some signals that a process has no commands for. -/
def plainSignal? (l : Local) (signals : List (Nat × Signal)) : Option Signal :=
  (signals.find? fun x => x.1 = l.pid && (x.2.isStrict || (l.trapFor? x.2).isNone)).map Prod.snd

/-- Signals have their effect on the present process, except for those it has commands for. -/
def heed : (fuel : Nat) → Run Unit
  | 0 => return ()
  | fuel + 1 => do
    let s ← get
    match plainSignal? s.own s.signals with
    | none => return ()
    | some signal =>
      set { s with signals := s.signals.erase (s.own.pid, signal) }
      match s.own.effectOf signal with
      | .ends => throw (.killed signal)
      | .stops =>
        modify fun s => { s with stopped := s.own.pid :: s.stopped }
        waitFor (.at s.clock)
      | .goesOn | .nothing => return ()
      heed fuel

/-- How many signals have their effect at once. -/
def mostSignals : Nat := 1000

def lowest? (signals : List Signal) : Option Signal :=
  signals.foldl (fun found x => match found with
    | some y => some (if x.number < y.number then x else y)
    | none => some x) none

/-- The signal of the lowest number that the present process has commands for, with them; it counts
once however often it has come. -/
def takeTrapped? : Run (Option (Signal × String)) :=
  modifyGet fun s =>
    let own := s.signals.filter fun x => x.1 = s.own.pid && (s.own.trapFor? x.2).isSome
    match lowest? (own.map Prod.snd) with
    | some signal =>
      ((s.own.trapFor? signal).map (signal, ·),
        { s with signals := s.signals.filter (· ≠ (s.own.pid, signal)) })
    | none => (none, s)

/-- The processes a number stands for: one, a group, or all others. -/
def targets (s : State) (pid : Int) : List Local :=
  if 0 < pid then s.processes.filter fun l => (l.pid : Int) = pid
  else if pid = 0 then s.processes.filter fun l => l.group = s.own.group
  else if pid = -1 then s.others
  else s.processes.filter fun l => (l.group : Int) = -pid

/-- A process gets a signal. One that stops it and one that makes it go on call each other off. -/
def deliver (s : State) (signal : Signal) (l : Local) : State :=
  let without (effect : Signal.Effect) : List (Nat × Signal) :=
    s.signals.filter fun x => !(x.1 = l.pid && x.2.effect = effect)
  let s := match signal.effect with
    | .goesOn => { s with stopped := s.stopped.erase l.pid, signals := without .stops }
    | .stops => { s with signals := without .goesOn }
    | .ends | .nothing => s
  if l.ignores signal then s else { s with signals := s.signals ++ [(l.pid, signal)] }

/-- Sends a signal, or only looks whether that would be possible; false if there is nobody. -/
def send (signal : Option Signal) (pid : Int) : Run Bool := do
  let s ← get
  let found := targets s pid
  match signal with
  | some signal =>
    set ((found.foldl (fun s l => deliver s signal l) s).rouse noticeTime)
    heed mostSignals
  | none => pure ()
  return !found.isEmpty || s.endings.any fun e => (e.pid : Int) = pid

/-- Tells how a process that was waited for ended, if a signal ended it that is worth telling. -/
def tellSignal : ExitStatus → Run Unit
  | .signaled signal _ => do
    if signal ≠ .interrupt && signal ≠ .brokenPipe then
      complain (signal.description ++ "\n")
  | .exited _ => return ()

/-! ### Variables -/

def valueOf? (name : String) : Run (Option String) :=
  own fun l => (l.vars.find? fun v => v.name = name).bind Variable.value

/-- Variables with one of them changed, or added. -/
def withVariable (name : String) (f : Variable → Variable) : List Variable → List Variable
  | [] => [f { name, value := none }]
  | v :: rest => if v.name = name then f v :: rest else v :: withVariable name f rest

/-- How many chains the shell keeps its variables in. -/
def chains : Nat := 39

/-- The chain of a variable, which decides where it stands in an environment. -/
def chainOf (name : String) : Nat :=
  let codes := name.toList.map Char.toNat
  (codes.foldl (· + ·) 0 + 16 * codes.headD 0) % chains

/-- Variables with their values as the environment a shell hands on. -/
def environmentOf (vars : List Variable) : Environment :=
  (vars.filterMap fun v => v.value.map (v.name, ·)).mergeSort fun a b =>
    chainOf a.1 ≤ chainOf b.1

def environment : Run Environment :=
  own fun l => (l.vars.filter Variable.exported).filterMap fun v => v.value.map (v.name, ·)

/-- The largest number a command can be given. -/
def largestNumber : Nat := Nat.pow 2 31 - 1

/-- Gives a variable a value. Two of them say as well how parameters are read and where programs
are looked for. -/
def setVariable (name value : String) : Run Unit := do
  if ← own fun l => l.vars.any fun v => v.name = name && v.fixed then
    stop (name ++ ": is read only")
  charge (value.utf8ByteSize / 16 - 4096)
  let number := (Text.natural? value.toList).filter (· ≤ largestNumber)
  if name = "OPTIND" && number.isNone then stop ("Illegal number: " ++ value)
  modifyOwn fun l => { l with
    vars := withVariable name (fun v => { v with
      value := some value, exported := v.exported || l.settings.exportsAll }) l.vars
    optionsRead := if name = "OPTIND" then (number.getD 1, 0) else l.optionsRead
    known := if name = "PATH" then [] else l.known }

/-- Hands a variable to programs from now on. -/
def exportVariable (name : String) : Run Unit :=
  modifyOwn fun l => { l with
    vars := withVariable name (fun v => { v with exported := true }) l.vars }

end Formulary.Host.Script.Run
