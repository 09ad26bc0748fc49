import Formulary.Machine.Host.Script.Options

/-!
# Scripts: waiting

How the shell waits for the processes it has started, and what becomes of commands it does not wait
for.
-/

namespace Formulary.Host.Script.Jobs

/-! ### Commands that are waited for -/

/-- The next of some processes that ends, and how it did. -/
def nextEnding (pids : List Nat) : Run (Nat × ExitStatus) := do
  let among (e : Ending) : Bool := pids.contains e.pid
  if !(← get).endings.any among then Run.waitFor (.ended pids)
  modifyGet fun s =>
    match s.endings.find? among with
    | some e => ((e.pid, e.status), { s with endings := s.endings.filter fun x => x.pid ≠ e.pid })
    | none => ((pids.headD 0, .exited 127), s)

/-- Waits for all of some processes and tells which of them signals ended; how a certain one
ended. -/
def awaitAll (last : Nat) : (fuel : Nat) → List Nat → ExitStatus → Run ExitStatus
  | 0, _, status | _, [], status => return status
  | fuel + 1, pids, status => do
    let (pid, ended) ← nextEnding pids
    Run.tellSignal ended
    awaitAll last fuel (pids.filter (· ≠ pid)) (if pid = last then ended else status)

/-! ### Commands that are not waited for -/

/-- Takes note of how processes of jobs have ended. -/
def takeNote : Run Unit :=
  modify fun s =>
    let mine (e : Ending) : Bool := s.own.jobs.any fun j => j.pids.contains e.pid
    let note (j : Job) : Job :=
      let news := s.endings.filter fun e => j.pids.contains e.pid
      { j with ended := j.ended ++ news.map fun e => (e.pid, e.status) }
    { s with
      own := { s.own with jobs := s.own.jobs.map note }
      endings := s.endings.filter fun e => !mine e }

/-- Waits for the processes of a command; its status is that of the last one. -/
def finish (pids : List Nat) : Run Unit := do
  let status ← awaitAll (pids.getLast?.getD 0) pids.length pids (.exited 0)
  takeNote
  Run.setStatus (Run.statusNumber status)

/-- Jobs that are over and have been asked about are forgotten. -/
def forget : Run Unit :=
  Run.modifyOwn fun l => { l with jobs := l.jobs.filter fun j => !(j.isOver && j.asked) }

def add (pids : List Nat) : Run Unit :=
  Run.modifyOwn fun l => { l with
    jobs := { pids } :: l.jobs, lastJob := pids.getLast?.or l.lastJob, status := 0 }

/-- The processes of jobs that have not ended. -/
def running (jobs : List Job) : List Nat :=
  jobs.flatMap fun j => j.pids.filter fun pid => (j.ended.lookup pid).isNone

/-- The status of a wait that a signal interrupts. -/
def interrupted? : Run (Option Nat) := do
  let s ← get
  let own := s.signals.filter fun x => x.1 = s.own.pid && (s.own.trapFor? x.2).isSome
  return (Run.lowest? (own.map Prod.snd)).map fun signal => 128 + signal.number

/-- Waits until jobs are over, unless a signal comes: its status then. -/
def waitFor (tell : Bool) (chosen : Job → Bool) : (fuel : Nat) → Run (Option Nat)
  | 0 => return none
  | fuel + 1 => do
    let awaited := running ((← Run.own Local.jobs).filter chosen)
    let fresh := (← get).endings.filter fun e => awaited.contains e.pid
    if tell then
      for e in fresh do Run.tellSignal e.status
    takeNote
    let awaited := running ((← Run.own Local.jobs).filter chosen)
    if awaited.isEmpty then return none
    match ← interrupted? with
    | some status => return some status
    | none =>
      Run.waitFor (.either (.ended awaited) .signal)
      waitFor tell chosen fuel

/-- The job a name stands for, or the last one if there is no name. -/
def named (command : String) (name : Option String) : Run Job := do
  let jobs ← Run.own Local.jobs
  let take (job : Option Job) (complaint : String) : Run Job :=
    match job with
    | some j => return j
    | none => Run.abort (command ++ ": " ++ complaint)
  match name.map String.toList with
  | none | some ['%'] | some ['%', '%'] | some ['%', '+'] => take jobs.head? "No current job"
  | some ['%', '-'] => take jobs.tail.head? "No previous job"
  | some ('%' :: digits) =>
    let job := (Text.natural? digits).bind fun n =>
      if n = 0 then none else jobs.reverse[n - 1]?
    take job ("No such job: " ++ String.ofList ('%' :: digits))
  | some s => take none ("No such job: " ++ String.ofList s)

/-- `fg` and `bg`, which are for the jobs of a terminal only. -/
def move (command : String) (args : List String) : Run Nat := do
  let (_, args) ← Options.take command "" args
  let _ ← named command args.head?
  Run.abort (command ++ ": job " ++ args.headD "(null)" ++ " not created under job control")

/-- Waits for jobs one after another; the status of the last one that is there. -/
def waitEach : (status : Nat) → List String → Run Nat
  | status, [] => return status
  | status, s :: rest => do
    let pid ← if s.toList.head? = some '%' then
        pure (((← named "wait" (some s)).pids.getLast?).getD 0)
      else Options.number "wait" s
    let chosen (j : Job) : Bool := j.pids.getLast? = some pid
    match ← waitFor true chosen Run.mostRepeats with
    | some status => return status
    | none =>
      Run.modifyOwn fun l => { l with
        jobs := l.jobs.map fun j => if chosen j then { j with asked := true } else j }
      let found := ((← Run.own Local.jobs).find? chosen).bind Job.status?
      waitEach ((found.map Run.statusNumber).getD status) rest

/-- `wait`: for jobs, or for all of them. -/
def wait (args : List String) : Run Nat := do
  let (_, args) ← Options.take "wait" "" args
  match args with
  | [] =>
    let result ← waitFor false (fun _ => true) Run.mostRepeats
    Run.modifyOwn fun l => { l with
      jobs := l.jobs.map fun j => if j.isOver then { j with asked := true } else j }
    return result.getD 0
  | _ => waitEach 127 args

def shownState (j : Job) : String :=
  let text := match j.isOver, j.status? with
    | true, some (.exited 0) => "Done"
    | true, some (.exited code) => "Done(" ++ toString code ++ ")"
    | true, some (.signaled signal _) => signal.description
    | _, _ => "Running"
  text ++ String.ofList (List.replicate (27 - text.length) ' ')

/-- `jobs`: the commands that were not waited for. -/
def jobs (args : List String) : Run Nat := do
  let (_, _) ← Options.take "jobs" "lp" args
  takeNote
  let all := (← Run.own Local.jobs).reverse
  for (j, i) in all.zipIdx do
    let mark := if i + 1 = all.length then "+" else if i + 2 = all.length then "-" else " "
    Run.put ("[" ++ toString (i + 1) ++ "] " ++ mark ++ " " ++ shownState j ++ "\n")
  Run.modifyOwn fun l => { l with jobs := l.jobs.filter fun j => !j.isOver }
  return 0

end Formulary.Host.Script.Jobs
