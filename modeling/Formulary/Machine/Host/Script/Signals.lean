import Formulary.Machine.Host.Script.Jobs

/-!
# Scripts: signals

The shell's commands about signals: what is done when they come, and sending them.
-/

namespace Formulary.Host.Script.Signals

/-! ### Names -/

/-- The shell's name for the signal of a number. -/
def nameOf (n : Nat) : String :=
  if n = 0 then "EXIT"
  else if n = 16 then "16"
  else if n < 32 then ((Signal.mk n).shortName?).getD (toString n)
  else if n < 34 then toString n
  else if n = 34 then "RTMIN"
  else if n < 50 then "RTMIN+" ++ toString (n - 34)
  else if n < 64 then "RTMAX-" ++ toString (64 - n)
  else "RTMAX"

/-- The number a text is, if it is one of a signal. -/
def numberOf? (s : String) : Option Nat :=
  (Text.natural? s.toList).filter (· ≤ Signal.last)

/-- The number of a signal, given by itself or by its name; `least` is the lowest one that has a
name here. -/
def decode? (least : Nat) (s : String) : Option Nat :=
  match numberOf? s with
  | some n => some n
  | none =>
    (List.range (Signal.last + 1)).find? fun n =>
      least ≤ n && (nameOf n).toUpper = s.toUpper

/-- What a number stands for: a signal, or the end. -/
def eventOf (n : Nat) : Option Signal := if n = 0 then none else some ⟨n⟩

/-! ### trap -/

def showTraps : Run Nat := do
  let traps ← Run.own Local.traps
  for n in List.range (Signal.last + 1) do
    match traps.lookup (eventOf n) with
    | some action =>
      Run.put ("trap -- " ++ Options.singleQuoted action ++ " " ++ nameOf n ++ "\n")
    | none => pure ()
  return 0

/-- Says what is done at signals, up to the first that is none. -/
def setTraps (action : Option String) : List String → Run Nat
  | [] => return 0
  | name :: rest => do
    match decode? 0 name with
    | none =>
      Run.complain ("trap: " ++ name ++ ": bad trap\n")
      return 1
    | some n =>
      Run.modifyOwn fun l =>
        let others := l.traps.filter fun t => t.1 ≠ eventOf n
        { l with traps := match action with
            | some text => (eventOf n, text) :: others
            | none => others }
      setTraps action rest

/-- `trap`: what is done at signals and at the end. -/
def trap (args : List String) : Run Nat := do
  let (_, args) ← Options.take "trap" "" args
  match args with
  | [] => showTraps
  | action :: names =>
    if names.isEmpty || (numberOf? action).isSome then setTraps none args
    else setTraps (if action = "-" then none else some action) names

/-! ### kill -/

/-- What `kill` is told. -/
structure Order where
  signal : Option Nat := none
  /-- Names are to be shown. -/
  lists : Bool := false
  pids : List String

def usage {α : Type} : Run α :=
  Run.abort
    "kill: Usage: kill [-s sigspec | -signum | -sigspec] [pid | job]... or\nkill -l [exitstatus]"

def orderOf (args : List String) : Run Order := do
  match args with
  | [] => usage
  | first :: rest =>
    match first.toList with
    | '-' :: name =>
      match decode? 1 (String.ofList name) with
      | some n => return { signal := some n, pids := rest }
      | none =>
        let (options, pids) ← Options.take "kill" "ls:" args
        let names := options.filterMap fun o => if o.1 = 's' then some o.2 else none
        match names.find? fun name => (decode? 1 name).isNone with
        | some name => Run.abort ("kill: invalid signal number or name: " ++ name)
        | none =>
          let signal := names.getLast?.bind (decode? 1)
          return { signal, lists := Options.given options 'l', pids }
    | _ => return { pids := args }

/-- Shows the names of signals, or that of one. -/
def showNames (args : List String) : Run Nat := do
  match args with
  | [] =>
    Run.put "0\n"
    for n in List.range Signal.last do Run.put (nameOf (n + 1) ++ "\n")
    return 0
  | s :: _ =>
    let n ← Options.number "kill" s
    let n := if 128 < n then n - 128 else n
    if 0 < n && n ≤ Signal.last then
      Run.put (nameOf n ++ "\n")
      return 0
    else Run.abort ("kill: invalid signal number or exit status: " ++ s)

/-- The number a process is named by, or that of a job. -/
def targetOf (s : String) : Run Int := do
  match s.toList with
  | '%' :: _ => return -(((← Jobs.named "kill" (some s)).pids.headD 0 : Nat) : Int)
  | '-' :: rest => return -((← Options.number "kill" (String.ofList rest)) : Int)
  | _ => return ((← Options.number "kill" s) : Nat)

/-- Sends a signal to processes one after another. -/
def sendAll (signal : Option Signal) : (status : Nat) → List String → Run Nat
  | status, [] => return status
  | status, s :: rest => do
    let pid ← targetOf s
    if ← Run.send signal pid then sendAll signal status rest
    else
      Run.blame "kill: No such process\n"
      sendAll signal 1 rest

def kill (args : List String) : Run Nat := do
  let order ← orderOf args
  if order.lists then
    if order.signal.isSome then usage
    showNames order.pids
  else if order.pids.isEmpty then usage
  else
    match order.signal with
    | some n => sendAll (eventOf n) 0 order.pids
    | none => sendAll (some .terminate) 0 order.pids

end Formulary.Host.Script.Signals
