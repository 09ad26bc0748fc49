import Formulary.Machine.Host.Script.Directory
import Formulary.Machine.Host.Script.Execute
import Formulary.Machine.Host.Script.Limits
import Formulary.Machine.Host.Script.Names
import Formulary.Machine.Host.Script.Redirect
import Formulary.Machine.Host.Script.Signals
import Formulary.Machine.Host.Script.Source
import Formulary.Machine.Host.Script.Variables

/-!
# Scripts: simple commands

A simple command is a function, one of the shell's own commands or a program. Its words come to
their fields first, then descriptors are redirected and variables set, and then it is performed.
-/

namespace Formulary.Host.Script.Commands

/-! ### Commands that change how the script goes on -/

/-- How many loops a command leaves: no more than there are, and at least one if it says so. -/
def levelsOf (name : String) (args : List String) : Run Nat := do
  let n ← Options.numberOr name 1 args
  if n = 0 then Run.abort (name ++ ": Illegal number: 0")
  return min n (← Run.own Local.loops)

/-- `break` and `continue`: loops are left, or go on with their next turn. -/
def leaveLoops (name : String) (way : Nat → Exit) (args : List String) : Run Nat := do
  match ← levelsOf name args with
  | 0 => return 0
  | n =>
    Run.setStatus 0
    throw (way n)

/-- `exit`: the process ends, with the status from before if a signal has come in between. -/
def exit (args : List String) : Run Nat := do
  let l ← Run.own id
  throw (.leave ((← Options.numberOr "exit" (l.statusBefore.getD l.status) args) % 256))

/-- `eval`: its arguments as the text of commands. -/
def eval (ev : Evaluator) (args : List String) : Run Nat :=
  Source.inRole "eval: " (Source.statusOfText ev .word (" ".intercalate args))

/-- The text of a file for `.`, which is looked for like a program if its name has no slash. -/
def sourceText (name : String) : Run String := do
  let refuse (reason : String) : Run String :=
    Run.abort (".: cannot open " ++ name ++ ": " ++ reason)
  let found ← if name.toList.contains '/' then pure (some name)
    else Names.fileOf? Node.isRegular (← Names.searchPath) name
  match found with
  | none => Run.abort (".: " ++ name ++ ": not found")
  | some file =>
    match ← Run.openFd file .reading with
    | .error .noEntry | .error .notDirectory => refuse "No such file"
    | .error e => refuse e.words
    | .ok fd =>
      let text := (← Run.readAll fd).toOption.getD .empty
      Run.close fd
      return String.ofList (Run.characters text)

def source (ev : Evaluator) (args : List String) : Run Nat := do
  let (_, args) ← Options.take "." "" args
  match args with
  | [] => return 0
  | name :: _ =>
    let text ← sourceText name
    match ← Run.caught (Source.inRole (name ++ ": ") (Source.statusOfText ev .file text)) with
    | .ok status => return status
    | .error (.returnFrom status) => return status
    | .error e => throw e

/-! ### The shell's own commands -/

/-- `test` and `[` as the shell's own commands. -/
def test (name : String) (args : List String) : Run Nat := do
  match Tool.Condition.ofShell (← Tool.Condition.view) name args with
  | .ok holds => return if holds then 0 else 1
  | .error e =>
    Run.blame (name ++ ": " ++ e)
    return 2

def own (ev : Evaluator) (name : String) (args : List String) : Run Nat := do
  match name with
  | ":" | "true" => return 0
  | "false" => return 1
  | "." => source ev args
  | "[" | "test" => test name args
  | "alias" => Names.aliases args
  | "bg" | "fg" => Jobs.move name args
  | "break" => leaveLoops name .breakLoop args
  | "cd" | "chdir" => Directory.cd args
  | "command" => Names.describe args
  | "continue" => leaveLoops name .continueLoop args
  | "echo" => Tool.Format.shellEcho args
  | "eval" => eval ev args
  | "exit" => exit args
  | "export" =>
    Variables.declaring name Variable.exported (fun v => { v with exported := true }) args
  | "getopts" => Variables.getopts args
  | "hash" => Names.hash args
  | "jobs" => Jobs.jobs args
  | "kill" => Signals.kill args
  | "local" => Variables.localNames args
  | "printf" => Tool.Format.shellPrintf args
  | "pwd" => Directory.pwd args
  | "read" => Variables.read args
  | "readonly" => Variables.declaring name Variable.fixed (fun v => { v with fixed := true }) args
  | "return" => throw (.returnFrom (← Options.numberOr name (← Run.own Local.status) args))
  | "set" => Variables.set args
  | "shift" => Variables.shift args
  | "times" => Limits.times
  | "trap" => Signals.trap args
  | "type" => Names.type args
  | "ulimit" => Limits.ulimit args
  | "umask" => Limits.umask args
  | "unalias" => Names.unalias args
  | "unset" => Variables.unset args
  | "wait" => Jobs.wait args
  | _ => return 0

/-- Writes what a command has put out; the status if that is possible. -/
def flushed (name : String) (status : Nat) : Run Nat := do
  Run.flush
  match ← Run.own Local.unwritten with
  | none => return status
  | some _ =>
    Run.modifyOwn fun l => { l with unwritten := none }
    Run.blame (name ++ ": " ++ name ++ ": I/O error")
    return if status % 2 = 0 then status + 1 else status

/-- Performs one of the shell's own commands and writes what it has put out. A fault in it ends the
shell only if it belongs to the language. -/
def performOwn (ev : Evaluator) (isSpecial : Bool) (name : String) (args : List String) :
    Run Unit := do
  match ← Run.caught (own ev name args) with
  | .ok status => Run.setStatus (← flushed name status)
  | .error e =>
    let _ ← flushed name 0
    match e with
    | .fails status => if isSpecial then throw e else Run.setStatus status
    | _ => throw e

/-! ### Assignments -/

/-- Gives variables the values of assignments; what they are. -/
def assignAll (ev : Evaluator) (hand : Bool) : List (String × Word) → Run (List (String × String))
  | [] => return []
  | (name, w) :: rest => do
    let value ← Expand.valueText ev w
    Run.setVariable name value
    if hand then Run.exportVariable name
    return (name, value) :: (← assignAll ev hand rest)

/-- The variables that assignments change, as they are now. -/
def savedBefore (assignments : List (String × Word)) : Run (List Variable) := do
  let vars ← Run.own Local.vars
  return assignments.map fun (name, _) =>
    (vars.find? fun v => v.name = name).getD { name, value := none }

/-- Performs a step and puts variables back afterwards. -/
def restoring (saved : List Variable) (step : Run Unit) : Run Unit := do
  if saved.isEmpty then return ← step
  match ← Run.caught step with
  | .error (.becomes i) => throw (.becomes i)
  | result =>
    Variables.restore saved
    match result with
    | .ok _ => return ()
    | .error e => throw e

/-- Shows a command before it is performed, at the descriptor that complaints had before. -/
def trace (errors : Option Endpoint) (values : List (String × String)) (words : List String) :
    Run Unit := do
  let l ← Run.own id
  if !l.settings.tracing then return ()
  let mark := (← Run.valueOf? "PS4").getD ""
  let shown := values.map (fun (name, value) => name ++ "=" ++ value) ++ words
  match errors with
  | some e =>
    let _ ← Run.writeTo e (Text.pushOctets .empty (mark ++ " ".intercalate shown ++ "\n"))
  | none => return ()

/-! ### Functions and programs -/

/-- How many functions there are around a command at most. -/
def mostCalls : Nat := 1000

def call (ev : Evaluator) (body : Command) (args : List String) : Run Unit := do
  let l ← Run.own id
  if mostCalls ≤ l.calls then
    Run.stop ("Maximum function recursion depth (" ++ toString mostCalls ++ ") reached")
  Run.modifyOwn fun l => { l with
    params := args, saved := [], loops := 0, calls := l.calls + 1, optionsRead := (1, 0) }
  let result ← Run.caught (ev.run false body)
  Variables.restore (← Run.own Local.saved)
  Run.modifyOwn fun now => { now with
    params := l.params, saved := l.saved, loops := l.loops, calls := l.calls
    optionsRead := l.optionsRead }
  match result with
  | .error (.returnFrom status) => Run.setStatus status
  | .error e => throw e
  | .ok _ => return ()

/-- The status of a shell that cannot execute a file. -/
def refusalStatus : Fault → Nat
  | .noEntry | .notDirectory | .nameTooLong | .tooManyLinks => 127
  | _ => 126

/-- The words of a shell that cannot execute a file. -/
def refusalWords : Fault → String
  | .noEntry | .notDirectory => "not found"
  | e => e.words

def environment : Run Environment :=
  Run.own fun l => Run.environmentOf (l.vars.filter Variable.exported)

/-- What running a program by its name comes to. -/
def programOf (name : String) (argv : List String) (env : Environment) (path : String) :
    Run (Except Fault Lookup.Image) := do
  if name.isEmpty then return .error .denied else Run.programOf name argv env (some path)

/-- Runs a program by its name, in the place of the shell if it is the last thing that does. -/
def runProgram (last : Bool) (path : Option String) (name : String) (argv : List String) :
    Run Unit := do
  let env ← environment
  let path ← match path with
    | some path => pure path
    | none => Names.searchPath
  match ← programOf name argv env path with
  | .error e =>
    Run.protest (name ++ ": " ++ refusalWords e)
    let isOwnPath := name.toList.contains '/' || e = .argumentsTooLong
    Run.setStatus (if isOwnPath then refusalStatus e else 127)
  | .ok i =>
    if !name.toList.contains '/' then
      Run.modifyOwn fun l => { l with
        known := if l.known.contains name then l.known else l.known ++ [name] }
    if last && (← Source.hasNoTraps) then Run.become i env
    else
      Jobs.forget
      Jobs.finish [← Run.startProgram i env id]

def exec (args : List String) : Run Unit := do
  let name := args.headD ""
  let env ← environment
  match ← programOf name args env (← Names.searchPath) with
  | .ok i => Run.become i env
  | .error e =>
    Run.blame ("exec: " ++ name ++ ": " ++ refusalWords e)
    throw (.leave (refusalStatus e))

/-! ### Simple commands -/

/-- What a command turns out to be, behind all that says how it is to be taken. -/
structure Order where
  words : List String
  /-- Functions do not count. -/
  plain : Bool := false
  /-- Where programs are looked for, if not as usual. -/
  path : Option String := none

/-- The command behind `command`, unless that asks what a name stands for. -/
def behindCommand (o : Order) : (fuel : Nat) → List String → Option Order
  | 0, _ | _, [] => none
  | fuel + 1, arg :: rest =>
    match arg.toList with
    | ['-', '-'] => if rest.isEmpty then none else some { o with words := rest, plain := true }
    | '-' :: c :: letters =>
      if (c :: letters).all (· = 'p') then
        behindCommand { o with path := some Names.usualPath } fuel rest
      else none
    | _ => some { o with words := arg :: rest, plain := true }

def orderOf (functions : List (String × Command)) : (fuel : Nat) → Order → Order
  | 0, o => o
  | fuel + 1, o =>
    match o.words with
    | "command" :: args =>
      if !o.plain && (functions.lookup "command").isSome then o
      else match behindCommand o (args.length + 1) args with
        | some next => orderOf functions fuel next
        | none => o
    | _ => o

/-- The fields of the words of a command. Where the command declares variables, what looks like an
assignment is not cut up. -/
def fieldsOf (ev : Evaluator) (words : List Word) : Run (List String) := do
  match words with
  | [] => return []
  | first :: rest =>
    let start ← Expand.wordFields ev first
    let declares := match start.head? with
      | some name => ["export", "readonly", "local"].contains name
      | none => false
    if !declares then return start ++ (← Expand.fields ev rest)
    let mut out := start
    for w in rest do
      match Read.assignment? w with
      | some (name, value) => out := out ++ [name ++ "=" ++ (← Expand.valueText ev value)]
      | none => out := out ++ (← Expand.wordFields ev w)
    return out

/-- A failing command ends the script if that has been asked for. -/
def checkFailure : Run Unit := do
  let l ← Run.own id
  if l.settings.stopAtFailure && !l.testing && l.status ≠ 0 then throw (.leave l.status)

/-- A command without a name: its assignments are all there is. -/
def assignOnly (ev : Evaluator) (assignments : List (String × Word))
    (redirections : List Redirection) : Run Unit := do
  let errors ← Run.endpoint? 2
  let texts ← Redirect.expandAll ev redirections
  let done ← Redirect.keeping redirections (Redirect.performAll texts)
  if done then
    let values ← assignAll ev false assignments
    if !values.isEmpty then trace errors values []
    Run.setStatus (← Run.own Local.innerStatus)
  else Run.setStatus 2

/-- Performs a command whose fields are known and whose descriptors are redirected. -/
def dispatch (ev : Evaluator) (last : Bool) (errors : Option Endpoint)
    (assignments : List (String × Word)) (fields : List String) : Run Unit := do
  let functions ← Run.own Local.functions
  let o := orderOf functions fields.length { words := fields }
  let name := o.words.headD ""
  let args := o.words.tail
  let prepare (hand : Bool) : Run Unit := do
    trace errors (← assignAll ev hand assignments) fields
  let body? := if o.plain then none else functions.lookup name
  let isSpecial := !o.plain && Names.special.contains name
  match body? with
  | some body =>
    restoring (← savedBefore assignments) do
      prepare true
      call ev body args
  | none =>
    if isSpecial then
      prepare (name = "exec" && !args.isEmpty)
      if name = "exec" && !args.isEmpty then exec args else performOwn ev true name args
    else
      restoring (← savedBefore assignments) do
        prepare true
        if name = "exec" then
          if args.isEmpty then Run.setStatus 0 else exec args
        else if Names.isOwn name then performOwn ev false name args
        else runProgram last o.path name o.words

def isLasting (functions : List (String × Command)) (fields : List String) : Bool :=
  let o := orderOf functions fields.length { words := fields }
  o.words.head? = some "exec" && (o.plain || (functions.lookup "exec").isNone)

def simple (ev : Evaluator) (last : Bool) (line : Nat) (assignments : List (String × Word))
    (words : List Word) (redirections : List Redirection) : Run Unit := do
  Run.modifyOwn fun l => { l with line, innerStatus := 0 }
  let fields ← fieldsOf ev words
  if fields.isEmpty then assignOnly ev assignments redirections
  else
    let functions ← Run.own Local.functions
    let errors ← Run.endpoint? 2
    let texts ← Redirect.expandAll ev redirections
    let perform : Run Bool := do
      if ← Redirect.performAll texts then
        dispatch ev last errors assignments fields
        return true
      else return false
    let done ← if isLasting functions fields then perform
      else Redirect.keeping redirections perform
    if !done then
      let name := fields.headD ""
      if Names.special.contains name && (functions.lookup name).isNone then throw (.fails 2)
      Run.setStatus 2
  checkFailure

end Formulary.Host.Script.Commands
