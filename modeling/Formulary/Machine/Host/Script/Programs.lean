import Formulary.Machine.Host.Script.Perform
import Formulary.Machine.Host.Tool.Catalogue

/-!
# Scripts: programs

What a new process does: it performs a command of the script it was split off from, or it runs a
program, which may be the shell itself, one of the machine's tools, or turn into another program.
-/

namespace Formulary.Host.Script.Programs

/-! ### The shell -/

/-- The variables a shell has before it looks at its environment. -/
def usualVariables : List Variable :=
  [("OPTIND", "1"), ("PS4", "+ "), ("PS2", "> "), ("PS1", "$ "), ("PATH", Names.usualPath),
    ("IFS", " \t\n")].map fun (name, value) => { name, value := some value }

/-- The variables of a shell at its start: its own ones, and those of its environment whose names
are names of variables. -/
def shellVariables (l : Local) : List Variable :=
  let given := l.vars.filter fun v => Environment.isName v.name
  let all := given.foldl (fun vars v => Run.withVariable v.name (fun _ => v) vars) usualVariables
  let fixed := [("IFS", " \t\n"), ("OPTIND", "1"), ("PPID", toString l.parent)]
  fixed.foldl (fun vars (name, value) =>
    Run.withVariable name (fun v => { v with value := some value }) vars) all

/-- The way to the present directory that the environment tells, if it leads there. -/
def givenWay? : Run (Option String) := do
  let s ← get
  match (s.own.vars.find? fun v => v.name = "PWD").bind Variable.value with
  | none => return none
  | some path =>
    match path.toList.head?, s.files.find s.own.cwd ⟨Text.ofOctets path⟩ with
    | some '/', .ok (place, _) => return if place = s.own.cwd then some path else none
    | _, _ => return none

/-- What the arguments of the shell say. -/
structure Call where
  /-- The commands are the first argument. -/
  isText : Bool := false
  rest : List String := []

def options : (fuel : Nat) → Call → Run Call
  | 0, c => return c
  | fuel + 1, c => do
    let fail (text : String) : Run Unit := Run.blame text *> throw (.leave 2)
    match c.rest with
    | [] => return c
    | arg :: rest =>
      match arg.toList with
      | ['-', '-'] | ['-'] => return { c with rest }
      | '-' :: letters =>
        let others := letters.filter fun x => x ≠ 'c' && x ≠ 'l'
        let rest ← Variables.setLetters fail true others rest
        options fuel { isText := c.isText || letters.contains 'c', rest }
      | '+' :: letters =>
        options fuel { c with rest := ← Variables.setLetters fail false letters rest }
      | _ => return c

def fromInput (ev : Evaluator) (params : List String) : Run Unit := do
  Run.modifyOwn fun l => Variables.setOption true 's' { l with params }
  let text := (← Run.readAll 0).toOption.getD .empty
  Source.withExitTrap ev (Source.runText ev .file (String.ofList (Run.characters text)))

/-- The shell as a program: its options, then a text or a file of commands. -/
def shell (ev : Evaluator) (args : List String) : Run Unit := do
  let way ← givenWay?
  Run.modifyOwn fun l => { l with vars := shellVariables l, way := way.getD "", line := 0 }
  Directory.publish "PWD" (← Directory.way)
  let c ← options (args.length + 1) { rest := args }
  Variables.declineControl ""
  let l ← Run.own id
  match c.isText, c.rest with
  | true, [] =>
    Run.blame "-c requires an argument"
    throw (.leave 2)
  | true, text :: rest =>
    Run.modifyOwn fun l => { l with
      arg0 := rest.headD l.arg0, params := rest.drop 1, line := 1 }
    Source.withExitTrap ev (Source.runText ev .word text)
  | false, file :: rest =>
    if Variables.isSet l 's' then return ← fromInput ev c.rest
    match ← Run.openFd file .reading with
    | .error e =>
      let _ ← Redirect.openFault "open" file "No such file" e
      throw (.leave 2)
    | .ok fd =>
      let text := (← Run.readAll fd).toOption.getD .empty
      Run.close fd
      Run.modifyOwn fun l => { l with arg0 := file, params := rest, line := 1 }
      Source.withExitTrap ev (Source.runText ev .file (String.ofList (Run.characters text)))
  | false, [] => fromInput ev []

/-! ### Tools -/

/-- What a tool says that cannot write its results, and the status it ends with. -/
def unwritten (name : String) (e : Fault) : List String × Nat :=
  let closed := e = .badDescriptor
  let usual := "write error: " ++ e.words
  let output := "standard output: " ++ e.words
  match name with
  | "cat" => ([if closed then output else usual], 1)
  | "yes" => ([output], 1)
  | "tee" => (["'standard output': " ++ e.words], 1)
  | "find" => (["'standard output': " ++ e.words, if closed then usual else "write error"], 1)
  | "sort" => (["fflush failed: 'standard output': " ++ e.words, "write error"], 2)
  | "sed" => (["couldn't " ++ (if closed then "close" else "flush") ++ " stdout: " ++ e.words], 4)
  | "cmp" | "diff" => ([output], 2)
  | "grep" | "egrep" | "fgrep" | "ls" | "printenv" => ([usual], 2)
  | "expr" => ([usual], 3)
  | "env" => ([usual], 125)
  | "wc" => ([if closed then usual else "write error"], 1)
  | _ => ([usual], 1)

/-- Runs a tool and writes what it has put out. -/
def runTool (name : String) (tool : Tool) (args : List String) : Run Unit := do
  let status ← tool args
  Run.flush
  match ← Run.own Local.unwritten with
  | none => Run.setStatus status
  | some e =>
    let (said, worst) := unwritten name e
    for text in said do
      Run.complain ((← Run.own Local.arg0) ++ ": " ++ text ++ "\n")
    Run.setStatus (max status worst)

def runImage (ev : Evaluator) (i : Lookup.Image) : Run Unit := do
  let args := i.argv.drop 1
  if Tool.Catalogue.shellNames.contains i.program then shell ev args
  else
    match Tool.Catalogue.tools.lookup i.program with
    | some tool => runTool i.program tool args
    | none => Run.setStatus 127

/-! ### Processes -/

/-- Does the work of a process, whatever it becomes. -/
def work (ev : Evaluator) : (fuel : Nat) → Work → Run Unit
  | 0, _ => Run.waitFor .never
  | fuel + 1, w => do
    let steps : Run Unit := match w with
      | .command body texts => Source.withExitTrap ev (Perform.conclude ev body texts)
      | .program i => runImage ev i
    match ← Run.caught steps with
    | .ok _ => return ()
    | .error (.becomes i) =>
      Run.tick Run.loadTime
      work ev fuel (.program i)
    | .error e => throw e

/-- How a new process ends that does its work. -/
def begins (w : Work) : Run ExitStatus := do
  let result ← Run.caught (work (Perform.evaluatorAt Perform.deepestCall) Run.mostRepeats w)
  return Run.statusOf result (← Run.own Local.status)

end Formulary.Host.Script.Programs
