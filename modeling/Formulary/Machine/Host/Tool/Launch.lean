import Formulary.Machine.Host.Script.Execute
import Formulary.Machine.Host.Tool.Copy
import Formulary.Machine.Host.Tool.Surroundings

/-!
# Tools: programs that run others

Programs that change something of the process they are in and become another program then: its
environment, its directory, its group or how it takes signals. `timeout` starts the other program as
a process of its own and watches it.
-/

namespace Formulary.Host.Tool

open Formulary.Host.Script

/-! ### Becoming a program -/

/-- The status of a tool that cannot run a program. -/
def launchStatus (e : Fault) : Nat := if e = .noEntry then 127 else 126

/-- The present process becomes the program that arguments name, with its present environment. -/
def becomeNamed (argv : List String) (complaint : String → Fault → String) : Run Nat := do
  let name := argv.headD ""
  let env ← Run.environment
  match ← Run.programOf name argv env (env.lookup "PATH") with
  | .ok i => Run.become i env
  | .error e =>
    warn (complaint name e)
    return launchStatus e

def failedToRun (name : String) (e : Fault) : String :=
  "failed to run command " ++ quoted name ++ ": " ++ e.words

/-! ### env -/

/-- A blank between the words of a text. -/
def partsWords (c : Char) : Bool := " \t\n\x0b\x0c\r".toList.contains c

/-- A text that is being cut into words: the words so far, last one first, and the present one, last
character first. -/
structure WordCutting where
  words : List (List Char) := []
  word : Option (List Char) := none

/-- The word that is being put together ends. -/
def WordCutting.close (w : WordCutting) : WordCutting :=
  match w.word with
  | some word => { words := word.reverse :: w.words }
  | none => w

def WordCutting.add (w : WordCutting) (cs : List Char) : WordCutting :=
  { w with word := some (cs.reverse ++ w.word.getD []) }

def splitEscape? (c : Char) : Option Char :=
  [('f', '\x0c'), ('n', '\n'), ('r', '\r'), ('t', '\t'), ('v', '\x0b'), ('#', '#'), ('$', '$'),
    ('"', '"'), ('\'', '\''), ('\\', '\\')].lookup c

/-- Cuts a text into words, where variables in braces are replaced. `quote` is the quote the text
stands in. -/
def splitWords (env : Environment) : (fuel : Nat) → (quote : Option Char) → WordCutting →
    List Char → Except String (List String)
  | 0, _, w, _ => .ok (w.close.words.reverse.map String.ofList)
  | _ + 1, quote, w, [] =>
    if quote.isSome then .error "no terminating quote in -S string"
    else .ok (w.close.words.reverse.map String.ofList)
  | fuel + 1, quote, w, c :: s =>
    if some c = quote then splitWords env fuel none (w.add []) s
    else if quote.isNone && (c = '\'' || c = '"') then splitWords env fuel (some c) (w.add []) s
    else if quote.isNone && partsWords c then splitWords env fuel none w.close s
    else if quote.isNone && c = '#' && w.word.isNone then
      .ok (w.words.reverse.map String.ofList)
    else if c = '\\' then
      match quote, s with
      | some '\'', d :: rest =>
        if d = '\\' || d = '\'' then splitWords env fuel quote (w.add [d]) rest
        else splitWords env fuel quote (w.add ['\\']) s
      | _, [] => .error "invalid backslash at end of string in -S"
      | _, '_' :: rest =>
        if quote.isSome then splitWords env fuel quote (w.add [' ']) rest
        else splitWords env fuel quote w.close rest
      | _, 'c' :: _ =>
        if quote.isSome then .error "'\\c' must not appear in double-quoted -S string"
        else .ok (w.close.words.reverse.map String.ofList)
      | _, d :: rest =>
        match splitEscape? d with
        | some e => splitWords env fuel quote (w.add [e]) rest
        | none => .error ("invalid sequence '\\" ++ d.toString ++ "' in -S")
    else if c = '$' && quote ≠ some '\'' then
      match s with
      | '{' :: rest =>
        let name := rest.takeWhile fun d => d.isAlphanum || d = '_'
        match rest.drop name.length with
        | '}' :: rest =>
          let value := (env.lookup (String.ofList name)).getD ""
          let w := if value.isEmpty then w else w.add value.toList
          splitWords env fuel quote w rest
        | _ => .error ("only $\x7bVARNAME\x7d expansion is supported, error at: " ++
            String.ofList (c :: s))
      | _ => .error ("only $\x7bVARNAME\x7d expansion is supported, error at: " ++
          String.ofList (c :: s))
    else splitWords env fuel quote (w.add [c]) s

def envTable : OptionTable :=
  { OptionTable.make "C:iS:u:v0" "1::" ["ignore-environment=i", "null=0", "unset=u", "chdir=C",
      "split-string=S", "debug=v", "default-signal=1", "ignore-signal=1", "block-signal=1"] with
    ordered := true }

/-- Arguments in which a text that is to be cut into words has been. -/
def splitArguments (env : Environment) : (fuel : Nat) → List String →
    Except String (List String)
  | 0, args => .ok args
  | _ + 1, [] => .ok []
  | fuel + 1, arg :: rest => do
    let split (text : List Char) (rest : List String) : Except String (List String) := do
      let words ← splitWords env (text.length + 1) none {} text
      splitArguments env fuel (words ++ rest)
    let keep : Except String (List String) := do return arg :: (← splitArguments env fuel rest)
    match arg.toList with
    | '-' :: '-' :: name =>
      let mark := "split-string=".toList
      if mark.isPrefixOf name then split (name.drop mark.length) rest else keep
    | '-' :: letters =>
      let before := letters.takeWhile fun c => c ≠ 'S'
      if before.length < letters.length && before.all "iv0".toList.contains then
        let flags := if before.isEmpty then [] else [String.ofList ('-' :: before)]
        let text := letters.drop (before.length + 1)
        match text, rest with
        | [], text :: rest => return flags ++ (← split text.toList rest)
        | [], [] => return arg :: rest
        | _, _ => return flags ++ (← split text rest)
      else if letters = ['u'] || letters = ['C'] then
        return arg :: rest.take 1 ++ (← splitArguments env fuel (rest.drop 1))
      else keep
    | _ => return arg :: rest

/-- The environment after variables have been set by words with an equals sign, and the words behind
them. -/
def withAssignments (env : Environment) : List String → Environment × List String
  | [] => (env, [])
  | arg :: rest =>
    let name := arg.toList.takeWhile (· ≠ '=')
    if name.length = arg.length then (env, arg :: rest)
    else
      let key := String.ofList name
      let value := String.ofList (arg.toList.drop (name.length + 1))
      let changed := if env.any fun e => e.1 = key then
          env.map fun e => if e.1 = key then (key, value) else e
        else env ++ [(key, value)]
      withAssignments changed rest

/-- `env`: a program in another environment, or the environment itself. -/
def env : Tool := fun args => do
  let before ← Run.environment
  match splitArguments before (countLetters args + 1) args with
  | .error e =>
    warn e
    return 125
  | .ok args =>
    withOptions envTable 125 args fun said => do
      let (clean, others) := match said.others with
        | "-" :: rest => (true, rest)
        | others => (given said 'i', others)
      let unset := said.options.filterMap fun o => if o.1 = 'u' then some o.2 else none
      match unset.find? fun name => name.isEmpty || name.toList.contains '=' with
      | some name =>
        warn ("cannot unset " ++ quoted name ++ ": " ++ Fault.invalid.words)
        return 125
      | none => pure ()
      let kept := if clean then [] else before.filter fun e => !unset.contains e.1
      let (changed, command) := withAssignments kept others
      Run.modifyOwn fun l => { l with vars := Run.variablesOf changed }
      if given said '0' && !command.isEmpty then
        return ← misuse 125 "cannot specify --null (-0) with command"
      if command.isEmpty then
        if given said 'C' then
          return ← misuse 125 "must specify command with --chdir (-C)"
        let ending := if given said '0' then "\x00" else "\n"
        for (key, value) in changed do Run.put (key ++ "=" ++ value ++ ending)
        return 0
      match valueOf said 'C' with
      | some dir =>
        let refused (e : Fault) : Run Nat := do
          warn ("cannot change directory to " ++ named dir ++ ": " ++ e.words)
          return 125
        match ← look dir with
        | .ok (place, .directory) => Run.modifyOwn fun l => { l with cwd := place }
        | .ok _ => return ← refused .notDirectory
        | .error e => return ← refused e
      | none => pure ()
      let status ← becomeNamed command fun name e => quoted name ++ ": " ++ e.words
      if status = 127 && (command.headD "").toList.any partsWords then
        warn "use -[v]S to pass options in shebang lines"
      return status

/-! ### nohup, nice, stdbuf and setsid -/

/-- A table whose options end at the first other argument. -/
def leadingOptions (letters nameless : String) (names : List String) : OptionTable :=
  { OptionTable.make letters nameless names with ordered := true }

/-- `nohup`: a program that does not end when its terminal does. -/
def nohup : Tool := fun args =>
  withOptions (leadingOptions "" "" []) 125 args fun said => do
    if said.others.isEmpty then return ← misuse 125 "missing operand"
    Run.modifyOwn fun l => { l with ignored := .hangup :: l.ignored }
    becomeNamed said.others failedToRun

/-- `nice`: a program of another rank; all programs are equal here. -/
def nice : Tool := fun args =>
  withOptions (leadingOptions "n:" "" ["adjustment=n"]) 125 args fun said => do
    match valueOf said 'n' with
    | some n =>
      if (Arithmetic.signed? n).isNone then
        warn ("invalid adjustment " ++ quoted n)
        return 125
      if said.others.isEmpty then
        return ← misuse 125 "a command must be given with an adjustment"
    | none =>
      if said.others.isEmpty then
        Run.put "0\n"
        return 0
    becomeNamed said.others fun name e => quoted name ++ ": " ++ e.words

/-- `stdbuf`: a program that holds output back in another way. -/
def stdbuf : Tool := fun args =>
  let table := leadingOptions "i:o:e:" "" ["input=i", "output=o", "error=e"]
  withOptions table 125 args fun said => do
    if said.others.isEmpty then return ← misuse 125 "missing operand"
    match said.options.find? fun o => o.2 ≠ "L" && (countWithUnit? o.2.toList).isNone with
    | some o =>
      warn ("invalid mode " ++ quoted o.2)
      return 125
    | none => pure ()
    if said.options.isEmpty then
      return ← misuse 125 "you must specify a buffering mode option"
    match valueOf said 'o' with
    | some mode =>
      Run.setVariable Run.immediateVariable mode
      Run.exportVariable Run.immediateVariable
    | none => pure ()
    becomeNamed said.others failedToRun

/-- `setsid`: a program that is in no group with others. -/
def setsid : Tool := fun args =>
  withOptions (leadingOptions "cfw" "" ["ctty=c", "fork=f", "wait=w"]) 1 args fun said => do
    if said.others.isEmpty then return ← misuse 1 "no command specified"
    let complaint (name : String) (e : Fault) : String :=
      "failed to execute " ++ name ++ ": " ++ e.words
    let alone (l : Local) : Local := { l with group := l.pid }
    let l ← Run.own id
    if l.group ≠ l.pid && !given said 'f' then
      Run.modifyOwn alone
      return ← becomeNamed said.others complaint
    let env ← Run.environment
    let name := said.others.headD ""
    match ← Run.programOf name said.others env (env.lookup "PATH") with
    | .error e =>
      warn (complaint name e)
      return if given said 'w' then launchStatus e else 0
    | .ok i =>
      let pid ← Run.startProgram i env alone
      if given said 'w' then return Run.statusNumber (← Run.await pid)
      return 0

/-! ### timeout and kill -/

/-- The signal a tool is told by name, which may begin like all names of signals do, or by
number. -/
def signalOf? (s : String) : Option Signal :=
  match Text.natural? s.toList with
  | some n => if 0 < n && n ≤ Signal.last then some ⟨n⟩ else none
  | none =>
    let upper := s.toUpper
    let short := if "SIG".toList.isPrefixOf upper.toList then String.ofList (upper.toList.drop 3)
      else upper
    (Signal.names.findIdx? (· = short)).map fun i => ⟨i + 1⟩

/-- How a program that is watched came to its end or will come to it. -/
structure Watching where
  pid : Nat
  /-- When it gets a signal. -/
  deadline : Option Moment
  /-- The signal it gets then. -/
  signal : Signal
  /-- How long after that it is killed. -/
  patience : Span
  /-- The others of the group are left alone. -/
  alone : Bool
  /-- Its time was over. -/
  isOver : Bool := false

/-- Hands a signal to a program that is watched, and to all of the group. -/
def Watching.hand (w : Watching) (signal : Signal) : Run Watching := do
  let _ ← Run.send (some signal) w.pid
  if !w.alone then
    Run.modifyOwn fun l => { l with ignored := signal :: l.ignored }
    let _ ← Run.send (some signal) 0
    if signal ≠ .kill && signal ≠ .resume then
      let _ ← Run.send (some .resume) w.pid
      let _ ← Run.send (some .resume) 0
  match w.patience with
  | some span =>
    if span = 0 then return { w with deadline := none }
    else return { w with
      signal := .kill, patience := some 0, deadline := some ((← get).clock + span) }
  | none => return { w with deadline := none }

def Watching.watch (w : Watching) (tell : Signal → Run Unit) : (fuel : Nat) →
    Run (ExitStatus × Bool)
  | 0 => return (.exited 125, w.isOver)
  | fuel + 1 => do
    match ← Run.takeEnding? w.pid with
    | some status => return (status, w.isOver)
    | none =>
      match ← Run.takeTrapped? with
      | some (signal, _) => Watching.watch (← w.hand signal) tell fuel
      | none =>
        let clock := (← get).clock
        if w.deadline.any (· ≤ clock) then
          tell w.signal
          Watching.watch (← Watching.hand { w with isOver := true } w.signal) tell fuel
        else
          let wake := Wake.either (.ended [w.pid]) .signal
          Run.waitFor (match w.deadline with
            | some moment => .either wake (.at moment)
            | none => wake)
          Watching.watch w tell fuel

/-- `timeout`: a program that gets a signal when its time is over. -/
def timeout : Tool := fun args => do
  let table := leadingOptions "k:s:v" "12" ["kill-after=k", "signal=s", "verbose=v", "foreground=1",
    "preserve-status=2"]
  withOptions table 125 args fun said => do
    let wrongSpan (s : String) : Run Nat := misuse 125 ("invalid time interval " ++ quoted s)
    match valueOf said 's' with
    | some name =>
      if (signalOf? name).isNone then return ← misuse 125 (quoted name ++ ": invalid signal")
    | none => pure ()
    let patience := ((valueOf said 'k').map span?).getD (some (some 0))
    if patience.isNone then return ← wrongSpan ((valueOf said 'k').getD "")
    match said.others with
    | [] | [_] =>
      hint
      return 125
    | duration :: command =>
      match span? duration with
      | none => wrongSpan duration
      | some span =>
        let name := command.headD ""
        if !given said '1' then Run.modifyOwn fun l => { l with group := l.pid }
        let env ← Run.environment
        match ← Run.programOf name command env (env.lookup "PATH") with
        | .error e =>
          warn (failedToRun name e)
          return launchStatus e
        | .ok i =>
          let pid ← Run.startProgram i env id
          let handled : List Signal := [.hangup, .interrupt, .quit, .terminate]
          Run.modifyOwn fun l => { l with traps := handled.map fun s => (some s, name) }
          let clock := (← get).clock
          let tell (signal : Signal) : Run Unit := do
            if given said 'v' then
              warn ("sending signal " ++ signal.shortName?.getD (toString signal.number) ++
                " to command " ++ quoted name)
          let w : Watching := {
            pid
            deadline := span.bind fun n => if n = 0 then none else some (clock + n)
            signal := ((valueOf said 's').bind signalOf?).getD .terminate
            patience := patience.getD (some 0)
            alone := given said '1' }
          let (status, isOver) ← w.watch tell Run.mostRepeats
          match status with
          | .signaled signal _ => if !isOver then throw (.killed signal)
          | .exited _ => pure ()
          if isOver && !given said '2' && status ≠ .signaled .kill false then return 124
          return Run.statusNumber status

/-- `kill` as a program: a signal for processes. -/
def kill : Tool := fun args => do
  let (signal, pids) := match args with
    | "-s" :: name :: rest => (some name, rest)
    | first :: rest =>
      match first.toList with
      | '-' :: name => if name = ['-'] then (none, rest) else (some (String.ofList name), rest)
      | _ => (none, args)
    | [] => (none, [])
  let number? : Option (Option Signal) := match signal with
    | none => some (some .terminate)
    | some "0" => some none
    | some name => (signalOf? name).map some
  match number? with
  | none => refuse ("unknown signal " ++ signal.getD "")
  | some chosen =>
    if pids.isEmpty then return ← refuse "not enough arguments"
    let mut good := true
    for pid in pids do
      match Arithmetic.signed? pid with
      | some n =>
        if !(← Run.send chosen n) then
          warn ("(" ++ pid ++ "): No such process")
          good := false
      | none =>
        warn ("failed to parse argument: '" ++ pid ++ "'")
        good := false
    return statusFor good

end Formulary.Host.Tool
