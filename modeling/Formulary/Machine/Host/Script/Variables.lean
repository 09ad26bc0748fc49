import Formulary.Machine.Host.Script.Expand
import Formulary.Machine.Host.Script.Options

/-!
# Scripts: variables and parameters

The shell's commands about variables, parameters and options.
-/

namespace Formulary.Host.Script.Variables

/-! ### Declaring -/

/-- The name and the value of an argument, where there is an equals sign. -/
def declaration (arg : String) : String × Option String :=
  let name := arg.toList.takeWhile (· ≠ '=')
  (String.ofList name,
    if name.length = arg.length then none
    else some (String.ofList (arg.toList.drop (name.length + 1))))

/-- A name that is none for a variable. -/
def checkName (command name : String) : Run Unit := do
  if !Environment.isName name then Run.abort (command ++ ": " ++ name ++ ": bad variable name")

/-- A command cannot change a variable that is to stay as it is. -/
def checkFree (command name : String) : Run Unit := do
  if ← Run.own fun l => l.vars.any fun v => v.name = name && v.fixed then
    Run.abort (command ++ ": " ++ name ++ ": is read only")

/-- Declares variables, each with a mark and perhaps a value. -/
def declare (command : String) (mark : Variable → Variable) : List String → Run Nat
  | [] => return 0
  | arg :: rest => do
    let (name, value) := declaration arg
    checkName command name
    match value with
    | some value =>
      checkFree command name
      Run.setVariable name value
    | none => pure ()
    Run.modifyOwn fun l => { l with vars := Run.withVariable name mark l.vars }
    declare command mark rest

/-- The variables in the order of their names. -/
def sorted : Run (List Variable) :=
  return (← Run.own Local.vars).mergeSort fun a b => a.name ≤ b.name

/-- Shows variables of a kind, each behind the command that declares it. -/
def showAll (command : String) (kind : Variable → Bool) : Run Nat := do
  for v in ← sorted do
    if kind v then
      let shown := match v.value with
        | some value => "=" ++ Options.singleQuoted value
        | none => ""
      Run.put (command ++ " " ++ v.name ++ shown ++ "\n")
  return 0

def declaring (command : String) (kind : Variable → Bool) (mark : Variable → Variable)
    (args : List String) : Run Nat := do
  let (options, args) ← Options.take command "p" args
  if args.isEmpty || Options.given options 'p' then showAll command kind
  else declare command mark args

/-- `local`: variables that are as before when the function is over. -/
def localNames (args : List String) : Run Nat := do
  if (← Run.own Local.calls) = 0 then Run.abort "local: not in a function"
  for arg in args do
    let (name, _) := declaration arg
    checkName "local" name
    checkFree "local" name
    let old := ((← Run.own Local.vars).find? fun v => v.name = name).getD { name, value := none }
    Run.modifyOwn fun l => { l with saved := old :: l.saved }
  declare "local" id args

/-- `unset`: variables or functions that are no more. -/
def unset (args : List String) : Run Nat := do
  let (options, names) ← Options.take "unset" "vf" args
  if (options.getLast?.map Prod.fst) = some 'f' then
    Run.modifyOwn fun l => { l with functions := l.functions.filter fun f => !names.contains f.1 }
    return 0
  for name in names do
    checkName "unset" name
    checkFree "unset" name
    Run.modifyOwn fun l => { l with
      vars := l.vars.filter fun v => v.name ≠ name
      optionsRead := if name = "OPTIND" then (1, 0) else l.optionsRead }
  return 0

def restore (saved : List Variable) : Run Unit :=
  Run.modifyOwn fun l => { l with
    vars := saved.foldl (fun vars v =>
      if v.value.isNone && !v.exported && !v.fixed then vars.filter fun u => u.name ≠ v.name
      else Run.withVariable v.name (fun _ => v) vars) l.vars }

/-! ### Options and parameters -/

/-- The names of the options, each with its letter if it has one. -/
def optionNames : List (String × Option Char) := [("errexit", some 'e'), ("noglob", some 'f'),
  ("ignoreeof", some 'I'), ("interactive", some 'i'), ("monitor", some 'm'), ("noexec", some 'n'),
  ("stdin", some 's'), ("xtrace", some 'x'), ("verbose", some 'v'), ("vi", some 'V'),
  ("emacs", some 'E'), ("noclobber", some 'C'), ("allexport", some 'a'), ("notify", some 'b'),
  ("nounset", some 'u'), ("privileged", some 'p'), ("nolog", none), ("debug", none)]

def optionLetters : List Char := optionNames.filterMap Prod.snd

/-- Sets an option by its letter, or takes it back. -/
def setOption (on : Bool) (c : Char) (l : Local) : Local :=
  let o := l.settings
  let settings := match c with
    | 'e' => { o with stopAtFailure := on }
    | 'u' => { o with strictVariables := on }
    | 'x' => { o with tracing := on }
    | 'v' => { o with echoing := on }
    | 'f' => { o with plainPatterns := on }
    | 'n' => { o with readsOnly := on }
    | 'C' => { o with keepsFiles := on }
    | 'a' => { o with exportsAll := on }
    | c =>
      let others := o.others.filter (· ≠ c)
      { o with others := if on then c :: others else others }
  { l with settings }

def isSet (l : Local) (c : Char) : Bool := (Expand.options l.settings).toList.contains c

/-- Shows all options, as a list or as commands that set them. -/
def showOptions (asList : Bool) : Run Unit := do
  let l ← Run.own id
  if asList then Run.put "Current option settings\n"
  for (name, letter) in optionNames do
    let on := letter.any (isSet l)
    if asList then
      Run.put (name ++ String.ofList (List.replicate (16 - name.length) ' ') ++
        (if on then "on" else "off") ++ "\n")
    else Run.put ((if on then "set -o " else "set +o ") ++ name ++ "\n")

/-- Sets options by their letters, where `o` takes a name from the other arguments; what is left of
those. `fail` is what happens if there is no such option. -/
def setLetters (fail : String → Run Unit) (on : Bool) : List Char → List String →
    Run (List String)
  | [], rest => return rest
  | 'o' :: letters, rest => do
    match rest with
    | [] =>
      showOptions on
      setLetters fail on letters []
    | name :: rest =>
      match optionNames.lookup name with
      | none => fail ("Illegal option -o " ++ name)
      | some none => pure ()
      | some (some c) => Run.modifyOwn (setOption on c)
      setLetters fail on letters rest
  | c :: letters, rest => do
    if optionLetters.contains c then Run.modifyOwn (setOption on c)
    else fail ("Illegal option -" ++ c.toString)
    setLetters fail on letters rest

/-- The shell that was started first cannot take charge of a terminal, as there is none. -/
def declineControl (command : String) : Run Unit := do
  let l ← Run.own id
  if isSet l 'm' && l.pid = l.mainPid then
    Run.blame (command ++ "can't access tty; job control turned off")
    Run.modifyOwn (setOption false 'm')

/-- Other parameters take the place of the present ones. -/
def setParameters (params : List String) : Run Unit :=
  Run.modifyOwn fun l => { l with params, optionsRead := (1, 0) }

def setFrom : (fuel : Nat) → List String → Run Unit
  | 0, _ | _, [] => return ()
  | fuel + 1, arg :: rest => do
    let fail (text : String) : Run Unit := Run.abort ("set: " ++ text)
    match arg.toList with
    | ['-', '-'] => setParameters rest
    | ['-'] =>
      Run.modifyOwn fun l => setOption false 'x' (setOption false 'v' l)
      if !rest.isEmpty then setParameters rest
    | '-' :: letters => setFrom fuel (← setLetters fail true letters rest)
    | '+' :: letters => setFrom fuel (← setLetters fail false letters rest)
    | _ => setParameters (arg :: rest)

/-- `set`: options and parameters, or all variables shown. -/
def set (args : List String) : Run Nat := do
  if args.isEmpty then
    for v in ← sorted do
      match v.value with
      | some value => Run.put (v.name ++ "=" ++ Options.singleQuoted value ++ "\n")
      | none => pure ()
  else
    setFrom (args.length + 1) args
    declineControl "set: "
  return 0

/-- `shift`: parameters without the first ones of them. -/
def shift (args : List String) : Run Nat := do
  let n ← Options.numberOr "shift" 1 args
  if (← Run.own fun l => l.params.length) < n then Run.abort "shift: can't shift that many"
  Run.modifyOwn fun l => { l with params := l.params.drop n, optionsRead := (1, 0) }
  return 0

/-! ### read -/

/-- A line put together from its pieces; backslashes protect characters and join lines unless they
are characters like any other. -/
def logicalLine (raw : Bool) : (fuel : Nat) → List Marked → Run (List Marked × Bool)
  | 0, out => return (out.reverse, false)
  | fuel + 1, out => do
    match ← Run.readLine 0 with
    | .error _ => return (out.reverse, false)
    | .ok (line, closed) =>
      let line := line.filter fun c => c.toNat ≠ 0
      if raw then return (out.reverse ++ line.map (·, false), closed)
      let rec strip : List Char → List Marked → List Marked × Bool
        | '\\' :: c :: s, out => strip s ((c, true) :: out)
        | ['\\'], out => (out, true)
        | c :: s, out => strip s ((c, false) :: out)
        | [], out => (out, false)
      let (out, continues) := strip line out
      if continues && closed then logicalLine raw fuel out
      else return (out.reverse, closed)

def isBlankIn (separators : List Char) (m : Marked) : Bool :=
  !m.2 && " \t\n".toList.contains m.1 && separators.contains m.1

/-- The fields of a line for so many names; the last one gets the rest. -/
def lineFields (separators : List Char) : (count : Nat) → List Marked → List String
  | 0, _ => []
  | count + 1, s =>
    let isBlank := isBlankIn separators
    let parts (m : Marked) : Bool := !m.2 && separators.contains m.1
    let s := s.dropWhile isBlank
    let field := s.takeWhile fun m => !parts m
    let behind := (s.drop field.length).dropWhile isBlank
    let rest := match behind with
      | m :: rest => if parts m then rest.dropWhile isBlank else behind
      | [] => []
    if s.isEmpty then []
    else if count = 0 then
      -- a single separator at the very end belongs to nobody
      if rest.isEmpty && behind.length ≤ 1 then [Expand.plain field]
      else [Expand.plain (s.reverse.dropWhile isBlank).reverse]
    else Expand.plain field :: lineFields separators count rest

/-- `read`: a line of the input, cut into variables. -/
def read (args : List String) : Run Nat := do
  let (options, names) ← Options.take "read" "p:r" args
  if names.isEmpty then Run.abort "read: arg count"
  let (line, closed) ← logicalLine (Options.given options 'r') Run.mostRepeats []
  let fields := lineFields (← Expand.separators) names.length line
  for (name, i) in names.zipIdx do
    checkName "read" name
    checkFree "read" name
    Run.setVariable name (fields.getD i "")
  return if closed then 0 else 1

/-! ### getopts -/

/-- What `getopts` finds. -/
structure Found where
  letter : String
  value : Option String := none
  complaint : String := ""
  /-- The word that is next. -/
  word : Nat
  /-- Where to go on in the word before it; zero at its end. -/
  offset : Nat := 0
  isOver : Bool := false

/-- The next option of words, from a word and an offset in the word before it on. -/
def nextOption (letters : String) (words : List String) (word offset : Nat) : Found :=
  let isQuiet := letters.toList.head? = some ':'
  let current := ((words[word - 2]?).getD "").toList
  let inside : Option (List Char) :=
    if word ≤ 1 || offset = 0 || current.length < offset then none
    else match current.drop offset with
      | [] => none
      | rest => some rest
  let started : Except Nat (List Char × Nat) := match inside with
    | some rest => .ok (rest, word)
    | none =>
      match (words[word - 1]?).map String.toList with
      | some ['-', '-'] => .error (word + 1)
      | some ('-' :: c :: rest) => .ok (c :: rest, word + 1)
      | _ => .error word
  match started with
  | .error word => { letter := "?", word, isOver := true }
  | .ok ([], word) => { letter := "?", word, isOver := true }
  | .ok (c :: rest, word) =>
    let here (rest : List Char) : Nat :=
      if rest.isEmpty then 0 else ((words[word - 2]?).getD "").length - rest.length
    let known := if c = ':' then none else Options.kind? c (if isQuiet then
        letters.toList.drop 1 else letters.toList)
    match known with
    | none =>
      if isQuiet then { letter := "?", value := some c.toString, word, offset := here rest }
      else {
        letter := "?", word, offset := here rest
        complaint := "Illegal option -" ++ c.toString ++ "\n" }
    | some false => { letter := c.toString, value := some "", word, offset := here rest }
    | some true =>
      match rest, words[word - 1]? with
      | [], none =>
        if isQuiet then { letter := ":", value := some c.toString, word }
        else { letter := "?", word, complaint := "No arg for -" ++ c.toString ++ " option\n" }
      | [], some value => { letter := c.toString, value := some value, word := word + 1 }
      | _, _ => { letter := c.toString, value := some (String.ofList rest), word }

/-- `getopts`: the next option of the parameters, or of other words. -/
def getopts (args : List String) : Run Nat := do
  match args with
  | letters :: name :: rest =>
    let l ← Run.own id
    let words := if rest.isEmpty then l.params else rest
    let (word, offset) := if words.length + 1 < l.optionsRead.1 then (1, 0) else l.optionsRead
    let found := nextOption letters words word offset
    if !found.complaint.isEmpty then Run.complain found.complaint
    if !found.isOver then
      match found.value with
      | some value => Run.setVariable "OPTARG" value
      | none => Run.modifyOwn fun l => { l with vars := l.vars.filter fun v => v.name ≠ "OPTARG" }
    Run.setVariable "OPTIND" (toString found.word)
    Run.modifyOwn fun l => { l with optionsRead := (found.word, found.offset) }
    checkName "getopts" name
    checkFree "getopts" name
    Run.setVariable name found.letter
    return if found.isOver then 1 else 0
  | _ => Run.abort "getopts: Usage: getopts optstring var [arg...]"

end Formulary.Host.Script.Variables
