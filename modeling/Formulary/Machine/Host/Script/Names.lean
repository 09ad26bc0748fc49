import Formulary.Machine.Host.Script.Expand
import Formulary.Machine.Host.Script.Options

/-!
# Scripts: what names stand for

A name at the start of a command may be a word of the language, an alias, a function, one of the
shell's own commands or a program.
-/

namespace Formulary.Host.Script.Names

/-! ### The shell's own commands -/

/-- The commands that belong to the language; a fault in one of them ends the shell. -/
def special : List String :=
  [":", ".", "break", "continue", "eval", "exec", "exit", "export", "local", "readonly", "return",
    "set", "shift", "times", "trap", "unset"]

def ordinary : List String :=
  ["[", "alias", "bg", "cd", "chdir", "command", "echo", "false", "fg", "getopts", "hash", "jobs",
    "kill", "printf", "pwd", "read", "test", "true", "type", "ulimit", "umask", "unalias", "wait"]

/-- The name is that of one of the shell's own commands. -/
def isOwn (name : String) : Bool := special.contains name || ordinary.contains name

/-! ### Programs -/

/-- Where the shell looks for programs if nothing else is said. -/
def usualPath : String := "/usr/local/sbin:/usr/local/bin:/usr/sbin:/usr/bin:/sbin:/bin"

/-- The first file of a name in the directories of a path, of the files that count. -/
def fileOf? (counts : Node → Bool) (path name : String) : Run (Option String) := do
  let s ← get
  let isThere (p : String) : Bool := match s.files.find s.own.cwd ⟨Text.ofOctets p⟩ with
    | .ok (_, node) => node.isRegular && counts node
    | .error _ => false
  return ((Lookup.directories path).map (Lookup.inDirectory · name)).find? isThere

def searchPath : Run String := return (← Run.valueOf? "PATH").getD ""

/-! ### Telling what a name stands for -/

/-- What a name stands for. -/
inductive Meaning where
  | keyword
  | alias (text : String)
  | function
  | own (isSpecial : Bool)
  | program (path : String) (isKnown : Bool)
  | unknown

/-- What a name stands for, where programs are looked for along a path. -/
def meaningOf (path name : String) : Run Meaning := do
  let l ← Run.own id
  if Read.reserved.contains name then return .keyword
  match l.aliases.lookup name with
  | some text => return .alias text
  | none => pure ()
  if (l.functions.lookup name).isSome then return .function
  if isOwn name then return .own (special.contains name)
  if name.toList.contains '/' then
    let s ← get
    return if s.files.exists? s.own.cwd ⟨Text.ofOctets name⟩ then .program name false else .unknown
  match ← fileOf? Node.isExecutable path name with
  | some file => return .program file (l.known.contains name)
  | none => return .unknown

/-- The sentence that tells what a name stands for. -/
def sentence (name : String) : Meaning → String
  | .keyword => name ++ " is a shell keyword"
  | .alias text => name ++ " is an alias for " ++ text
  | .function => name ++ " is a shell function"
  | .own true => name ++ " is a special shell builtin"
  | .own false => name ++ " is a shell builtin"
  | .program path true => name ++ " is a tracked alias for " ++ path
  | .program path false => name ++ " is " ++ path
  | .unknown => name ++ ": not found"

/-- What would be written in the place of a name. -/
def short (name : String) : Meaning → Option String
  | .alias text => some ("alias " ++ name ++ "=" ++ Options.singleQuoted text)
  | .program path _ => some path
  | .unknown => none
  | _ => some name

def type (args : List String) : Run Nat := do
  let mut status := 0
  let path ← searchPath
  for name in args do
    let meaning ← meaningOf path name
    Run.put (sentence name meaning ++ "\n")
    match meaning with
    | .unknown => status := 127
    | _ => pure ()
  return status

/-- `command` with an option that asks what a name stands for. -/
def describe (args : List String) : Run Nat := do
  let (options, names) ← Options.take "command" "pvV" args
  let path ← if Options.given options 'p' then pure usualPath else searchPath
  match names with
  | [] => return 0
  | name :: _ =>
    let meaning ← meaningOf path name
    let text := if Options.given options 'V' then some (sentence name meaning)
      else if Options.given options 'v' then short name meaning else none
    match text with
    | some text => Run.put (text ++ "\n")
    | none => pure ()
    return match meaning with
      | .unknown => 127
      | _ => 0

/-- `hash`: programs that are known by their names. -/
def hash (args : List String) : Run Nat := do
  let (options, names) ← Options.take "hash" "rv" args
  if Options.given options 'r' then
    Run.modifyOwn fun l => { l with known := [] }
    return 0
  let path ← searchPath
  if names.isEmpty then
    for name in ← Run.own Local.known do
      match ← fileOf? Node.isExecutable path name with
      | some file => Run.put (file ++ "\n")
      | none => pure ()
    return 0
  let mut status := 0
  for name in names do
    match ← meaningOf path name with
    | .unknown =>
      Run.blame ("hash: " ++ name ++ ": not found")
      status := 1
    | .program _ false => Run.modifyOwn fun l => { l with known := name :: l.known }
    | _ => pure ()
  return status

/-! ### Aliases -/

def aliases (args : List String) : Run Nat := do
  let shown (entry : String × String) : String :=
    entry.1 ++ "=" ++ Options.singleQuoted entry.2 ++ "\n"
  let all ← Run.own Local.aliases
  if args.isEmpty then
    for entry in all.mergeSort fun a b => Run.chainOf a.1 ≤ Run.chainOf b.1 do Run.put (shown entry)
    return 0
  let mut status := 0
  for arg in args do
    -- an equals sign at the very start belongs to the name
    let name := arg.toList.take 1 ++ (arg.toList.drop 1).takeWhile (· ≠ '=')
    let key := String.ofList name
    let known ← Run.own Local.aliases
    if name.length = arg.length then
      match known.lookup key with
      | some text => Run.put (shown (key, text))
      | none =>
        Run.complain ("alias: " ++ key ++ " not found\n")
        status := 1
    else
      let text := String.ofList (arg.toList.drop (name.length + 1))
      Run.modifyOwn fun l => { l with
        aliases := l.aliases.filter (fun entry => entry.1 ≠ key) ++ [(key, text)] }
  return status

/-- `unalias`: words that stand for themselves again. -/
def unalias (args : List String) : Run Nat := do
  let (options, names) ← Options.take "unalias" "a" args
  if Options.given options 'a' then
    Run.modifyOwn fun l => { l with aliases := [] }
    return 0
  let mut status := 0
  for name in names do
    if (← Run.own Local.aliases).any fun entry => entry.1 = name then
      Run.modifyOwn fun l => { l with aliases := l.aliases.filter fun entry => entry.1 ≠ name }
    else
      Run.complain ("unalias: " ++ name ++ " not found\n")
      status := 1
  return status

end Formulary.Host.Script.Names
