import Formulary.Machine.Host.Script.Process

/-!
# Scripts: executing programs

What a program's name comes to for a process that runs it, and what becomes of a process when it
begins as a program or turns into one.
-/

namespace Formulary.Host.Script.Run

/-- Variables from an environment. What stands before the first equals sign is the name. -/
def variablesOf (env : Environment) : List Variable :=
  env.map fun (key, value) =>
    let text := key ++ "=" ++ value
    let name := text.toList.takeWhile (· ≠ '=')
    { name := String.ofList name
      value := some (String.ofList (text.toList.drop (name.length + 1)))
      exported := true }

/-- The variable that tells programs to hold no output back. -/
def immediateVariable : String := "_STDBUF_O"

/-- A process in which a program begins. Of what was there before, only what the machine itself
keeps of a process is left. -/
def programLocal (argv : List String) (env : Environment) (l : Local) : Local where
  pid := l.pid
  parent := l.parent
  group := l.group
  mainPid := l.pid
  arg0 := argv.headD ""
  params := argv.drop 1
  vars := variablesOf env
  cwd := l.cwd
  endpoints := l.endpoints.filter fun p => p.1 < firstHidden
  mask := l.mask
  limits := l.limits
  immediate := (env.lookup immediateVariable).isSome
  ignored := l.ignored ++ l.traps.filterMap fun t => if t.2 = "" then t.1 else none

/-- What running a program by its name comes to. -/
def programOf (name : String) (argv : List String) (env : Environment) (path : Option String) :
    Run (Except Fault Lookup.Image) := do
  let s ← get
  return Lookup.resolve (fun p => Lookup.imageOrScript s.files s.own.cwd p argv env)
    (path.getD Lookup.standardPath) name

def become {α : Type} (i : Lookup.Image) (env : Environment) : Run α := do
  modifyOwn (programLocal i.argv env)
  throw (.becomes i)

/-- Starts a program as a process of its own. -/
def startProgram (i : Lookup.Image) (env : Environment) (change : Local → Local) : Run Nat :=
  start (.program i) fun l => change (programLocal i.argv env l)

end Formulary.Host.Script.Run
