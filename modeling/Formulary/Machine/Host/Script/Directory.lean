import Formulary.Machine.Host.Script.Options
import Formulary.Machine.Host.Tool.Listing

/-!
# Scripts: the present directory

A shell remembers the way it came to its directory, which may lead through links; a step upwards
goes back on that way.
-/

namespace Formulary.Host.Script.Directory

def way : Run String := do
  let l ← Run.own id
  return if l.way.isEmpty then Tool.placeText l.cwd else l.way

/-- A way with a path behind it, without steps that lead nowhere. -/
def onward (way path : String) : String :=
  let parts (s : String) : List (List Char) := Text.splitAt '/' s.toList
  let isAbsolute := path.toList.head? = some '/'
  let names := (if isAbsolute then [] else parts way) ++ parts path
  let step (out : List (List Char)) (name : List Char) : List (List Char) :=
    if name.isEmpty || name = ['.'] then out
    else if name = ['.', '.'] then out.tail
    else name :: out
  let walked := (names.foldl step []).reverse
  let isDouble := "//".toList.isPrefixOf path.toList && !"///".toList.isPrefixOf path.toList
  (if isDouble then "//" else "/") ++ "/".intercalate (walked.map String.ofList)

/-- Sets a variable and hands it to programs. -/
def publish (name value : String) : Run Unit := do
  Run.setVariable name value
  Run.exportVariable name

/-- Goes to a directory; false if there is none. The way is remembered unless it is not to count. -/
def goTo (physical : Bool) (path : String) : Run Bool := do
  let before ← way
  let path := if physical then path else onward before path
  match ← Tool.look path with
  | .ok (place, .directory) =>
    let after := if physical then Tool.placeText place else path
    Run.modifyOwn fun l => { l with cwd := place, way := after }
    publish "OLDPWD" before
    publish "PWD" after
    return true
  | _ => return false

/-- A path begins with a step from the present directory or the one above it. -/
def startsWithDots (path : String) : Bool :=
  match (Text.splitAt '/' path.toList).head? with
  | some name => name = ['.'] || name = ['.', '.']
  | none => false

/-- Goes to the first directory of a search path that has a directory of a name; tells whether it
was another one than the present, or that there is none. -/
def search (physical : Bool) (name : String) : List String → Run (Option Bool)
  | [] => return none
  | dir :: rest => do
    let path := Lookup.inDirectory dir name
    match ← Tool.look path with
    | .ok (_, .directory) =>
      return if ← goTo physical path then some (!dir.isEmpty) else none
    | _ => search physical name rest

def cd (args : List String) : Run Nat := do
  let (options, args) ← Options.take "cd" "LP" args
  let physical := (options.getLast?.map Prod.fst) = some 'P'
  let isBack := args.head? = some "-"
  let target ← match args with
    | [] => pure ((← Run.valueOf? "HOME").getD "")
    | "-" :: _ => pure ((← Run.valueOf? "OLDPWD").getD "")
    | dir :: _ => pure dir
  let tell : Run Unit := do Run.put ((← way) ++ "\n")
  let arrived ← if target.toList.head? = some '/' || startsWithDots target then do
      pure (if ← goTo physical target then some false else none)
    else do
      let target := if target.isEmpty then "." else target
      match ← Run.valueOf? "CDPATH" with
      | none => pure (if ← goTo physical target then some false else none)
      | some dirs =>
        match ← search physical target (Lookup.directories dirs) with
        | some shown => pure (some shown)
        | none => pure (if ← goTo physical target then some false else none)
  match arrived with
  | none => Run.abort ("cd: can't cd to " ++ target)
  | some shown =>
    if shown || isBack then tell
    return 0

def pwd (args : List String) : Run Nat := do
  let (options, _) ← Options.take "pwd" "LP" args
  let place ← Run.own Local.cwd
  let text ← if (options.getLast?.map Prod.fst) = some 'P' then pure (Tool.placeText place) else way
  Run.put (text ++ "\n")
  return 0

end Formulary.Host.Script.Directory
