import Formulary.Machine.Host.Tool.Copy
import Formulary.Machine.Host.Tool.Condition
import Formulary.Machine.Host.Tool.Mode

/-!
# Tools: making and removing files

Tools that make, change and remove files and directories where they are.
-/

namespace Formulary.Host.Tool

open Formulary.Host.Script

/-! ### Changing files -/

/-- Changes the files, or tells why not. -/
def change (f : Files → Location → Except Fault Files) : Run (Except Fault Unit) := do
  let s ← get
  match f s.files s.own.cwd with
  | .ok files =>
    set { s with files }
    return .ok ()
  | .error e => return .error e

/-- Performs something for each path, complaining where it is refused. -/
def forPaths (paths : List String) (complaint : String → Fault → String)
    (f : String → Run (Except Fault Unit)) : Run Nat := do
  let mut status := 0
  for path in paths do
    match ← f path with
    | .ok _ => pure ()
    | .error e =>
      warn (complaint path e)
      status := 1
  return status

def newMode (wanted : Nat) : Run Nat := return Mode.without wanted (← Run.own Local.mask)

/-- A path without the slashes at its end. -/
def withoutSlashes (path : String) : String :=
  let body := (path.toList.reverse.dropWhile (· = '/')).reverse
  if body.isEmpty then (if path.isEmpty then "" else "/") else String.ofList body

/-! ### Directories -/

/-- The paths of all directories that lead to a path, and the path itself, shortest first. -/
def stairs (path : String) : List String :=
  let parts := (Text.splitAt '/' path.toList).map String.ofList
  let named := (List.range parts.length).filter fun i => parts[i]? ≠ some ""
  named.map fun i => "/".intercalate (parts.take (i + 1))

/-- Makes one of the directories on the way to a path; false if that is not possible. -/
def makeStair (said : OptionTable.Said) (path : String) (step : String) : Run Bool := do
  match ← change fun fs cwd => fs.makeDirectory cwd (pathOf step) with
  | .ok _ =>
    if given said 'v' then Run.put ((← Run.own Local.arg0) ++ ": created directory " ++
      named step ++ "\n")
    return true
  | .error e =>
    let s ← get
    let isThere := s.files.isDirectory s.own.cwd (pathOf step)
    if given said 'p' && e = .exists && isThere then return true
    let e := if given said 'p' && e = .exists && step ≠ path then .notDirectory else e
    warn ("cannot create directory " ++ named step ++ ": " ++ e.words)
    return false

/-- Goes on as long as a step succeeds. -/
def allInTurn (f : String → Run Bool) : List String → Run Bool
  | [] => return true
  | x :: rest => do if ← f x then allInTurn f rest else return false

/-- `mkdir`: new directories, with all that lead to them if so asked. -/
def mkdir : Tool := fun args => do
  let table := OptionTable.make "pm:vZ" "" ["parents=p", "mode=m", "verbose=v"]
  withOptions table 1 args fun said => do
    if said.others.isEmpty then return ← misuse 1 "missing operand"
    match valueOf said 'm' with
    | some mode =>
      if (Mode.change? true 0 0o777 mode).isNone then
        return ← refuse ("invalid mode " ++ named mode)
    | none => pure ()
    let mut good := true
    for path in said.others do
      let steps := if given said 'p' && !path.isEmpty then stairs path else [path]
      let steps := if steps.isEmpty then [path] else steps
      if !(← allInTurn (makeStair said path) steps) then good := false
    return statusFor good

def removeEmpty (path : String) : Run (Except Fault Unit) :=
  change fun fs cwd => do
    if path.toList.getLast? = some '.' && Text.afterLast '/' path.toList = ['.'] then throw .invalid
    let (place, node) ← fs.findHere cwd (pathOf (withoutSlashes path))
    if !node.isDirectory then throw .notDirectory
    if !(fs.children place).isEmpty then throw .notEmpty
    return fs.remove place

/-- Removes empty directories one after another, as long as that is possible. -/
def removeStairs (said : OptionTable.Said) : List String → Run Bool
  | [] => return true
  | path :: rest => do
    if given said 'v' then
      Run.put ((← Run.own Local.arg0) ++ ": removing directory, " ++ named path ++ "\n")
    match ← removeEmpty path with
    | .ok _ => removeStairs said rest
    | .error e =>
      if e = .notEmpty && given said '1' then return true
      warn ("failed to remove " ++ named path ++ ": " ++ e.words)
      return false

def rmdir : Tool := fun args => do
  let table := OptionTable.make "pv" "1" ["parents=p", "verbose=v", "ignore-fail-on-non-empty=1"]
  withOptions table 1 args fun said => do
    if said.others.isEmpty then return ← misuse 1 "missing operand"
    let mut good := true
    for path in said.others do
      let steps := if given said 'p' then (stairs path).reverse else [path]
      if !(← removeStairs said steps) then good := false
    return statusFor good

/-! ### Removing -/

/-- The path is one that names the present directory or the one above it. -/
def isDots (path : String) : Bool :=
  let name := Text.afterLast '/' (withoutSlashes path).toList
  name = ['.'] || name = ['.', '.']

/-- What is at and below a place, with its path, innermost first. -/
def innermostFirst (fs : Files) : (depth : Nat) → Location → String → List (String × Node)
  | 0, _, _ => []
  | depth + 1, place, path =>
    match fs.get? place with
    | none => []
    | some .directory =>
      ((fs.children place).flatMap fun (name, _) =>
        innermostFirst fs depth (place ++ [name]) (path ++ "/" ++ Text.octets name)) ++
        [(path, .directory)]
    | some node => [(path, node)]

def deepestTree : Nat := 1000

def removeOne (said : OptionTable.Said) (path : String) : Run (Except Fault Unit) := do
  let recursive := given said 'r' || given said 'R'
  let s ← get
  match s.files.findHere s.own.cwd (pathOf path) with
  | .error e => return .error e
  | .ok (place, .directory) =>
    if !recursive && !(given said 'd') then return .error .isDirectory
    if !recursive && !(s.files.children place).isEmpty then return .error .notEmpty
    if given said 'v' then
      for (p, node) in innermostFirst s.files deepestTree place (withoutSlashes path) do
        Run.put ("removed " ++ (if node.isDirectory then "directory " else "") ++ named p ++ "\n")
    change fun fs _ => .ok (fs.remove place)
  | .ok (place, _) =>
    if given said 'v' then Run.put ("removed " ++ named path ++ "\n")
    change fun fs _ => .ok (fs.remove place)

/-- `rm`: files removed, and directories if so asked. -/
def rm : Tool := fun args => do
  let table := OptionTable.make "rRfdviI" "12" ["recursive=r", "force=f", "dir=d", "verbose=v",
    "no-preserve-root=1", "preserve-root=2", "one-file-system=2", "interactive=2"]
  withOptions table 1 args fun said => do
    if said.others.isEmpty then
      if given said 'f' then return 0 else return ← misuse 1 "missing operand"
    let recursive := given said 'r' || given said 'R'
    let mut good := true
    for path in said.others do
      if recursive && isDots path then
        warn ("refusing to remove '.' or '..' directory: skipping " ++ named path)
        good := false
      else if recursive && withoutSlashes path = "/" then
        warn "it is dangerous to operate recursively on '/'"
        warn "use --no-preserve-root to override this failsafe"
        good := false
      else
        match ← removeOne said path with
        | .ok _ => pure ()
        | .error e =>
          if !(given said 'f' && (e = .noEntry || e = .notDirectory)) then
            warn ("cannot remove " ++ named path ++ ": " ++ e.words)
            good := false
    return statusFor good

def unlink : Tool := fun args => do
  match if args.head? = some "--" then args.tail else args with
  | [] => misuse 1 "missing operand"
  | [path] =>
    match ← change fun fs cwd => fs.removeFile cwd (pathOf path) with
    | .ok _ => return 0
    | .error e => refuse ("cannot unlink " ++ named path ++ ": " ++ e.words)
  | _ :: extra :: _ => misuse 1 ("extra operand " ++ quoted extra)

/-! ### Making and changing files -/

/-- Opens a file and leaves it as it is; it is there afterwards. -/
def touchOne (create : Bool) (path : String) : Run (Except Fault Unit) := do
  let s ← get
  match s.files.find s.own.cwd (pathOf path) with
  | .ok (place, .file f) =>
    set { s with files := s.files.change place f }
    return .ok ()
  | .ok _ => return .ok ()
  | .error .noEntry =>
    if !create then return .ok ()
    match ← Run.openFd path .changing with
    | .ok fd =>
      Run.close fd
      return .ok ()
    | .error .isDirectory => return .error .noEntry
    | .error e => return .error e
  | .error e => return .error e

/-- `touch`: files that are there and new afterwards. -/
def touch : Tool := fun args => do
  let table := OptionTable.make "acmfhd:r:t:" "1:" ["no-create=c", "date=d", "reference=r",
    "time=1", "no-dereference=h"]
  withOptions table 1 args fun said => do
    if said.others.isEmpty then return ← misuse 1 "missing file operand"
    forPaths said.others (fun p e => "cannot touch " ++ named p ++ ": " ++ e.words)
      (touchOne (!given said 'c'))

def mkfifo : Tool := fun args => do
  let table := OptionTable.make "m:Z" "" ["mode=m"]
  withOptions table 1 args fun said => do
    if said.others.isEmpty then return ← misuse 1 "missing operand"
    forPaths said.others (fun p e => "cannot create fifo " ++ named p ++ ": " ++ e.words)
      fun path => change fun fs cwd => do
        let fs ← fs.makeNode cwd (pathOf path) (.channel fs.turn)
        return { fs with turn := fs.turn + 1 }

/-- A size, as it is told: how much, and the sign before it. -/
def newSize? (old : Nat) (text : String) : Option Nat :=
  match text.toList with
  | '+' :: rest => (countWithUnit? rest).map (old + ·)
  | '-' :: rest => (countWithUnit? rest).map (old - ·)
  | '<' :: rest => (countWithUnit? rest).map (min old)
  | '>' :: rest => (countWithUnit? rest).map (max old)
  | '/' :: rest => (countWithUnit? rest).map fun n => old / n * n
  | '%' :: rest => (countWithUnit? rest).map fun n => (old + n - 1) / n * n
  | digits => countWithUnit? digits

def truncate : Tool := fun args => do
  let table := OptionTable.make "cos:r:" "" ["no-create=c", "size=s", "reference=r"]
  withOptions table 1 args fun said => do
    let reference : Option Nat ← match valueOf said 'r' with
      | some path =>
        match ← look path with
        | .ok (_, node) => pure (some node.contents.length)
        | .error e => return ← refuse ("cannot stat " ++ named path ++ ": " ++ e.words)
      | none => pure none
    let size := valueOf said 's'
    if size.isNone && reference.isNone then
      return ← misuse 1 "you must specify either '--size' or '--reference'"
    if size.any fun s => (newSize? 0 s).isNone then
      return ← refuse ("Invalid number: " ++ named (size.getD ""))
    if said.others.isEmpty then return ← misuse 1 "missing file operand"
    forPaths said.others (fun p e => "cannot open " ++ named p ++ " for writing: " ++ e.words)
      fun path => do
        match ← touchOne (!given said 'c') path with
        | .error e => return .error e
        | .ok _ => change fun fs cwd => do
            match fs.find cwd (pathOf path) with
            | .ok (place, .file f) =>
              let old := f.data.length
              let n := match size with
                | some s => (newSize? (reference.getD old) s).getD old
                | none => reference.getD old
              let data := f.data.take n ++ List.replicate (n - old) 0
              return fs.change place { f with data }
            | .ok (_, .directory) => throw .isDirectory
            | _ => return fs

def nameLetters : Array Char :=
  "abcdefghijklmnopqrstuvwxyzABCDEFGHIJKLMNOPQRSTUVWXYZ0123456789".toList.toArray

/-- So many letters made up from a number. -/
def madeUp (seed : Nat) : Nat → List Char
  | 0 => []
  | n + 1 =>
    let next := (seed * 6364136223846793005 + 1442695040888963407) % Nat.pow 2 64
    nameLetters.getD (next / Nat.pow 2 33 % 62) 'a' :: madeUp next n

/-- `mktemp`: a new file or directory with a name made up. -/
def mktemp : Tool := fun args => do
  let table := OptionTable.make "dqutp:" "1:2::" ["directory=d", "quiet=q", "dry-run=u",
    "suffix=1", "tmpdir=2"]
  withOptions table 1 args fun said => do
    let env ← Run.environment
    let usual := match env.lookup "TMPDIR" with
      | some dir => if dir.isEmpty then "/tmp" else dir
      | none => "/tmp"
    let template := said.others.head?.getD "tmp.XXXXXXXXXX"
    let suffix := (valueOf said '1').getD ""
    let folder := ((valueOf said 'p').or (valueOf said '2')).map fun d =>
      if d.isEmpty then usual else d
    let folder := if said.others.isEmpty || given said 't' then some (folder.getD usual) else folder
    let body := template.toList.reverse.dropWhile (· ≠ 'X')
    let behind := (template.toList.reverse.takeWhile (· ≠ 'X')).reverse
    let count := (body.takeWhile (· = 'X')).length
    if count < 3 then
      return ← refuse ("too few X's in template " ++ quoted template)
    let s ← get
    let start := (body.drop count).reverse
    let name := start ++ madeUp (s.own.pid * 1000 + s.files.turn) count ++ behind
    let within := (folder.map fun d => withoutSlashes d ++ "/").getD ""
    let full := within ++ String.ofList name ++ suffix
    let shownPath := (folder.map fun d => withoutSlashes d ++ "/").getD "" ++ template ++ suffix
    let result ← if given said 'u' then pure (.ok ())
      else if given said 'd' then change fun fs cwd => fs.makeDirectory cwd (pathOf full)
      else change fun fs cwd => do
        let fs ← fs.makeNode cwd (pathOf full) (.file { mode := 0o600, changed := fs.turn })
        return { fs with turn := fs.turn + 1 }
    match result with
    | .ok _ =>
      Run.put (full ++ "\n")
      return 0
    | .error e =>
      if given said 'q' then return 1
      refuse ("failed to create " ++ (if given said 'd' then "directory" else "file") ++
        " via template " ++ quoted shownPath ++ ": " ++ e.words)

/-! ### Rights -/

def placesBelow (fs : Files) (place : Location) : List Location :=
  (fs.entries.filter fun (l, _) => place.isPrefixOf l).map Prod.fst

/-- Changes the rights of the file at a place. -/
def changeMode (mask : Nat) (mode : String) (fs : Files) (place : Location) : Files :=
  match fs.get? place with
  | some (.file f) =>
    match Mode.change? false mask f.mode mode with
    | some mode => fs.putFile place { f with mode }
    | none => fs
  | _ => fs

def chmod : Tool := fun args => do
  -- a change may begin with a dash
  let isChange (a : String) : Bool :=
    1 < a.length && a.toList.head? = some '-' &&
      (a.toList.drop 1).all "rwxXst,ugoa+-=".toList.contains
  let table := OptionTable.make "Rcfv" "1:" ["recursive=R", "changes=c", "silent=f", "quiet=f",
    "verbose=v", "reference=1"]
  let early := args.takeWhile fun a => a ≠ "--"
  let dashed := if given ((table.read (countLetters args) args).toOption.getD {}) '1' then none
    else early.find? isChange
  let args := match dashed with
    | some a => args.erase a
    | none => args
  withOptions table 1 args fun said => do
    let reference : Option String ← match valueOf said '1' with
      | some path =>
        match ← look path with
        | .ok (_, node) => pure (some (Mode.digits (Condition.modeOf node)))
        | .error e =>
          return ← refuse ("failed to get attributes of " ++ named path ++ ": " ++ e.words)
      | none => pure none
    let (mode, paths) := match reference.or dashed, said.others with
      | some m, paths => (some m, paths)
      | none, m :: paths => (some m, paths)
      | none, [] => (none, [])
    match mode with
    | none => misuse 1 "missing operand"
    | some mode =>
      if paths.isEmpty then return ← misuse 1 ("missing operand after " ++ quoted mode)
      let mask ← Run.own Local.mask
      if (Mode.change? false mask 0 mode).isNone then
        return ← misuse 1 ("invalid mode: " ++ quoted mode)
      let mut good := true
      for path in paths do
        match ← look path with
        | .ok (place, _) =>
          modify fun s =>
            let places := if given said 'R' then placesBelow s.files place else [place]
            { s with files := places.foldl (changeMode mask mode) s.files }
        | .error e =>
          if !given said 'f' then warn ("cannot access " ++ named path ++ ": " ++ e.words)
          good := false
      return statusFor good

/-- `chown` and `chgrp`: all files belong to the same user here. -/
def chown : Tool := fun args => do
  let table := OptionTable.make "RcfvhHLP" "1:2:" ["recursive=R", "changes=c", "silent=f",
    "quiet=f", "verbose=v", "no-dereference=h", "reference=1", "from=2"]
  withOptions table 1 args fun said => do
    match if given said '1' then "" :: said.others else said.others with
    | [] => misuse 1 "missing operand"
    | [owner] => misuse 1 ("missing operand after " ++ quoted owner)
    | owner :: paths =>
      let who := (Text.splitAt ':' owner.toList).map String.ofList
      let known (s : String) : Bool := s.isEmpty || s = "root" || (Text.natural? s.toList).isSome
      if !who.all known then
        return ← refuse ("invalid user: " ++ quoted owner)
      forPaths paths (fun p e => "cannot access " ++ named p ++ ": " ++ e.words) fun path => do
        return (← look path).map fun _ => ()

end Formulary.Host.Tool
