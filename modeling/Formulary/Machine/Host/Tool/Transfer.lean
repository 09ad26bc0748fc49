import Formulary.Machine.Host.Tool.Making

/-!
# Tools: copies, moves and links

Tools that put what is at some paths at others as well, or instead. The last path is where things
go: into it if it is a directory, else it is the new path itself.
-/

namespace Formulary.Host.Tool

open Formulary.Host.Script

/-! ### Where things go -/

/-- What is to be done with each of some paths, and where it goes. -/
inductive Goal where
  /-- Each goes into a directory. -/
  | into (dir : String) (sources : List String)
  /-- One takes a new path. -/
  | as (source target : String)

def lastPart (path : String) : String :=
  String.ofList (Text.afterLast '/' (withoutSlashes path).toList)

def inFolder (dir path : String) : String :=
  if dir.toList.getLast? = some '/' then dir ++ lastPart path else dir ++ "/" ++ lastPart path

def isFolder (path : String) : Run Bool := do
  let s ← get
  return s.files.isDirectory s.own.cwd (pathOf path)

/-- Where things go; nothing if that has been complained about. -/
def goalOf (said : OptionTable.Said) (wanted : String) (single : Bool) : Run (Option Goal) := do
  match valueOf said 't', said.others with
  | some _, [] | none, [] =>
    let _ ← misuse 1 ("missing " ++ wanted ++ "file operand")
    return none
  | some dir, sources =>
    if ← isFolder dir then return some (.into dir sources)
    let e := match ← look dir with
      | .ok _ => Fault.notDirectory
      | .error e => e
    warn ("target directory " ++ named dir ++ ": " ++ e.words)
    return none
  | none, [path] =>
    if single then return some (.into "." [path])
    let _ ← misuse 1 ("missing destination file operand after " ++ named path)
    return none
  | none, sources =>
    let target := sources.getLast?.getD ""
    let sources := sources.dropLast
    if given said 'T' then
      match sources with
      | [source] => return some (.as source target)
      | _ =>
        let _ ← misuse 1 ("extra operand " ++ named (said.others[2]?.getD ""))
        return none
    let plainLink := given said 'n' && single && match ← lookHere target with
      | .ok (_, .link _) => true
      | _ => false
    if !plainLink && (← isFolder target) then return some (.into target sources)
    match sources with
    | [source] => return some (.as source target)
    | _ =>
      let e := match ← look target with
        | .ok _ => Fault.notDirectory
        | .error e => e
      warn ("target " ++ named target ++ ": " ++ e.words)
      return none

/-- Performs something for each source with its target; tells whether all went well. -/
def forGoal (f : String → String → Run Bool) : Goal → Run Bool
  | .as source target => f source target
  | .into dir sources => do
    let mut good := true
    for source in sources do
      if !(← f source (inFolder dir source)) then good := false
    return good

def fault (text : String) : Run Bool := do
  warn text
  return false

/-! ### cp -/

/-- How things are copied. -/
structure CopyWay where
  recursive : Bool := false
  /-- Links are copied, not what they lead to. -/
  keepLinks : Bool := false
  keepModes : Bool := false
  keepOld : Bool := false
  onlyNewer : Bool := false
  force : Bool := false
  verbose : Bool := false
  asHardLink : Bool := false
  asLink : Bool := false
  /-- What is at the target is removed first. -/
  removeFirst : Bool := false

def tellCopy (way : CopyWay) (source target : String) : Run Unit :=
  if way.verbose then Run.put (named source ++ " -> " ++ named target ++ "\n") else pure ()

/-- What is at the target of a copy: itself, with whether it is a link. -/
def targetNode (target : String) : Run (Option Node) := do
  return ((← lookHere target).toOption).map Prod.snd

/-- Copies a file to a path that leads to no directory. -/
def copyFile (way : CopyWay) (source target : String) (f : File) : Run Bool := do
  let isNew := (← look target).toOption.isNone
  match ← targetNode target with
  | some (.link _) =>
    if isNew && !way.removeFirst && !way.force then
      return ← fault ("not writing through dangling symlink " ++ named target)
  | _ => pure ()
  if way.removeFirst || (isNew && way.force) then
    let _ ← change fun fs cwd => fs.removeFile cwd (pathOf target)
  let isNew := (← look target).toOption.isNone
  match ← Run.openFd target .emptying with
  | .error e => fault ("cannot create regular file " ++ named target ++ ": " ++ e.words)
  | .ok fd =>
    let _ ← Run.write fd ⟨f.data.toArray⟩
    Run.close fd
    if isNew || way.keepModes then
      let mask ← Run.own Local.mask
      let mode := if way.keepModes then f.mode else Mode.without f.mode mask
      let _ ← change fun fs cwd => do
        match ← fs.find cwd (pathOf target) with
        | (place, .file g) => return fs.putFile place { g with mode }
        | _ => return fs
    tellCopy way source target
    return true

/-- Two paths lead to, or name, the same file. -/
def isSamePlace (follow : Bool) (a b : String) : Run Bool := do
  let find := if follow then look else lookHere
  match ← find a, ← find b with
  | .ok (l, .file f), .ok (m, .file g) => return l = m || Files.isSame f g
  | .ok (l, _), .ok (m, _) => return l = m
  | _, _ => return false

/-- One node is newer than another one, or there is no other one. -/
def isNewerNode (node : Node) (other : Option Node) : Bool :=
  match other with
  | some o => Condition.changedOf o < Condition.changedOf node
  | none => true

/-- Copies what is at a path to another one. -/
def copyOne (way : CopyWay) : (depth : Nat) → (top : Bool) → (source target : String) → Run Bool
  | 0, _, source, _ => fault ("cannot access " ++ named source)
  | depth + 1, top, source, target => do
    let find := if way.keepLinks then lookHere else look
    match ← find source with
    | .error e => fault ("cannot stat " ++ named source ++ ": " ++ e.words)
    | .ok (place, node) =>
      if node.isDirectory && !way.recursive then
        return ← fault ("-r not specified; omitting directory " ++ named source)
      let old := (← look target).toOption.map Prod.snd
      if way.keepOld && (← targetNode target).isSome && !node.isDirectory then return true
      if way.onlyNewer && !node.isDirectory && !isNewerNode node old then return true
      if !way.asLink && (← isSamePlace (!way.keepLinks) source target) then
        if way.asHardLink then return true
        return ← fault (named source ++ " and " ++ named target ++ " are the same file")
      match node, old with
      | .directory, some o =>
        if !o.isDirectory then
          return ← fault ("cannot overwrite non-directory " ++ named target ++ " with directory " ++
            named source)
      | _, some .directory =>
        return ← fault ("cannot overwrite directory " ++ named target ++ " with non-directory" ++
          (if top then "" else " " ++ named source))
      | _, _ => pure ()
      if way.asLink then
        let result ← change fun fs cwd => do
          let fs := if way.force then (fs.removeFile cwd (pathOf target)).toOption.getD fs else fs
          fs.makeNode cwd (pathOf target) (.link (Text.ofOctets source))
        match result with
        | .ok _ =>
          tellCopy way source target
          return true
        | .error e =>
          return ← fault ("cannot create symbolic link " ++ named target ++ " to " ++
            named source ++ ": " ++ e.words)
      match node with
      | .directory =>
        let s ← get
        match s.files.locateNew s.own.cwd (pathOf target) with
        | .ok l =>
          if place.isPrefixOf l then
            return ← fault ("cannot copy a directory, " ++ named source ++ ", into itself, " ++
              named target)
        | .error _ => pure ()
        let names := s.files.children place
        if old.isNone then
          match ← change fun fs cwd => fs.makeDirectory cwd (pathOf target) with
          | .ok _ => tellCopy way source target
          | .error e =>
            return ← fault ("cannot create directory " ++ named target ++ ": " ++ e.words)
        let mut good := true
        for (name, _) in names do
          let child := Text.octets name
          if !(← copyOne { way with keepLinks := way.keepLinks } depth false
              (inFolder source child) (inFolder target child)) then good := false
        return good
      | .link goal =>
        let result ← change fun fs cwd => do
          let fs := match fs.findHere cwd (pathOf target) with
            | .ok (l, _) => fs.remove l
            | .error _ => fs
          fs.makeNode cwd (pathOf target) (.link goal)
        match result with
        | .ok _ =>
          tellCopy way source target
          return true
        | .error e => fault ("cannot create symbolic link " ++ named target ++ ": " ++ e.words)
      | .file f =>
        if way.asHardLink then
          let result ← change fun fs cwd => do
            let fs := if way.force then (fs.removeFile cwd (pathOf target)).toOption.getD fs else fs
            fs.makeName cwd place (pathOf target)
          match result with
          | .ok _ =>
            tellCopy way source target
            return true
          | .error e =>
            return ← fault ("cannot create hard link " ++ named target ++ " to " ++ named source ++
              ": " ++ e.words)
        copyFile way source target f
      | _ =>
        match ← contents source with
        | .ok s => copyFile way source target { data := s.map Text.octet }
        | .error e => fault ("error reading " ++ named source ++ ": " ++ e.words)

def cp : Tool := fun args => do
  let table := OptionTable.make "abdfHilLnPprRst:TuvxZ" "1::2::3" ["archive=a", "force=f",
    "interactive=i", "link=l", "dereference=L", "no-clobber=n", "no-dereference=P", "preserve=1",
    "no-preserve=2", "recursive=r", "symbolic-link=s", "target-directory=t",
    "no-target-directory=T", "update=u", "verbose=v", "one-file-system=x", "remove-destination=3"]
  withOptions table 1 args fun said => do
    let recursive := ['a', 'r', 'R'].any (given said)
    let way : CopyWay := {
      recursive
      keepLinks := match lastOf said ['P', 'd', 'a', 'L', 'H'] with
        | some 'L' | some 'H' => false
        | some _ => true
        | none => recursive
      keepModes := given said 'p' || given said 'a' || given said '1'
      keepOld := lastOf said ['n', 'i', 'f'] = some 'n' || given said 'n'
      onlyNewer := given said 'u'
      force := given said 'f'
      verbose := given said 'v'
      asHardLink := given said 'l'
      asLink := given said 's'
      removeFirst := given said '3' }
    match ← goalOf said "" false with
    | none => return 1
    | some goal =>
      return statusFor (← forGoal (copyOne way deepestTree true) goal)

/-! ### mv -/

/-- Gives what is at a path another one. -/
def moveOne (said : OptionTable.Said) (source target : String) : Run Bool := do
  match ← lookHere source with
  | .error e => fault ("cannot stat " ++ named source ++ ": " ++ e.words)
  | .ok (place, node) =>
    let old ← targetNode target
    let last := lastOf said ['n', 'f', 'i']
    if last = some 'n' && old.isSome then return true
    if given said 'u' && !isNewerNode node old then return true
    if ← isSamePlace false source target then
      return ← fault (named source ++ " and " ++ named target ++ " are the same file")
    match node, old with
    | .directory, some .directory => pure ()
    | .directory, some _ =>
      return ← fault ("cannot overwrite non-directory " ++ named target ++ " with directory " ++
        named source)
    | _, some .directory =>
      return ← fault ("cannot overwrite directory " ++ named target ++ " with non-directory")
    | _, _ => pure ()
    let s ← get
    match s.files.locateNew s.own.cwd (pathOf target) with
    | .ok l =>
      if node.isDirectory && place.isPrefixOf l then
        return ← fault ("cannot move " ++ named source ++ " to a subdirectory of itself, " ++
          named target)
    | .error _ => pure ()
    match ← change fun fs cwd => fs.rename cwd (pathOf source) (pathOf target) with
    | .ok _ =>
      if given said 'v' then
        Run.put ("renamed " ++ named source ++ " -> " ++ named target ++ "\n")
      return true
    | .error e =>
      fault ("cannot move " ++ named source ++ " to " ++ named target ++ ": " ++ e.words)

/-- `mv`: files and directories given other paths. -/
def mv : Tool := fun args => do
  let table := OptionTable.make "bfint:TuvZ" "1" ["force=f", "interactive=i", "no-clobber=n",
    "target-directory=t", "no-target-directory=T", "update=u", "verbose=v",
    "strip-trailing-slashes=1"]
  withOptions table 1 args fun said => do
    match ← goalOf said "" false with
    | none => return 1
    | some goal => return statusFor (← forGoal (moveOne said) goal)

/-! ### ln -/

/-- A path that leads to a place from a directory. -/
def relativePath (directory place : Location) : String :=
  let rec common : Location → Location → Nat
    | a :: l, b :: m => if a = b then common l m + 1 else 0
    | _, _ => 0
  let shared := common directory place
  let ups := List.replicate (directory.length - shared) ".."
  let parts := ups ++ (place.drop shared).map Text.octets
  if parts.isEmpty then "." else "/".intercalate parts

/-- The text of a link at a path that leads to another one, counted from where the link is. -/
def relativeTarget (source link : String) : Run String := do
  let s ← get
  let folder := match s.files.locateHere s.own.cwd (pathOf link) with
    | .ok l => l.dropLast
    | .error _ => s.own.cwd
  match s.files.locate s.own.cwd (pathOf source) with
  | .ok l => return relativePath folder l
  | .error _ => return source

def linkOne (said : OptionTable.Said) (source link : String) : Run Bool := do
  let symbolic := given said 's'
  let kind := if symbolic then "symbolic link " else "hard link "
  let s ← get
  let node : Option (Location × Node) ← if symbolic then pure none else do
    match ← (if given said 'L' then look else lookHere) source with
    | .error e =>
      return ← fault ("failed to access " ++ named source ++ ": " ++ e.words)
    | .ok (_, .directory) =>
      return ← fault (source ++ ": hard link not allowed for directory")
    | .ok found => pure (some found)
  let old ← targetNode link
  if given said 'f' && old.isSome then
    if !symbolic && (← isSamePlace false source link) then
      return ← fault (named source ++ " and " ++ named link ++ " are the same file")
    match old with
    | some .directory =>
      return ← fault (link ++ ": cannot overwrite directory")
    | _ => pure ()
    let _ ← change fun fs cwd => fs.removeFile cwd (pathOf link)
  let text ← if symbolic && given said 'r' then relativeTarget source link else pure source
  let result ← change fun fs cwd =>
    match node with
    | some (place, _) => fs.makeName cwd place (pathOf link)
    | none => do
      if text.isEmpty then throw .noEntry
      let fs ← fs.makeNode cwd (pathOf link) (.link (Text.ofOctets text))
      return fs
  match result with
  | .ok _ =>
    if given said 'v' then
      Run.put (named link ++ (if symbolic then " -> " else " => ") ++ named text ++ "\n")
    return true
  | .error e =>
    modify fun now => { now with files := s.files }
    let behind := if e = .exists then "" else if symbolic then " -> " ++ named text
      else " => " ++ named source
    fault ("failed to create " ++ kind ++ named link ++ behind ++ ": " ++ e.words)

def ln : Tool := fun args => do
  let table := OptionTable.make "bdfFiLnPrst:Tv" "" ["force=f", "interactive=i", "logical=L",
    "no-dereference=n", "physical=P", "relative=r", "symbolic=s", "target-directory=t",
    "no-target-directory=T", "verbose=v", "directory=d"]
  withOptions table 1 args fun said => do
    match ← goalOf said "" true with
    | none => return 1
    | some goal => return statusFor (← forGoal (linkOne said) goal)

def link : Tool := fun args => do
  match if args.head? = some "--" then args.tail else args with
  | [] => misuse 1 "missing operand"
  | [a] => misuse 1 ("missing operand after " ++ quoted a)
  | [source, target] =>
    let result ← change fun fs cwd => do
      let (place, _) ← fs.findHere cwd (pathOf source)
      fs.makeName cwd place (pathOf target)
    match result with
    | .ok _ => return 0
    | .error e =>
      refuse ("cannot create link " ++ named target ++ " to " ++ named source ++ ": " ++ e.words)
  | _ :: _ :: extra :: _ => misuse 1 ("extra operand " ++ quoted extra)

/-! ### install -/

/-- Makes a directory with all that lead to it. -/
def makeFolders (path : String) : Run Bool :=
  allInTurn (makeStair { options := [('p', "")] } path) (stairs path)

/-- `install`: copies that may be executed, and directories. -/
def install : Tool := fun args => do
  let table := OptionTable.make "bcCdDg:m:o:pst:Tv" "" ["directory=d", "mode=m", "owner=o",
    "group=g", "target-directory=t", "no-target-directory=T", "verbose=v", "compare=C",
    "preserve-timestamps=p", "strip=s"]
  withOptions table 1 args fun said => do
    let mode := (valueOf said 'm').getD "755"
    if (Mode.change? false 0 0 mode).isNone then return ← refuse ("invalid mode " ++ named mode)
    if given said 'd' then
      if said.others.isEmpty then return ← misuse 1 "missing file operand"
      let mut good := true
      for path in said.others do
        if !(← makeFolders path) then good := false
      return statusFor good
    if given said 'D' then
      let folder := match valueOf said 't', said.others.getLast? with
        | some dir, _ => dir
        | none, some path =>
          String.ofList ((path.toList.reverse.dropWhile (· ≠ '/')).drop 1).reverse
        | none, none => ""
      if !folder.isEmpty then
        let _ ← makeFolders folder
    match ← goalOf said "" false with
    | none => return 1
    | some goal =>
      let good ← forGoal (fun source target => do
        if (← look source).toOption.any fun x => x.2.isDirectory then
          return ← fault ("omitting directory " ++ named source)
        let copied ← copyOne { removeFirst := true, verbose := given said 'v' } 2 true source target
        if copied then
          modify fun s => match s.files.find s.own.cwd (pathOf target) with
            | .ok (place, .file f) =>
              let bits := (Mode.change? false 0 0 mode).getD 0o755
              { s with files := s.files.putFile place { f with mode := bits } }
            | _ => s
        return copied) goal
      return statusFor good

end Formulary.Host.Tool
