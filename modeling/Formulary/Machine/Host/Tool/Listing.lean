import Formulary.Machine.Host.Tool.Making

/-!
# Tools: names and listings

Tools that tell what is in directories, what is known of files, and where paths lead.
-/

namespace Formulary.Host.Tool

open Formulary.Host.Script

/-! ### Places -/

def placeText (place : Location) : String := "/" ++ "/".intercalate (place.map Text.octets)

/-- `pwd` as a program: the present directory. -/
def pwd : Tool := fun args => do
  let table := OptionTable.make "LP" "" ["logical=L", "physical=P"]
  withOptions table 1 args fun said => do
    if !said.others.isEmpty then warn "ignoring non-option arguments"
    let s ← get
    let place := placeText s.own.cwd
    let shownPlace ← if lastOf said ['L', 'P'] = some 'L' then do
        match (← Run.environment).lookup "PWD" with
        | some path =>
          match s.files.find s.own.cwd (pathOf path) with
          | .ok (l, _) =>
            pure (if l = s.own.cwd && path.toList.head? = some '/' then path else place)
          | .error _ => pure place
        | none => pure place
      else pure place
    Run.put (shownPlace ++ "\n")
    return 0

/-- The place a path leads to, as far as there is something, and the names behind. -/
def farthestPlace (fs : Files) (cwd : Location) : List String → List String → Location
  | [], behind => behind.foldl (fun l name =>
      if name = "." then l else if name = ".." then l.dropLast else l ++ [name]) cwd
  | name :: before, behind =>
    match fs.walk true Files.mostLinks cwd (name :: before).reverse with
    | .ok l => behind.foldl (fun l name =>
        if name = "." then l else if name = ".." then l.dropLast else l ++ [name]) l
    | .error _ => farthestPlace fs cwd before (name :: behind)

/-- How much of a path must be there. -/
inductive Strictness where
  | everything
  /-- All but the last name. -/
  | folder
  | nothing
  deriving DecidableEq

def canonical (how : Strictness) (path : String) : Run (Except Fault Location) := do
  let s ← get
  let p := pathOf path
  match how with
  | .everything => return (s.files.find s.own.cwd p).map Prod.fst
  | .folder =>
    match s.files.locate s.own.cwd p with
    | .ok l => return .ok l
    | .error e => return .error e
  | .nothing =>
    if path.isEmpty then return .error .noEntry
    let start := if p.isAbsolute then [] else s.own.cwd
    return .ok (farthestPlace s.files start (p.rawParts.filter (· ≠ "")).reverse [])

def endingOf (said : OptionTable.Said) : String := if given said 'z' then "\x00" else "\n"

def realpath : Tool := fun args => do
  let table := OptionTable.make "emLPqsz" "1:2:" ["canonicalize-existing=e",
    "canonicalize-missing=m", "logical=L", "physical=P", "quiet=q", "strip=s", "no-symlinks=s",
    "zero=z", "relative-to=1", "relative-base=2"]
  withOptions table 1 args fun said => do
    if said.others.isEmpty then return ← misuse 1 "missing operand"
    let how := match lastOf said ['e', 'm'] with
      | some 'e' => Strictness.everything
      | some _ => .nothing
      | none => .folder
    let base : Option Location ← match valueOf said '1' with
      | some path =>
        match ← canonical how path with
        | .ok l => pure (some l)
        | .error e => return ← refuse (shown path ++ ": " ++ e.words)
      | none => pure none
    let mut good := true
    for path in said.others do
      match ← canonical how path with
      | .ok place =>
        let text := match base with
          | some b =>
            let rec common : Location → Location → Nat
              | a :: l, b :: m => if a = b then common l m + 1 else 0
              | _, _ => 0
            let n := common b place
            let parts := List.replicate (b.length - n) ".." ++ (place.drop n).map Text.octets
            if parts.isEmpty then "." else "/".intercalate parts
          | none => placeText place
        Run.put (text ++ endingOf said)
      | .error e =>
        if !given said 'q' then warn (shown path ++ ": " ++ e.words)
        good := false
    return statusFor good

def readlink : Tool := fun args => do
  let table := OptionTable.make "femnqsvz" "" ["canonicalize=f", "canonicalize-existing=e",
    "canonicalize-missing=m", "no-newline=n", "quiet=q", "silent=s", "verbose=v", "zero=z"]
  withOptions table 1 args fun said => do
    if said.others.isEmpty then return ← misuse 1 "missing operand"
    let ending := if given said 'n' && said.others.length = 1 then "" else endingOf said
    let mut good := true
    for path in said.others do
      let result : Except Fault String ← match lastOf said ['f', 'e', 'm'] with
        | some c =>
          let how : Strictness := if c = 'f' then .folder else if c = 'e' then .everything
            else .nothing
          pure ((← canonical how path).map placeText)
        | none =>
          match ← lookHere path with
          | .ok (_, .link target) => pure (.ok (Text.octets target))
          | .ok _ => pure (.error .invalid)
          | .error e => pure (.error e)
      match result with
      | .ok text => Run.put (text ++ ending)
      | .error e =>
        if given said 'v' then warn (shown path ++ ": " ++ e.words)
        good := false
    return statusFor good

/-! ### Parts of paths -/

/-- A name without an ending, unless it is nothing else. -/
def withoutEnding (ending name : List Char) : List Char :=
  if ending.length < name.length && ending.isSuffixOf name then
    name.take (name.length - ending.length)
  else name

/-- The last part of a path; of the root, itself. -/
def baseName (path : String) : List Char :=
  let body := (withoutSlashes path).toList
  if body = ['/'] then body else Text.afterLast '/' body

/-- `basename`: the last part of a path. -/
def basename : Tool := fun args => do
  let table : OptionTable := { OptionTable.make "as:z" "" ["multiple=a", "suffix=s", "zero=z"] with
    ordered := true }
  withOptions table 1 args fun said => do
    let many := given said 'a' || given said 's'
    match said.others with
    | [] => misuse 1 "missing operand"
    | path :: rest =>
      if many then
        for p in said.others do
          putChars (withoutEnding ((valueOf said 's').getD "").toList (baseName p))
          Run.put (endingOf said)
        return 0
      match rest with
      | _ :: extra :: _ => misuse 1 ("extra operand " ++ quoted extra)
      | _ =>
        putChars (withoutEnding (rest.head?.getD "").toList (baseName path))
        Run.put (endingOf said)
        return 0

def dirName (path : String) : String :=
  let body := (withoutSlashes path).toList
  let before := body.take (body.length - (Text.afterLast '/' body).length)
  if body = ['/'] then "/"
  else if before.isEmpty then "."
  else withoutSlashes (String.ofList before)

def dirname : Tool := fun args => do
  let table := OptionTable.make "z" "" ["zero=z"]
  withOptions table 1 args fun said => do
    if said.others.isEmpty then return ← misuse 1 "missing operand"
    for path in said.others do Run.put (dirName path ++ endingOf said)
    return 0

/-! ### What is known of a file -/

def nameCount (fs : Files) (place : Location) : Node → Nat
  | .file f =>
    if f.serial = 0 then 1
    else fs.entries.countP fun entry => match entry.2 with
      | .file g => Files.isSame f g
      | _ => false
  | .directory => 2 + (fs.children place).countP fun child => child.2.isDirectory
  | _ => 1

def sizeOfNode : Node → Nat
  | .file f => f.data.length
  | .link target => target.utf8ByteSize
  | .directory => 4096
  | _ => 0

def kindLetter : Node → Char
  | .directory => 'd'
  | .link _ => 'l'
  | .channel _ => 'p'
  | .sink | .zeros | .full => 'c'
  | _ => '-'

def kindWords (node : Node) : String :=
  match node with
  | .directory => "directory"
  | .link _ => "symbolic link"
  | .channel _ => "fifo"
  | .sink | .zeros | .full => "character special file"
  | _ => if sizeOfNode node = 0 then "regular empty file" else "regular file"

/-- The letters for kind and rights of a node. -/
def modeLetters (node : Node) : String :=
  (kindLetter node).toString ++ Mode.letters (Condition.modeOf node)

/-- What a directive of `stat` is replaced by. -/
def statPart (fs : Files) (path : String) (place : Location) (node : Node) (c : Char) :
    Option String :=
  match c with
  | 'n' => some path
  | 'N' => some (match node with
    | .link target => named path ++ " -> " ++ named (Text.octets target)
    | _ => named path)
  | 's' => some (toString (sizeOfNode node))
  | 'a' => some (Mode.digits (Condition.modeOf node))
  | 'A' => some (modeLetters node)
  | 'F' => some (kindWords node)
  | 'h' => some (toString (nameCount fs place node))
  | 'u' | 'g' => some "0"
  | 'U' | 'G' => some "root"
  | 'B' => some "512"
  | 'b' => some (toString ((sizeOfNode node + 4095) / 4096 * 8))
  | 'o' => some "4096"
  | '%' => some "%"
  | _ => none

def statText (part : Char → Option String) (escapes : Bool) : List Char → String
  | '%' :: c :: rest => (part c).getD "?" ++ statText part escapes rest
  | '\\' :: 'n' :: rest =>
    (if escapes then "\n" else "\\n") ++ statText part escapes rest
  | '\\' :: 't' :: rest =>
    (if escapes then "\t" else "\\t") ++ statText part escapes rest
  | c :: rest => c.toString ++ statText part escapes rest
  | [] => ""

/-- `stat`: what is known of files, in a format. -/
def stat : Tool := fun args => do
  let table := OptionTable.make "c:Lft" "1:" ["format=c", "dereference=L", "file-system=f",
    "terse=t", "printf=1"]
  withOptions table 1 args fun said => do
    if said.others.isEmpty then return ← misuse 1 "missing operand"
    let (format, plain) := match said.options.reverse.find? fun o => o.1 = 'c' || o.1 = '1' with
      | some ('1', f) => (f, false)
      | some (_, f) => (f, true)
      | none => ("  File: %N\n  Size: %s\tBlocks: %b\tIO Block: %o\t%F", true)
    let mut good := true
    for path in said.others do
      match ← (if given said 'L' then look else lookHere) path with
      | .ok (place, node) =>
        let fs := (← get).files
        Run.put (statText (statPart fs path place node) (!plain) format.toList)
        if plain then Run.put "\n"
      | .error e =>
        warn ("cannot statx " ++ named path ++ ": " ++ e.words)
        good := false
    return statusFor good

/-! ### ls -/

/-- Something that is listed. -/
structure Item where
  name : String
  place : Location
  node : Node

def itemBefore (said : OptionTable.Said) (a b : Item) : Bool :=
  let byName := a.name ≤ b.name
  match lastOf said ['S', 't', 'U', 'f', 'X'] with
  | some 'S' =>
    let m := sizeOfNode a.node
    let n := sizeOfNode b.node
    n < m || (m = n && byName)
  | some 't' =>
    let m := Condition.changedOf a.node
    let n := Condition.changedOf b.node
    n < m || (m = n && byName)
  | some 'U' | some 'f' => true
  | _ => byName

def ordered (said : OptionTable.Said) (items : List Item) : List Item :=
  let sorted := items.mergeSort (itemBefore said)
  if given said 'r' then sorted.reverse else sorted

/-- The sign behind the name of an item. -/
def classSign (said : OptionTable.Said) (node : Node) : String :=
  if given said 'F' then
    match node with
    | .directory => "/"
    | .link _ => if given said 'l' then "" else "@"
    | .channel _ => "|"
    | _ => if node.isExecutable then "*" else ""
  else if given said 'p' && node.isDirectory then "/" else ""

def listedName (said : OptionTable.Said) (item : Item) : String :=
  let name := if given said 'Q' then "\"" ++ item.name ++ "\"" else item.name
  name ++ classSign said item.node

/-- The moment that is shown for all files. -/
def shownMoment : String := "Jan  1 00:00"

def longLines (said : OptionTable.Said) (fs : Files) (items : List Item) : List String :=
  let counts := items.map fun i => toString (nameCount fs i.place i.node)
  let sizes := items.map fun i => toString (sizeOfNode i.node)
  let width (texts : List String) : Nat := texts.foldl (fun n t => max n t.length) 0
  (items.zip (counts.zip sizes)).map fun (i, count, size) =>
    let owner := (if given said 'g' then "" else if given said 'n' then "0 " else "root ") ++
      (if given said 'o' || given said 'G' then "" else if given said 'n' then "0 " else "root ")
    modeLetters i.node ++ " " ++ padLeft (width counts) count ++ " " ++ owner ++
      padLeft (width sizes) size ++ " " ++ shownMoment ++ " " ++ listedName said i ++
      (match i.node with
        | .link target => " -> " ++ Text.octets target
        | _ => "")

/-- How many blocks of a thousand bytes items take. -/
def blocksOf (items : List Item) : Nat :=
  items.foldl (fun n i => n + (match i.node with
    | .link _ => 0
    | _ => (sizeOfNode i.node + 4095) / 4096 * 4)) 0

def listItems (said : OptionTable.Said) (items : List Item) : Run Unit := do
  let items := ordered said items
  if ['l', 'n', 'g', 'o'].any (given said) then
    for line in longLines said (← get).files items do Run.put (line ++ "\n")
  else if given said 'm' then
    if !items.isEmpty then Run.put (", ".intercalate (items.map (listedName said)) ++ "\n")
  else
    for i in items do
      let number := if given said 'i' then toString (1000 + match i.node with
        | .file f => f.serial
        | _ => 0) ++ " " else ""
      Run.put (number ++ listedName said i ++ "\n")

/-- The items of a directory that are listed. -/
def folderItems (said : OptionTable.Said) (fs : Files) (place : Location) : List Item :=
  let all := given said 'a' || given said 'f'
  let inside := (fs.children place).map fun (name, node) =>
    (⟨Text.octets name, place ++ [name], node⟩ : Item)
  let visible := inside.filter fun i =>
    (all || given said 'A' || i.name.toList.head? ≠ some '.') &&
      !(given said 'B' && i.name.toList.getLast? = some '~')
  (if all then [⟨".", place, .directory⟩, ⟨"..", place.dropLast, .directory⟩] else []) ++ visible

/-- Lists directories one after another, and those in them if so asked; `titled` says whether they
are named. -/
def listFolders (said : OptionTable.Said) (titled : Bool) :
    (fuel : Nat) → (first : Bool) → List (String × Location) → Run Unit
  | 0, _, _ | _, _, [] => return ()
  | fuel + 1, first, (path, place) :: rest => do
    let items := folderItems said (← get).files place
    if !first then Run.put "\n"
    if titled then Run.put (path ++ ":\n")
    if ['l', 'n', 'g', 'o', 's'].any (given said) then
      Run.put ("total " ++ toString (blocksOf items) ++ "\n")
    listItems said items
    let deeper := if given said 'R' then
        (ordered said items).filterMap fun i =>
          if i.node.isDirectory && i.name ≠ "." && i.name ≠ ".." then
            let folder := if path.toList.getLast? = some '/' then path else path ++ "/"
            some (folder ++ i.name, i.place)
          else none
      else []
    listFolders said titled fuel false (deeper ++ rest)

def ls : Tool := fun args => do
  let table := OptionTable.make "aAbBcCdDfFgGhHiI:klLmnNopqQrRsStT:uUvw:xXZ1" "2::3::4::5:6:"
    ["all=a", "almost-all=A", "directory=d", "classify=F", "inode=i", "recursive=R", "reverse=r",
      "size=s", "human-readable=h", "no-group=G", "numeric-uid-gid=n", "dereference=L",
      "quote-name=Q", "ignore-backups=B", "literal=N", "color=2", "indicator-style=3", "sort=5",
      "time=6", "format=6", "time-style=6", "group-directories-first=4"]
  withOptions table 2 args fun said => do
    let long := ['l', 'n', 'g', 'o'].any (given said)
    let paths := if said.others.isEmpty then ["."] else said.others
    let mut good := true
    let mut singles : List Item := []
    let mut folders : List Item := []
    for path in paths do
      let here ← lookHere path
      let there ← look path
      let follows := given said 'L' || !(long || given said 'd' || given said 'F')
      let found : Except Fault (Location × Node) := match here, there with
        | .ok h, .ok t => .ok (if follows || path.toList.getLast? = some '/' then t else h)
        | .ok h, .error e => if given said 'L' then .error e else .ok h
        | .error e, _ => .error e
      match found with
      | .error e =>
        warn ("cannot access " ++ named path ++ ": " ++ e.words)
        good := false
      | .ok (place, node) =>
        if node.isDirectory && !given said 'd' then
          folders := ⟨path, place, node⟩ :: folders
        else singles := ⟨path, place, node⟩ :: singles
    listItems said singles.reverse
    let titled := 1 < paths.length || given said 'R'
    listFolders said titled 10000 singles.isEmpty
      ((ordered said folders.reverse).map fun i => (i.name, i.place))
    return if good then 0 else 2

end Formulary.Host.Tool
