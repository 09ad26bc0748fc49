import Formulary.Machine.Host.Tool.Input
import Formulary.Machine.Host.Tool.Regex

/-!
# Tools: lines that match

`grep` shows the lines of its files in which one of some patterns is found, or counts them, or only
tells whether there are any. It reads no further than it must.
-/

namespace Formulary.Host.Tool.Grep

open Formulary.Host.Script

/-! ### What is asked for -/

/-- How patterns are read. -/
inductive Kind where
  | basic
  | extended
  | fixed
  | rich
  deriving DecidableEq

/-- What is shown of a file. -/
inductive Shape where
  | lines
  /-- Only what matches. -/
  | parts
  | count
  /-- Its name, if there is a line. -/
  | name
  /-- Its name, if there is no line. -/
  | nameWithout
  /-- Nothing. -/
  | nothing
  deriving DecidableEq

/-- What is asked for. -/
structure Request where
  expression : Regex.Alternatives
  shape : Shape
  inverted : Bool := false
  /-- The most lines of a file. -/
  most : Option Nat := none
  numbered : Bool := false
  /-- Files are named in front of their lines. -/
  titled : Bool := false
  /-- Lines before and behind a line that are shown as well, if any are. -/
  context : Option (Nat × Nat) := none
  separator : Option String := some "--"
  ending : Char := '\n'
  /-- Files are taken for texts whatever they hold. -/
  asText : Bool := false
  silent : Bool := false
  nameEnding : String := "\n"

/-- A line is one of those that are looked for. -/
def Request.selects (r : Request) (line : List Char) : Bool :=
  (Regex.find? r.expression line).isSome != r.inverted

/-! ### Going through a file -/

/-- How far a file has been gone through. -/
structure Progress where
  number : Nat := 0
  hits : Nat := 0
  /-- How many lines are still to be shown behind the last hit. -/
  ahead : Nat := 0
  /-- The lines before the present one that have not been shown, last first. -/
  before : List (List Char) := []
  /-- Something has been shown, of this file or of one before. -/
  shown : Bool := false
  /-- The number of the last line that was shown. -/
  last : Nat := 0
  /-- The file is no text. -/
  binary : Bool := false

/-- Shows a line, with a sign behind its name and number. -/
def showLine (r : Request) (path : String) (number : Nat) (sign : String) (line : List Char) :
    Run Unit := do
  if r.titled then Run.put (path ++ sign)
  if r.numbered then Run.put (toString number ++ sign)
  putChars (line ++ [r.ending])

/-- Shows the parts of a line that match. -/
def showParts (r : Request) (path : String) (number : Nat) (line : List Char) : Run Unit := do
  if r.inverted then return ()
  for part in Regex.findAll r.expression (line.length + 1) none line do
    showLine r path number ":" part

/-- Shows a line that was looked for, with those before it. -/
def showHit (r : Request) (path : String) (line : List Char) (p : Progress) : Run Progress := do
  let first := p.number - p.before.length
  if r.context.isSome && p.shown && (p.last = 0 || p.last + 1 < first) then
    match r.separator with
    | some text => Run.put (text ++ "\n")
    | none => pure ()
  if r.shape = .parts then showParts r path p.number line
  else
    for (old, i) in p.before.reverse.zipIdx do showLine r path (first + i) "-" old
    showLine r path p.number ":" line
  return { p with
    shown := true
    last := p.number
    before := []
    ahead := ((r.context.map Prod.snd).getD 0) }

/-- Takes in one line; tells as well whether the next one is wanted. -/
def takeLine (r : Request) (path : String) (p : Progress) (line : Line) :
    Run (Progress × Bool) := do
  let p := { p with number := p.number + 1 }
  let isFull := r.most.any (· ≤ p.hits)
  if !isFull && r.selects line.text then
    let p := { p with hits := p.hits + 1 }
    let goesOn := r.most.all (p.hits < ·)
    match r.shape with
    | .nothing | .name | .nameWithout => return (p, false)
    | .count => return (p, goesOn)
    | _ =>
      if p.binary then return (p, false)
      let p ← showHit r path line.text p
      return (p, goesOn || 0 < p.ahead)
  else if 0 < p.ahead then
    if r.shape = .lines then showLine r path p.number "-" line.text
    let p := { p with ahead := p.ahead - 1, last := p.number }
    return (p, !isFull || 0 < p.ahead)
  else
    let kept := (r.context.map Prod.fst).getD 0
    return ({ p with before := (line.text :: p.before).take kept }, true)

/-- Goes through one file; tells how often a line was found there. -/
def search (r : Request) (fd : Nat) (path : String) (start : Progress) :
    Run (Except Fault Progress) := do
  let input : Input := { fd, ending := r.ending }
  -- what is read first decides whether the file is a text
  match ← Run.read fd 32768 with
  | .error e => return .error e
  | .ok bytes =>
    let ahead := Run.characters bytes
    let binary := !r.asText && r.ending = '\n' && ahead.any fun c => c.toNat = 0
    let start := { start with binary }
    if r.most = some 0 then return .ok start
    foldLines (takeLine r path) Run.mostRepeats { input with ahead, ended := bytes.isEmpty } start

/-- Goes through one file and tells about it; whether a line was found there, and whether the file
could be read. -/
def searchFile (r : Request) (path : String) (shownBefore : Bool) : Run (Bool × Bool × Bool) := do
  let name := if path = "-" then "(standard input)" else path
  let refuseFile (e : Fault) : Run (Bool × Bool × Bool) := do
    if !r.silent then warn (path ++ ": " ++ e.words)
    return (false, false, shownBefore)
  match ← openInput path with
  | .error e => refuseFile e
  | .ok fd =>
    let result ← search r fd name { shown := shownBefore }
    closeInput fd
    match result with
    | .error e => refuseFile e
    | .ok p =>
      let found := 0 < p.hits
      match r.shape with
      | .count =>
        Run.put ((if r.titled then name ++ ":" else "") ++ toString p.hits ++ "\n")
      | .name => if found then Run.put (name ++ r.nameEnding)
      | .nameWithout => if !found then Run.put (name ++ r.nameEnding)
      | .lines | .parts =>
        if p.binary && found then warn (name ++ ": binary file matches")
      | .nothing => pure ()
      return (found, true, p.shown)

/-! ### Directories -/

/-- The paths of the files below a directory, in the order they were put there. -/
def below (fs : Files) (place : Location) : (depth : Nat) → (path : String) → List String
  | 0, _ => []
  | depth + 1, path =>
    (fs.children place).flatMap fun (name, node) =>
      let inner := if path.isEmpty then Text.octets name
        else if path.toList.getLast? = some '/' then path ++ Text.octets name
        else path ++ "/" ++ Text.octets name
      match node with
      | .directory => below fs (place ++ [name]) depth inner
      | .file _ => [inner]
      | _ => []

def deepestDirectory : Nat := 100

/-- The files that a path stands for when directories are gone through. -/
def expand (path : String) : Run (List String) := do
  match ← look path with
  | .ok (place, .directory) => return below (← get).files place deepestDirectory path
  | _ => return [path]

/-! ### The tool -/

def table : OptionTable :=
  OptionTable.make "EFGPe:f:iywxsvcnlLqohHrRaUZzm:A:B:C:bTd:D:I" "1::2:3:4:5:"
    ["extended-regexp=E", "fixed-strings=F", "basic-regexp=G", "perl-regexp=P", "regexp=e",
      "file=f", "ignore-case=i", "word-regexp=w", "line-regexp=x", "no-messages=s",
      "invert-match=v", "count=c", "line-number=n", "files-with-matches=l",
      "files-without-match=L", "quiet=q", "silent=q", "only-matching=o", "no-filename=h",
      "with-filename=H", "recursive=r", "dereference-recursive=R", "text=a", "null=Z",
      "null-data=z", "max-count=m", "after-context=A", "before-context=B", "context=C",
      "color=1", "colour=1", "label=2", "include=3", "exclude=4", "binary-files=5",
      "directories=d"]

def usage : Run Nat := do
  let name ← Run.own Local.arg0
  Run.complain ("Usage: " ++ String.ofList (Text.afterLast '/' name.toList) ++
    " [OPTION]... PATTERNS [FILE]...\nTry '" ++ name ++ " --help' for more information.\n")
  return 2

/-- The pieces that match as whole words or whole lines, if so asked. -/
def wrapped (said : OptionTable.Said) (a : Regex.Alternatives) : Regex.Alternatives :=
  if given said 'x' then [[.start, .group 0 a, .stop]]
  else if given said 'w' then [[.apart false, .group 0 a, .apart true]]
  else a

def idleWarning (sign : Char) : String :=
  let called := if sign = '\x7b' then "\x7b...\x7d" else sign.toString
  "warning: " ++ called ++ " at start of expression"

def expressionOf (kind : Kind) (said : OptionTable.Said) (patterns : List String) :
    Except String Regex.Alternatives := do
  let ignoreCase := given said 'i' || given said 'y'
  let style : Regex.Style := {
    extended := kind = .extended || kind = .rich
    strict := false, ignoreCase, rich := kind = .rich }
  let mut out : Regex.Alternatives := []
  for p in patterns do
    let a ← if kind = .fixed then pure (Regex.literally ignoreCase p.toList)
      else Regex.parse style p
    out := out ++ a
  return wrapped said out

/-- The patterns in the file of an option. -/
def patternsIn (path : String) : Run (Except Fault (List String)) := do
  match ← contents path with
  | .ok s => return .ok ((linesOf s '\n').map String.ofList)
  | .error e => return .error e

/-- The number of an option, or the complaint about it. -/
def numberOf (said : OptionTable.Said) (c : Char) (complaint : String → String) :
    Except String (Option Nat) :=
  match valueOf said c with
  | none => .ok none
  | some s =>
    match Text.natural? s.toList with
    | some n => .ok (some n)
    | none => .error (complaint s)

/-- Arguments with numbers of context lines written out as options. -/
def modernContext (args : List String) : List String :=
  args.map fun a =>
    match a.toList with
    | '-' :: c :: rest =>
      let digits := (c :: rest).takeWhile Char.isDigit
      if digits.isEmpty then a
      else if digits.length = (c :: rest).length then "-C" ++ String.ofList digits
      else a
    | _ => a

def shapeOf (said : OptionTable.Said) : Shape :=
  if given said 'q' then .nothing
  else match lastOf said ['l', 'L'] with
    | some 'l' => .name
    | some _ => .nameWithout
    | none => if given said 'c' then .count else if given said 'o' then .parts else .lines

/-- The request that options make, but for its expression. -/
def requestOf (said : OptionTable.Said) : Except String Request := do
  let wrong (s : String) : String := s ++ ": invalid context length argument"
  let before ← numberOf said 'B' wrong
  let behind ← numberOf said 'A' wrong
  let both ← numberOf said 'C' wrong
  let most ← numberOf said 'm' fun _ => "invalid max count"
  let any := before.isSome || behind.isSome || both.isSome
  return {
    expression := []
    shape := shapeOf said
    inverted := given said 'v'
    most
    numbered := given said 'n'
    context := if any then some ((before.or both).getD 0, (behind.or both).getD 0) else none
    ending := if given said 'z' then Char.ofNat 0 else '\n'
    asText := given said 'a' || valueOf said '5' = some "text"
    silent := given said 's'
    nameEnding := if given said 'Z' then "\x00" else "\n" }

/-- Goes through all files; the status at the end. -/
def searchAll (r : Request) (paths : List String) : Run Nat := do
  let mut found := false
  let mut good := true
  let mut shown := false
  for path in paths do
    let (hit, read, shownNow) ← searchFile r path shown
    found := found || hit
    good := good && read
    shown := shownNow
    if found && r.shape = .nothing then return 0
  return if !good then 2 else if found then 0 else 1

/-- `grep`, reading patterns in a way unless it is told another one. -/
def grep (usual : Kind) : Tool := fun args => do
  match table.read (countLetters args) (modernContext args) with
  | .error e =>
    warn e
    usage
  | .ok said =>
    let kind := match lastOf said ['E', 'F', 'G', 'P'] with
      | some 'E' => .extended
      | some 'F' => .fixed
      | some 'G' => .basic
      | some 'P' => .rich
      | _ => usual
    let mut patterns : List String := []
    for (c, value) in said.options do
      if c = 'e' then
        patterns := patterns ++ (Text.splitAt '\n' value.toList).map String.ofList
      if c = 'f' then
        match ← patternsIn value with
        | .ok more => patterns := patterns ++ more
        | .error e =>
          warn (value ++ ": " ++ e.words)
          return 2
    let mut paths := said.others
    if !(given said 'e' || given said 'f') then
      match paths with
      | [] => return ← usage
      | p :: rest =>
        patterns := (Text.splitAt '\n' p.toList).map String.ofList
        paths := rest
    match requestOf said, expressionOf kind said patterns with
    | .error e, _ | _, .error e =>
      warn e
      return 2
    | .ok r, .ok expression =>
      if kind = .extended then
        for p in patterns do
          for sign in Regex.idleSigns { extended := true, strict := false } p do
            warn (idleWarning sign)
      let recursive := given said 'r' || given said 'R'
      let files ← if !recursive then pure (inputs paths)
        else if paths.isEmpty then do
          pure (below (← get).files (← Run.own Local.cwd) deepestDirectory "")
        else do
          let mut out : List String := []
          for p in paths do out := out ++ (← expand p)
          pure out
      let titled := match lastOf said ['h', 'H'] with
        | some 'h' => false
        | some _ => true
        | none => 1 < paths.length || recursive && (paths.isEmpty || files ≠ paths)
      searchAll { r with expression, titled } files

end Formulary.Host.Tool.Grep
