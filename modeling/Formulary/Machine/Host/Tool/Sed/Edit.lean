import Formulary.Machine.Host.Tool.Input
import Formulary.Machine.Host.Tool.Sed.Read

/-!
# The stream editor: editing lines

`sed` goes through its commands once for every line of its files. A line is read when it is needed;
whether it is the last one is found out only if somebody asks.
-/

namespace Formulary.Host.Tool.Sed

open Formulary.Host.Script

/-! ### What is known while lines are edited -/

/-- How a script is performed. -/
structure Manner where
  quiet : Bool := false
  /-- Files are edited one by one. -/
  separate : Bool := false
  /-- Files are edited in their places; copies get a name of this kind. -/
  inPlace : Option String := none
  ending : Char := '\n'
  /-- The width of lines that are shown in full. -/
  width : Nat := 70

/-- How far the range of a command is. -/
inductive Range where
  | before
  | within (last : Option Nat)
  | behind

/-- Something that is put out behind a line. -/
inductive Behind where
  | text (s : List Char)
  | file (path : String)
  /-- A line, and whether it had an end. -/
  | line (s : List Char)

/-- Where something is written, and whether the last line there had an end. -/
structure Outlet where
  fd : Nat
  closed : Bool := true

/-- A file that is being read. -/
structure Open where
  input : Input
  name : String

/-- What is known while lines are edited. -/
structure Editing where
  space : List Char := []
  hold : List Char := []
  /-- The line had an end. -/
  closed : Bool := true
  number : Nat := 0
  replaced : Bool := false
  lastUsed : Option Regex.Alternatives := none
  ranges : Array Range
  /-- How far the ranges are at the start of a file. -/
  firstRanges : Array Range
  behind : List Behind := []
  current : Option Open := none
  /-- The files that have not been read. -/
  waiting : List String
  /-- What has been put out of a file that is edited in its place, last part first. -/
  collected : List (List Char) := []
  outletClosed : Bool := true
  outlets : List (String × Outlet) := []
  /-- Files from which single lines are read. -/
  sources : List (String × Input) := []
  status : Nat := 0

abbrev Edit := StateT Editing Run

/-! ### Putting out -/

def emit (m : Manner) (s : List Char) : Edit Unit := do
  if m.inPlace.isSome then modify fun e => { e with collected := s :: e.collected }
  else (putChars s : Run Unit)

/-- Closes the last line, if it had no end. -/
def closeLine (m : Manner) : Edit Unit := do
  if !(← get).outletClosed then
    emit m [m.ending]
    modify fun e => { e with outletClosed := true }

def putText (m : Manner) (s : List Char) : Edit Unit := do
  closeLine m
  emit m s

/-- Puts out a line, which ends as the present one did. -/
def putSpace (m : Manner) (s : List Char) : Edit Unit := do
  closeLine m
  let closed := (← get).closed
  emit m (if closed then s ++ [m.ending] else s)
  modify fun e => { e with outletClosed := closed }

/-- The outlet of a file, which is emptied when it is opened. -/
def outletOf (path : String) : Edit (Option Outlet) := do
  match (← get).outlets.lookup path with
  | some o => return some o
  | none =>
    match ← (Run.openFd path .emptying : Run _) with
    | .ok fd =>
      modify fun e => { e with outlets := (path, { fd }) :: e.outlets }
      return some { fd }
    | .error fault =>
      warn ("couldn't open file " ++ path ++ ": " ++ fault.words)
      throw (.leave 4)

def writeLine (m : Manner) (target : Target) (s : List Char) : Edit Unit := do
  match target with
  | .output =>
    if m.inPlace.isSome then (putChars (s ++ [m.ending]) : Run Unit) else putSpace m s
  | .complaints => Run.complain (String.ofList (s ++ [m.ending]))
  | .file path =>
    match ← outletOf path with
    | none => return ()
    | some o =>
      let closed := (← get).closed
      let text := (if o.closed then [] else [m.ending]) ++ s ++ (if closed then [m.ending] else [])
      let _ ← (Run.write o.fd (Text.pushOctets .empty (String.ofList text)) : Run _)
      modify fun e => { e with
        outlets := (path, { o with closed }) :: e.outlets.filter fun x => x.1 ≠ path }

/-- Puts out what was kept for behind the line. -/
def putBehind (m : Manner) : Edit Unit := do
  let all := (← get).behind.reverse
  modify fun e => { e with behind := [] }
  for b in all do
    match b with
    | .text s => putText m s
    | .line s =>
      closeLine m
      emit m (s ++ [m.ending])
    | .file path =>
      match ← (contents path : Run _) with
      | .ok s => if !s.isEmpty then putText m s
      | .error _ => pure ()

/-! ### Reading lines -/

def panic {α : Type} (text : String) : Edit α := do
  Run.complain ((← Run.own Local.arg0) ++ ": " ++ text ++ "\n")
  throw (.leave 4)

/-- A complaint that changes the status at the end. -/
def notice (status : Nat) (text : String) : Edit Unit := do
  Run.complain ((← Run.own Local.arg0) ++ ": " ++ text ++ "\n")
  modify fun e => { e with status }

/-- The name of the copy of a file. -/
def copyName (kind path : String) : String :=
  let name := Text.afterLast '/' path.toList
  let dir := path.toList.take (path.length - name.length)
  let copy := if kind.toList.contains '*' then
      kind.toList.flatMap fun c => if c = '*' then name else [c]
    else name ++ kind.toList
  if copy.contains '/' then String.ofList copy else String.ofList (dir ++ copy)

/-- A file has been read to its end: if it is edited in its place, what was put out takes its
place. -/
def finishFile (m : Manner) : Edit Unit := do
  match (← get).current with
  | none => return ()
  | some o =>
    (closeInput o.input.fd : Run Unit)
    match m.inPlace with
    | none => pure ()
    | some kind =>
      let s ← (MonadState.get : Run State)
      let data := ((← get).collected.reverse.flatten).map Text.octet
      match s.files.locateHere s.own.cwd (pathOf o.name) with
      | .ok place =>
        let mode := match s.files.find s.own.cwd (pathOf o.name) with
          | .ok (_, .file f) => f.mode
          | _ => 0o644
        let files := if kind.isEmpty then s.files
          else
            let moved := s.files.rename s.own.cwd (pathOf o.name) (pathOf (copyName kind o.name))
            moved.toOption.getD s.files
        let files := (files.remove place).change place { data, mode }
        (modify fun s => { s with files } : Run Unit)
      | .error _ => pure ()
    modify fun e => { e with
      ranges := if m.separate then e.firstRanges else e.ranges
      current := none
      collected := []
      outletClosed := if m.inPlace.isSome then true else e.outletClosed
      number := if m.separate then 0 else e.number }

/-- Opens the next file that can be opened; false if there is none. -/
def openNext (m : Manner) : (fuel : Nat) → Edit Bool
  | 0 => return false
  | fuel + 1 => do
    match (← get).waiting with
    | [] => return false
    | path :: rest =>
      modify fun e => { e with waiting := rest }
      if m.inPlace.isSome then
        match ← (look path : Run _) with
        | .ok (_, .file _) => pure ()
        | .ok _ =>
          notice 4 ("couldn't edit " ++ path ++ ": not a regular file")
          return ← openNext m fuel
        | .error e =>
          notice 2 ("can't read " ++ path ++ ": " ++ e.words)
          return ← openNext m fuel
      match ← (openInput path : Run _) with
      | .error e =>
        notice 2 ("can't read " ++ path ++ ": " ++ e.words)
        openNext m fuel
      | .ok fd =>
        modify fun e => { e with current := some ⟨{ fd, ending := m.ending }, path⟩ }
        return true

/-- The next line of the files; none at their end. -/
def nextLine? (m : Manner) : (fuel : Nat) → Edit (Option Line)
  | 0 => return none
  | fuel + 1 => do
    match (← get).current with
    | none => if ← openNext m ((← get).waiting.length + 1) then nextLine? m fuel else return none
    | some o =>
      match ← (o.input.next? Run.mostRepeats : Run _) with
      | .error e => panic ("read error on " ++ o.name ++ ": " ++ e.words)
      | .ok (some line, input) =>
        modify fun e => { e with current := some { o with input } }
        return some line
      | .ok (none, _) =>
        finishFile m
        nextLine? m fuel

/-- There is something left of a file that is being read. -/
def hasMore (o : Open) : Edit (Bool × Input) := do
  if !o.input.ahead.isEmpty then return (true, o.input)
  if o.input.ended then return (false, o.input)
  match ← (Run.read o.input.fd Run.readSize : Run _) with
  | .error e => panic ("read error on " ++ o.name ++ ": " ++ e.words)
  | .ok bytes =>
    return (!bytes.isEmpty, { o.input with
      ahead := Run.characters bytes, ended := bytes.isEmpty })

def isLast (m : Manner) : (fuel : Nat) → Edit Bool
  | 0 => return true
  | fuel + 1 => do
    match (← get).current with
    | none => if ← openNext m ((← get).waiting.length + 1) then isLast m fuel else return true
    | some o =>
      let (more, input) ← hasMore o
      modify fun e => { e with current := some { o with input } }
      if more then return false
      if m.separate then return true
      -- the next file that holds something is looked for
      if (← get).waiting.isEmpty then return true
      (closeInput o.input.fd : Run Unit)
      modify fun e => { e with current := none }
      isLast m fuel

/-- Takes the next line in, with what was kept for behind the last one put out before; false if
there is none. -/
def advance (m : Manner) (add : Bool) : Edit Bool := do
  putBehind m
  match ← nextLine? m Run.mostRepeats with
  | none => return false
  | some line =>
    modify fun e => { e with
      space := if add then e.space ++ m.ending :: line.text else line.text
      closed := line.closed
      number := e.number + 1
      replaced := false }
    return true

/-! ### Which lines -/

/-- An expression, or the one that was used last. -/
def resolved (e : Option Regex.Alternatives) : Edit Regex.Alternatives := do
  match e, (← get).lastUsed with
  | some a, _ =>
    modify fun s => { s with lastUsed := some a }
    return a
  | none, some a => return a
  | none, none =>
    Run.complain ((← Run.own Local.arg0) ++
      ": -e expression #1, char 0: no previous regular expression\n")
    throw (.leave 1)

def fits (m : Manner) : Address → Edit Bool
  | .number n => return (← get).number = n
  | .each first step => do
    let n := (← get).number
    return first ≤ n && (n - first) % step = 0
  | .last => isLast m Run.mostRepeats
  | .matching e => do
    let a ← resolved e
    return (Regex.find? a (← get).space).isSome

/-- The present line begins the range of a command. -/
def begins (m : Manner) (r : Range) : Address → Edit Bool
  | .number n => do
    let isBehind := match r with
      | .behind => true
      | _ => false
    return !isBehind && n ≤ (← get).number
  | a => fits m a

/-- The present line is within a range; as well how far the range is then. -/
def within (m : Manner) (first : Address) (last : Limit) (r : Range) : Edit (Bool × Range) := do
  let n := (← get).number
  let isNumber := match first with
    | .number _ => true
    | _ => false
  let upTo (stop : Nat) : Bool × Range :=
    if n < stop then (true, .within (some stop)) else (true, .behind)
  match r with
  | .within stop =>
    match last, stop with
    | .address (.number stop), _ | _, some stop =>
      if stop < n then
        -- the range has been left without its end being met
        if isNumber then return (false, .behind)
        else if ← begins m .behind first then return upTo stop
        else return (false, .behind)
      else return (true, if n < stop then r else .behind)
    | .address a, none => return (true, if ← fits m a then .behind else r)
    | _, none => return (true, r)
  | _ =>
    if !(← begins m r first) then return (false, r)
    match last with
    | .address (.number stop) => return upTo stop
    | .address .last => return (true, if ← isLast m Run.mostRepeats then .behind else .within none)
    | .address _ => return (true, .within none)
    | .further k => return upTo (n + k)
    | .multiple k => return upTo (if k = 0 then n else (n + k - 1) / k * k)

/-- The lines of the command at a place hold the present one. -/
def selected (m : Manner) (place : Nat) (c : Command) : Edit Bool := do
  let found ← match c.lines with
    | .all => pure true
    | .single a => fits m a
    | .range first last =>
      let r := ((← get).ranges[place]?).getD .before
      let (found, r) ← within m first last r
      modify fun e => { e with ranges := e.ranges.set! place r }
      pure found
  return found != c.negated

/-! ### Replacing -/

def inCase : Case → Char → Char
  | .upper, c => c.toUpper
  | .lower, c => c.toLower
  | .plain, c => c

def replacement (m : Regex.Match) (parts : List Part) : List Char :=
  let write (s : List Char) (state : List Char × Case × Case) : List Char × Case × Case :=
    s.foldl (fun (out, all, once) c =>
      (inCase (if once = .plain then all else once) c :: out, all, Case.plain)) state
  let (out, _, _) := parts.foldl (fun (state : List Char × Case × Case) p =>
    match p with
    | .char c => write [c] state
    | .group 0 => write m.own state
    | .group n => write ((m.groups.lookup n).getD []) state
    | .case c => (state.1, c, .plain)
    | .once c => (state.1, state.2.1, c)) (([] : List Char), Case.plain, Case.plain)
  out.reverse

/-- A text with matches replaced, last character first, and whether there were any. `count` is how
many matches there have been; `joined` says that a match ended right before. -/
def replaceFrom (s : Substitution) (e : Regex.Alternatives) : (fuel : Nat) → (count : Nat) →
    (joined : Bool) → (before : Option Char) → (out rest : List Char) → (done : Bool) →
    List Char × Bool
  | 0, _, _, _, out, rest, done => (rest.reverse ++ out, done)
  | fuel + 1, count, joined, before, out, rest, done =>
    match Regex.findBehind? e before rest with
    | none => (rest.reverse ++ out, done)
    | some m =>
      let out := m.before.reverse ++ out
      let skips := m.own.isEmpty && joined && m.before.isEmpty
      let count := if skips then count else count + 1
      let replaces := !skips && s.occurrence ≤ count
      let out := if replaces then (replacement m s.parts).reverse ++ out else m.own.reverse ++ out
      let done := done || replaces
      if replaces && !s.everywhere then (m.behind.reverse ++ out, done)
      else if m.own.isEmpty then
        match m.behind with
        | [] => (out, done)
        | c :: behind => replaceFrom s e fuel count false (some c) (c :: out) behind done
      else
        let last := Regex.lastChar m.own before
        if m.behind.isEmpty then (out, done)
        else replaceFrom s e fuel count true last out m.behind done

def substitute (m : Manner) (s : Substitution) : Edit Unit := do
  let e ← resolved s.expression
  let space := (← get).space
  let (out, done) := replaceFrom s e (space.length + 2) 0 false none [] space false
  if done then
    modify fun st => { st with space := out.reverse, replaced := true }
    if s.print then putSpace m out.reverse
    match s.target with
    | some t => writeLine m t out.reverse
    | none => pure ()

/-! ### Showing lines in full -/

/-- A character as it is shown in full. -/
def fullChar (c : Char) : List Char :=
  if c = '\\' then ['\\', '\\']
  else match escapeLetter? c with
    | some letter => ['\\', letter]
    | none => if canShow c then [c] else '\\' :: (octalDigits c.toNat).toList

/-- A line shown in full, cut at a width. -/
def fullLine (width : Nat) (s : List Char) : List Char :=
  let (out, _) := s.foldl (fun (out, column) c =>
    let shown := fullChar c
    if 1 < width && width - 1 < column + shown.length then
      (shown.reverse ++ '\n' :: '\\' :: out, shown.length)
    else (shown.reverse ++ out, column + shown.length)) (([] : List Char), 0)
  (('\n' :: '$' :: out).reverse)

/-! ### Performing commands -/

/-- Where editing goes on after a command. -/
inductive Next where
  | at (place : Nat)
  /-- At the end of the commands. -/
  | cycle
  /-- With the next line, without putting out this one. -/
  | discard
  /-- With what is left of this line. -/
  | again
  /-- Not at all. -/
  | stop (status : Nat) (print : Bool)

def placeOf (script : Script) (name : String) : Next :=
  if name.isEmpty then .cycle
  else match script.labels.lookup name with
    | some place => .at place
    | none => .cycle

/-- The next line of a file from which single lines are read. -/
def takeLine (m : Manner) (path : String) : Edit (Option Line) := do
  let input : Option Input ← match (← get).sources.lookup path with
    | some i => pure (some i)
    | none =>
      match ← (openInput path : Run _) with
      | .ok fd => pure (some { fd, ending := m.ending })
      | .error _ => pure none
  match input with
  | none => return none
  | some i =>
    match ← (i.next? Run.mostRepeats : Run _) with
    | .ok (line, i) =>
      modify fun e => { e with sources := (path, i) :: e.sources.filter fun x => x.1 ≠ path }
      return line
    | .error _ => return none

def firstLine (m : Manner) (s : List Char) : List Char := s.takeWhile (· ≠ m.ending)

/-- Performs an action at a place. -/
def perform (script : Script) (m : Manner) (place : Nat) (c : Command) : Edit Next := do
  let onward : Next := .at (place + 1)
  let e ← get
  match c.action with
  | .open _ | .close | .comment => return onward
  | .append text =>
    modify fun e => { e with behind := .text text :: e.behind }
    return onward
  | .insert text =>
    putText m text
    return onward
  | .change text =>
    let ended := match c.lines, (e.ranges[place]?).getD .before with
      | .range _ _, .within _ => c.negated
      | _, _ => true
    if ended then putText m text
    return .discard
  | .jump name => return placeOf script name
  | .jumpIfReplaced name =>
    set { e with replaced := false }
    return if e.replaced then placeOf script name else onward
  | .jumpUnlessReplaced name =>
    set { e with replaced := false }
    return if e.replaced then onward else placeOf script name
  | .delete => return .discard
  | .deleteFirst =>
    if e.space.contains m.ending then
      set { e with space := (e.space.dropWhile (· ≠ m.ending)).drop 1 }
      return .again
    else return .discard
  | .showName =>
    putText m (((e.current.map Open.name).getD "-").toList ++ ['\n'])
    return onward
  | .holdToSpace add =>
    set { e with space := if add then e.space ++ m.ending :: e.hold else e.hold }
    return onward
  | .spaceToHold add =>
    set { e with hold := if add then e.hold ++ m.ending :: e.space else e.space }
    return onward
  | .exchange =>
    set { e with space := e.hold, hold := e.space }
    return onward
  | .list width =>
    putText m (fullLine (width.getD m.width) e.space)
    return onward
  | .next =>
    if ← isLast m Run.mostRepeats then return .stop 0 true
    if !m.quiet then putSpace m (← get).space
    return if ← advance m false then onward else .stop 0 false
  | .addNext =>
    if ← isLast m Run.mostRepeats then return .stop 0 true
    return if ← advance m true then onward else .stop 0 true
  | .print =>
    putSpace m e.space
    return onward
  | .printFirst =>
    putText m (firstLine m e.space ++ [m.ending])
    return onward
  | .quit status => return .stop status true
  | .quitAtOnce status => return .stop status false
  | .readFile path =>
    modify fun e => { e with behind := .file path :: e.behind }
    return onward
  | .readLine path =>
    match ← takeLine m path with
    | some line => modify fun e => { e with behind := .line line.text :: e.behind }
    | none => pure ()
    return onward
  | .substitute s =>
    substitute m s
    return onward
  | .write t =>
    writeLine m t e.space
    return onward
  | .writeFirst t =>
    writeLine m t (firstLine m e.space)
    return onward
  | .replaceChars source target =>
    set { e with space := e.space.map fun c =>
      ((source.idxOf? c).bind fun i => target[i]?).getD c }
    return onward
  | .number =>
    putText m ((toString e.number).toList ++ ['\n'])
    return onward
  | .clear =>
    set { e with space := [] }
    return onward

def performFrom (script : Script) (m : Manner) : (fuel : Nat) → (place : Nat) → Edit Next
  | 0, _ => return .stop 1 false
  | fuel + 1, place => do
    match script.commands[place]? with
    | none => return .cycle
    | some c =>
      if ← selected m place c then
        match ← perform script m place c with
        | .at next =>
          if next ≤ place then (Run.spend : Run Unit)
          performFrom script m fuel next
        | other => return other
      else
        match c.action with
        | .open close => performFrom script m fuel close
        | _ => performFrom script m fuel (place + 1)

/-- Edits lines one after another, the first of which has been taken in; the status at the end. -/
def cycles (script : Script) (m : Manner) : (fuel : Nat) → Edit Nat
  | 0 => return 0
  | fuel + 1 => do
    let finish : Edit Unit := do if !m.quiet then putSpace m (← get).space
    let onward : Edit Nat := do
      if ← advance m false then cycles script m fuel else return (← get).status
    match ← performFrom script m Run.mostRepeats 0 with
    | .at _ | .cycle =>
      finish
      onward
    | .discard => onward
    | .again =>
      putBehind m
      cycles script m fuel
    | .stop status print =>
      if print then finish
      putBehind m
      finishFile m
      let worst := (← get).status
      return if status = 0 then worst else status

def openTargets (script : Script) : Edit Unit := do
  for c in script.commands do
    let target := match c.action with
      | .write t | .writeFirst t => some t
      | .substitute s => s.target
      | _ => none
    match target with
    | some (.file path) =>
      let _ ← outletOf path
    | _ => pure ()

def edit (script : Script) (m : Manner) (paths : List String) : Run Nat := do
  let steps : Edit Nat := do
    openTargets script
    if ← advance m false then cycles script m Run.mostRepeats else return (← get).status
  let ranges := script.commands.map fun c => match c.lines with
    | .range (.number 0) _ => Range.within none
    | _ => Range.before
  let (status, _) ← steps.run { ranges, firstRanges := ranges, waiting := paths }
  return status

end Formulary.Host.Tool.Sed
