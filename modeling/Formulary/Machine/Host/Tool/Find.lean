import Formulary.Machine.Host.Script.Pattern
import Formulary.Machine.Host.Tool.Launch
import Formulary.Machine.Host.Tool.Listing

/-!
# Tools: finding files

`find` goes through directories and does what an expression says with each path it comes upon.
-/

namespace Formulary.Host.Tool.Find

open Formulary.Host.Script

/-- What is said of a path, or done with it. -/
inductive Term where
  | always (holds : Bool)
  | name (pattern : String) (anyCase : Bool)
  | path (pattern : String) (anyCase : Bool)
  | kind (letters : List Char)
  | isEmpty
  /-- More, fewer or just so many units of bytes. -/
  | size (sign : Option Char) (count unit : Nat)
  | newerThan (moment : Nat)
  | executable
  | print (ending : String)
  | format (text : String)
  | delete
  | prune
  | quit
  /-- A command for each path, or for all of them at the end. -/
  | execute (argv : List String) (together : Bool)
  | negated (t : Term)
  | both (a b : Term)
  | either (a b : Term)
  /-- The second counts; the first is performed all the same. -/
  | after (a b : Term)

/-- How the search goes, beside what is looked for. -/
structure Manner where
  deepest : Option Nat := none
  shallowest : Nat := 0
  /-- Directories come behind what is in them. -/
  insideFirst : Bool := false
  /-- Links are followed. -/
  follows : Bool := false

/-! ### Reading expressions -/

/-- What is left to read, and how the search goes. -/
structure Reading where
  args : List String
  manner : Manner := {}
  /-- Something is done, so that paths need not be shown. -/
  acts : Bool := false

abbrev Reader := StateT Reading (Except String)

def value (name : String) : Reader String := do
  match (← get).args with
  | v :: rest =>
    modify fun r => { r with args := rest }
    return v
  | [] => throw ("missing argument to \x60" ++ name ++ "'")

/-- A number as the value of a predicate. -/
def number (name : String) : Reader Nat := do
  let v ← value name
  match Text.natural? v.toList with
  | some n => return n
  | none =>
    throw ("Expected a positive decimal integer argument to " ++ name ++ ", but got '" ++ v ++ "'")

def commandWords (name : String) : (fuel : Nat) → List String → Reader Term
  | 0, _ => throw ("missing argument to \x60" ++ name ++ "'")
  | fuel + 1, out => do
    match (← get).args with
    | [] => throw ("missing argument to \x60" ++ name ++ "'")
    | word :: rest =>
      modify fun r => { r with args := rest, acts := true }
      if word = ";" && !out.isEmpty then return .execute out.reverse false
      else if word = "+" && out.head? = some "\x7b\x7d" then return .execute out.tail.reverse true
      else commandWords name fuel (word :: out)

def sizeTerm (v : String) : Option Term :=
  let (sign, rest) : Option Char × List Char := match v.toList with
    | '+' :: rest => (some '+', rest)
    | '-' :: rest => (some '-', rest)
    | rest => (none, rest)
  let digits := rest.takeWhile Char.isDigit
  let unit := match rest.drop digits.length with
    | ['c'] => 1
    | ['w'] => 2
    | ['k'] => 1024
    | ['M'] => 1048576
    | ['G'] => 1073741824
    | _ => 512
  (Text.natural? digits).map fun n => .size sign n unit

def acting (t : Term) : Reader Term := do
  modify fun r => { r with acts := true }
  return t

def predicate (fs : Files) (cwd : Location) (name : String) : Reader Term := do
  match name with
  | "-true" => return .always true
  | "-false" => return .always false
  | "-name" => return .name (← value name) false
  | "-iname" => return .name (← value name) true
  | "-path" | "-wholename" => return .path (← value name) false
  | "-ipath" | "-iwholename" => return .path (← value name) true
  | "-type" | "-xtype" =>
    let v ← value name
    let letters := v.toList.filter (· ≠ ',')
    match letters.find? fun c => !"bcdpfls".toList.contains c with
    | some c => throw ("Unknown argument to " ++ name ++ ": " ++ c.toString)
    | none => return .kind letters
  | "-empty" => return .isEmpty
  | "-size" =>
    let v ← value name
    match sizeTerm v with
    | some t => return t
    | none => throw ("Invalid argument \x60" ++ v ++ "' to -size")
  | "-newer" =>
    let v ← value name
    match fs.find cwd (pathOf v) with
    | .ok (_, node) => return .newerThan (Condition.changedOf node)
    | .error e => throw (quoted v ++ ": " ++ e.words)
  | "-executable" => return .executable
  | "-readable" | "-writable" => return .always true
  | "-maxdepth" =>
    let n ← number name
    modify fun r => { r with manner := { r.manner with deepest := some n } }
    return .always true
  | "-mindepth" =>
    let n ← number name
    modify fun r => { r with manner := { r.manner with shallowest := n } }
    return .always true
  | "-depth" | "-d" =>
    modify fun r => { r with manner := { r.manner with insideFirst := true } }
    return .always true
  | "-mount" | "-xdev" | "-noleaf" => return .always true
  | "-follow" =>
    modify fun r => { r with manner := { r.manner with follows := true } }
    return .always true
  | "-print" => acting (.print "\n")
  | "-print0" => acting (.print "\x00")
  | "-printf" => acting (.format (← value name))
  | "-prune" => return .prune
  | "-quit" => acting .quit
  | "-delete" =>
    modify fun r => { r with manner := { r.manner with insideFirst := true } }
    acting .delete
  | "-exec" | "-execdir" => commandWords name ((← get).args.length + 1) []
  | _ =>
    if name.toList.head? = some '-' then throw ("unknown predicate \x60" ++ name ++ "'")
    else throw ("paths must precede expression: \x60" ++ name ++ "'")

mutual

def listed (fs : Files) (cwd : Location) : (fuel : Nat) → Reader Term
  | 0 => throw "invalid expression"
  | fuel + 1 => do
    let a ← alternatives fs cwd fuel
    if (← get).args.head? = some "," then
      modify fun r => { r with args := r.args.tail }
      return .after a (← listed fs cwd fuel)
    else return a

def alternatives (fs : Files) (cwd : Location) : (fuel : Nat) → Reader Term
  | 0 => throw "invalid expression"
  | fuel + 1 => do
    let a ← chained fs cwd fuel
    match (← get).args.head? with
    | some "-o" | some "-or" =>
      modify fun r => { r with args := r.args.tail }
      return .either a (← alternatives fs cwd fuel)
    | _ => return a

/-- Terms one behind the other, or joined by `-a`. -/
def chained (fs : Files) (cwd : Location) : (fuel : Nat) → Reader Term
  | 0 => throw "invalid expression"
  | fuel + 1 => do
    let a ← single fs cwd fuel
    match (← get).args.head? with
    | none | some "-o" | some "-or" | some ")" | some "," => return a
    | some "-a" | some "-and" =>
      modify fun r => { r with args := r.args.tail }
      return .both a (← chained fs cwd fuel)
    | some _ => return .both a (← chained fs cwd fuel)

/-- A term that is not joined to others. -/
def single (fs : Files) (cwd : Location) : (fuel : Nat) → Reader Term
  | 0 => throw "invalid expression"
  | fuel + 1 => do
    match (← get).args with
    | [] => throw "expected an expression"
    | word :: rest =>
      modify fun r => { r with args := rest }
      match word with
      | "!" | "-not" => return .negated (← single fs cwd fuel)
      | "(" =>
        let t ← listed fs cwd fuel
        match (← get).args with
        | ")" :: rest =>
          modify fun r => { r with args := rest }
          return t
        | _ =>
          throw "invalid expression; I was expecting to find a ')' somewhere but did not see one."
      | _ => predicate fs cwd word

end

/-- The expression of arguments, where paths are shown if nothing else is done. -/
def read (fs : Files) (cwd : Location) (args : List String) : Except String (Term × Manner) := do
  if args.isEmpty then return (.print "\n", {})
  let (t, r) ← (listed fs cwd (4 * args.length + 8)).run { args }
  match r.args with
  | ")" :: _ => throw "you have too many ')'"
  | _ => return (if r.acts then t else .both t (.print "\n"), r.manner)

/-! ### Going through directories -/

/-- A path that was come upon. -/
structure Spot where
  path : String
  place : Location
  node : Node
  depth : Nat

/-- How a search stands. -/
structure Search where
  good : Bool := true
  /-- Nothing more is looked for. -/
  ended : Bool := false
  /-- What is in the present directory is not looked at. -/
  pruned : Bool := false
  /-- Paths that wait for a command at the end. -/
  gathered : List (List String × String) := []

/-- A text matches a pattern, where every character of the text counts alike. -/
def fits (pattern : String) (anyCase : Bool) (text : String) : Bool :=
  let lower (s : String) : List Char := if anyCase then s.toLower.toList else s.toList
  let rec marked : List Char → List Marked
    | '\\' :: c :: rest => (c, true) :: marked rest
    | c :: rest => (c, false) :: marked rest
    | [] => []
  Pattern.isMatch (marked (lower pattern)) (lower text)

/-- The letter of the kind of a node. -/
def kindOf (node : Node) : Char :=
  match kindLetter node with
  | '-' => 'f'
  | c => c

/-- The text of a format for a spot. -/
def formatted (fs : Files) (s : Spot) : List Char → String
  | '%' :: c :: rest =>
    let part := match c with
      | 'p' => s.path
      | 'f' => String.ofList (baseName s.path)
      | 'h' => dirName s.path
      | 's' => toString (sizeOfNode s.node)
      | 'y' => (kindOf s.node).toString
      | 'd' => toString s.depth
      | 'm' => Mode.digits (Condition.modeOf s.node)
      | 'n' => toString (nameCount fs s.place s.node)
      | 'l' => match s.node with
        | .link target => Text.octets target
        | _ => ""
      | '%' => "%"
      | c => "%" ++ c.toString
    part ++ formatted fs s rest
  | '\\' :: 'n' :: rest => "\n" ++ formatted fs s rest
  | '\\' :: 't' :: rest => "\t" ++ formatted fs s rest
  | '\\' :: '0' :: rest => "\x00" ++ formatted fs s rest
  | c :: rest => c.toString ++ formatted fs s rest
  | [] => ""

/-- Runs a command and tells whether it succeeded. -/
def succeeds (argv : List String) : Run Bool := do
  Run.flush
  let name := argv.headD ""
  let env ← Run.environment
  match ← Run.programOf name argv env (env.lookup "PATH") with
  | .error e =>
    warn (quoted name ++ ": " ++ e.words)
    return false
  | .ok i => return (← Run.await (← Run.startProgram i env id)).success

/-- Does with a spot what a term says, and tells whether the term holds. -/
def evaluate (s : Spot) (search : Search) : Term → Run (Bool × Search)
  | .always b => return (b, search)
  | .name p anyCase => return (fits p anyCase (String.ofList (baseName s.path)), search)
  | .path p anyCase => return (fits p anyCase s.path, search)
  | .kind letters => return (letters.contains (kindOf s.node), search)
  | .isEmpty => do
    let fs := (← get).files
    return (match s.node with
      | .directory => (fs.children s.place).isEmpty
      | .file f => f.data.isEmpty
      | _ => false, search)
  | .size sign count unit =>
    let n := (sizeOfNode s.node + unit - 1) / unit
    return (match sign with
      | some '+' => count < n
      | some _ => n < count
      | none => n = count, search)
  | .newerThan moment => return (moment < Condition.changedOf s.node, search)
  | .executable => return (s.node.isDirectory || s.node.isExecutable, search)
  | .print ending => do
    Run.put (s.path ++ ending)
    return (true, search)
  | .format text => do
    Run.put (formatted (← get).files s text.toList)
    return (true, search)
  | .delete => do
    if s.path = "." then return (true, search)
    let result ← if s.node.isDirectory then removeEmpty s.path
      else change fun fs cwd => fs.removeFile cwd (pathOf s.path)
    match result with
    | .ok _ => return (true, search)
    | .error e =>
      warn ("cannot delete " ++ quoted s.path ++ ": " ++ e.words)
      return (false, { search with good := false })
  | .prune => return (true, { search with pruned := true })
  | .quit => return (true, { search with ended := true })
  | .execute argv true =>
    return (true, { search with gathered := (argv, s.path) :: search.gathered })
  | .execute argv false => do
    let argv := argv.map fun word => Text.replace word "\x7b\x7d" s.path
    return (← succeeds argv, search)
  | .negated t => do
    let (holds, search) ← evaluate s search t
    return (!holds, search)
  | .both a b => do
    let (holds, search) ← evaluate s search a
    if holds && !search.ended then evaluate s search b else return (holds, search)
  | .either a b => do
    let (holds, search) ← evaluate s search a
    if holds || search.ended then return (holds, search) else evaluate s search b
  | .after a b => do
    let (_, search) ← evaluate s search a
    evaluate s search b

/-- Goes through what is at and below spots, in order. -/
def walk (t : Term) (m : Manner) : (fuel : Nat) → List Spot → Search → Run Search
  | 0, _, search | _, [], search => return search
  | fuel + 1, s :: rest, search => do
    if search.ended then return search
    Run.spend
    let isVisited := m.shallowest ≤ s.depth && m.deepest.all (s.depth ≤ ·)
    let visit (search : Search) : Run Search := do
      if isVisited then return (← evaluate s { search with pruned := false } t).2
      else return { search with pruned := false }
    let search ← if m.insideFirst then pure { search with pruned := false } else visit search
    let fs := (← get).files
    let inside : List Spot :=
      if s.node.isDirectory && !search.pruned && m.deepest.all (s.depth < ·) then
        (fs.children s.place).map fun (name, node) =>
          let place := s.place ++ [name]
          let node := match m.follows, fs.find s.place ⟨name⟩ with
            | true, .ok (_, node) => node
            | _, _ => node
          { path := (if s.path.toList.getLast? = some '/' then s.path else s.path ++ "/") ++
              Text.octets name
            place, node
            depth := s.depth + 1 }
      else []
    let search ← walk t m fuel inside search
    let search ← if m.insideFirst && !search.ended then visit search else pure search
    walk t m fuel rest search

/-- `find`: paths, and what is done with them. -/
def find : Tool := fun args => do
  let follows := (args.takeWhile fun a => a = "-H" || a = "-L" || a = "-P").contains "-L"
  let args := args.dropWhile fun a => a = "-H" || a = "-L" || a = "-P"
  let isExpression (a : String) : Bool :=
    a = "(" || a = "!" || (1 < a.length && a.toList.head? = some '-')
  let paths := args.takeWhile fun a => !isExpression a
  let s ← get
  match read s.files s.own.cwd (args.drop paths.length) with
  | .error e => refuse e
  | .ok (t, m) =>
    let m := { m with follows := m.follows || follows }
    let mut search : Search := {}
    for path in if paths.isEmpty then ["."] else paths do
      match ← (if m.follows then look else lookHere) path with
      | .ok (place, node) =>
        search ← walk t m Run.mostRepeats [{ path, place, node, depth := 0 }] search
      | .error e =>
        warn (quoted path ++ ": " ++ e.words)
        search := { search with good := false }
    for argv in (search.gathered.map Prod.fst).eraseDups do
      let found := (search.gathered.filter fun g => g.1 = argv).map Prod.snd
      if !(← succeeds (argv ++ found.reverse)) then search := { search with good := false }
    return statusFor search.good

end Formulary.Host.Tool.Find
