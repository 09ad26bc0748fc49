import Formulary.Machine.Host.Tool.Options
import Formulary.Machine.Host.Tool.Quote

/-!
# Tools: what they read and write

Tools read the files they are given, or their input if they are given none, as a whole or line by
line; a dash stands for the input.
-/

namespace Formulary.Host.Tool

open Formulary.Host.Script

/-! ### Writing -/

def putChars (s : List Char) : Run Unit := Run.put (String.ofList s)

def putLine (s : List Char) : Run Unit := do
  putChars s
  Run.put "\n"

/-! ### Opening -/

def pathOf (s : String) : Path := ⟨Text.ofOctets s⟩

/-- What a path leads to from the present directory. -/
def look (path : String) : Run (Except Fault (Location × Node)) := do
  let s ← get
  return s.files.find s.own.cwd (pathOf path)

/-- What a path names from the present directory, which may be a link. -/
def lookHere (path : String) : Run (Except Fault (Location × Node)) := do
  let s ← get
  return s.files.findHere s.own.cwd (pathOf path)

/-- The descriptor for a file, which is opened, or that of the input for a dash. -/
def openInput (path : String) : Run (Except Fault Nat) := do
  if path = "-" then return .ok 0 else Run.openFd path .reading

def closeInput (fd : Nat) : Run Unit := do if fd ≠ 0 then Run.close fd

def inputs (paths : List String) : List String := if paths.isEmpty then ["-"] else paths

/-- A complaint about a file that cannot be read, as most tools word it. -/
def unreadable (path : String) (e : Fault) : String := shown path ++ ": " ++ e.words

/-! ### Whole files -/

/-- The characters of a file, or of the input for a dash. -/
def contents (path : String) : Run (Except Fault (List Char)) := do
  match ← openInput path with
  | .error e => return .error e
  | .ok fd =>
    let result ← Run.readAll fd
    closeInput fd
    return result.map Run.characters

/-- Performs something for the characters of each file, complaining about those that cannot be read;
tells whether all could be. -/
def forContents (say : String → Fault → String) (paths : List String)
    (f : String → List Char → Run Unit) : Run Bool := do
  let mut good := true
  for path in inputs paths do
    match ← contents path with
    | .ok s => f path s
    | .error e =>
      warn (say path e)
      good := false
  return good

/-! ### Lines -/

/-- The lines of a text without their ends; the last one counts if there is anything on it. -/
def linesOf (s : List Char) (ending : Char) : List (List Char) :=
  go [] [] s
where
  go (out : List (List Char)) (line : List Char) : List Char → List (List Char)
    | [] => (if line.isEmpty then out else line.reverse :: out).reverse
    | c :: rest => if c = ending then go (line.reverse :: out) [] rest else go out (c :: line) rest

/-- A file that is read line by line. -/
structure Input where
  fd : Nat
  /-- What has been read already. -/
  ahead : List Char := []
  ended : Bool := false
  /-- The character at the end of each line. -/
  ending : Char := '\n'

/-- A line, and whether it had an end. -/
structure Line where
  text : List Char
  closed : Bool := true

/-- The next line of a file, if there is one. -/
def Input.next? : (fuel : Nat) → Input → Run (Except Fault (Option Line × Input))
  | 0, i => return .ok (none, i)
  | fuel + 1, i => do
    let line := i.ahead.takeWhile (· ≠ i.ending)
    match i.ahead.drop line.length with
    | _ :: rest => return .ok (some ⟨line, true⟩, { i with ahead := rest })
    | [] =>
      if i.ended then
        return .ok (if line.isEmpty then none else some ⟨line, false⟩, { i with ahead := [] })
      else
        Run.spend
        match ← Run.read i.fd Run.readSize with
        | .error e => return .error e
        | .ok bytes =>
          if bytes.isEmpty then next? fuel { i with ended := true }
          else next? fuel { i with ahead := line ++ Run.characters bytes }

/-- Goes through the lines of a file as long as the step says so. -/
def foldLines {σ : Type} (f : σ → Line → Run (σ × Bool)) :
    (fuel : Nat) → Input → σ → Run (Except Fault σ)
  | 0, _, state => return .ok state
  | fuel + 1, i, state => do
    match ← i.next? Run.mostRepeats with
    | .error e => return .error e
    | .ok (none, _) => return .ok state
    | .ok (some line, i) =>
      let (state, more) ← f state line
      if more then foldLines f fuel i state else return .ok state

/-- Goes through the lines of some files, complaining about those that cannot be read; tells whether
all could be. -/
def foldFiles {σ : Type} (say : String → Fault → String) (ending : Char)
    (f : σ → Line → Run (σ × Bool)) (paths : List String) (start : σ) : Run (σ × Bool) := do
  let mut state := start
  let mut good := true
  for path in inputs paths do
    match ← openInput path with
    | .error e =>
      warn (say path e)
      good := false
    | .ok fd =>
      match ← foldLines f Run.mostRepeats { fd, ending } state with
      | .ok next => state := next
      | .error e =>
        warn (say path e)
        good := false
      closeInput fd
  return (state, good)

/-- Performs something for each line of some files; tells whether all files could be read. -/
def forLines (say : String → Fault → String) (ending : Char) (f : Line → Run Unit)
    (paths : List String) : Run Bool := do
  let step (_ : Unit) (line : Line) : Run (Unit × Bool) := do
    f line
    return ((), true)
  return (← foldFiles say ending step paths ()).2

/-- The lines of all files; tells as well whether all could be read. -/
def allLines (say : String → Fault → String) (ending : Char) (paths : List String) :
    Run (List (List Char) × Bool) := do
  let step (seen : List (List Char)) (line : Line) : Run (List (List Char) × Bool) :=
    return (line.text :: seen, true)
  let (seen, good) ← foldFiles say ending step paths []
  return (seen.reverse, good)

/-- Copies bytes as they come, at most so many; tells whether there was a fault. -/
def copyBytes (fd : Nat) : (fuel : Nat) → (count : Option Nat) → Run (Except Fault Unit)
  | 0, _ => return .ok ()
  | _, some 0 => return .ok ()
  | fuel + 1, count => do
    Run.spend
    match ← Run.read fd (min Run.readSize (count.getD Run.readSize)) with
    | .error e => return .error e
    | .ok bytes =>
      if bytes.isEmpty then return .ok ()
      Run.putBytes bytes
      copyBytes fd fuel (count.map (· - bytes.size))

/-- The status of a tool, from whether everything went well. -/
def statusFor (good : Bool) : Nat := if good then 0 else 1

end Formulary.Host.Tool
