import Formulary.Machine.Lookup
import Formulary.Machine.Host.Script.Syntax

/-!
# Scripts: the state of a run

A run of a program may start further processes. All of them share the files, the streams between
them and the time; each has variables, a directory and open descriptors of its own. Every text is
one of bytes.
-/

namespace Formulary.Host.Script

/-- A moment of a run, in microseconds since its start. -/
abbrev Moment := Nat

/-! ### What processes share -/

/-- A stream between processes. -/
structure Pipe where
  bytes : ByteArray := .empty
  /-- How many of the bytes have been read. -/
  position : Nat := 0
  /-- How often it was opened for reading by name. -/
  readers : Nat := 0
  /-- How often it was opened for writing by name. -/
  writers : Nat := 0

namespace Pipe

/-- How many bytes a stream holds before it must be read. -/
def capacity : Nat := 65536

def waiting (p : Pipe) : Nat := p.bytes.size - p.position

end Pipe

/-- A file that was opened: every process that got it from there goes on at the same offset. -/
structure OpenFile where
  /-- Where it was found. -/
  place : Location
  /-- The number of the file. -/
  serial : Nat
  offset : Nat := 0
  /-- Everything is written at the end. -/
  appends : Bool := false
  reads : Bool := false
  writes : Bool := false

/-- The bytes of a file as they were at a change of it. -/
structure Body where
  bytes : ByteArray
  changed : Nat
  /-- The file has no place any more. -/
  alone : Bool := false

/-- What a descriptor is connected to. -/
inductive Endpoint where
  /-- What is collected from the run: its results, or its complaints. -/
  | captured (index : Nat)
  | writeEnd (pipe : Nat)
  | readEnd (pipe : Nat)
  /-- Both ends of a stream with a name. -/
  | bothEnds (pipe : Nat)
  | file (index : Nat)
  /-- A directory, which can be opened but not read. -/
  | folder (place : Location)
  /-- The device that swallows everything. -/
  | sink
  /-- The device that holds zero bytes without end. -/
  | zeros
  /-- The device that has no room for anything. -/
  | full
  deriving DecidableEq

/-- Who has the first endpoint has the second one as well. -/
def Endpoint.includes (a b : Endpoint) : Bool :=
  a = b || match a, b with
    | .bothEnds p, .readEnd q | .bothEnds p, .writeEnd q => p = q
    | _, _ => false

/-! ### What belongs to one process -/

/-- A variable. -/
structure Variable where
  name : String
  value : Option String
  exported : Bool := false
  /-- The value stays as it is. -/
  fixed : Bool := false

/-- The options of a shell that are set. -/
structure Settings where
  /-- A failing command ends the script. -/
  stopAtFailure : Bool := false
  /-- A missing variable is an error. -/
  strictVariables : Bool := false
  /-- Commands are shown before they are performed. -/
  tracing : Bool := false
  /-- Lines are shown when they are read. -/
  echoing : Bool := false
  /-- Patterns are not replaced by the paths they match. -/
  plainPatterns : Bool := false
  /-- Commands are read but not performed. -/
  readsOnly : Bool := false
  /-- Files that are there are not emptied. -/
  keepsFiles : Bool := false
  /-- Variables that get a value are handed to programs. -/
  exportsAll : Bool := false
  /-- The other options that are set, by their letters; they change nothing. -/
  others : List Char := []

/-- A command that was not waited for. -/
structure Job where
  /-- Its processes, in the order of its stages. -/
  pids : List Nat
  /-- How those ended that have. -/
  ended : List (Nat × ExitStatus) := []
  /-- Somebody has asked for its status. -/
  asked : Bool := false

/-- How a job ended: as its last process did. -/
def Job.status? (j : Job) : Option ExitStatus := j.pids.getLast?.bind fun pid => j.ended.lookup pid

def Job.isOver (j : Job) : Bool := j.pids.all fun pid => (j.ended.lookup pid).isSome

/-- How many steps a process performs before it has been busy for long. -/
def longestBurst : Nat := 100000

/-- What belongs to one process. -/
structure Local where
  pid : Nat
  /-- The process that started it. -/
  parent : Nat
  /-- The processes that are ended together have the same group. -/
  group : Nat
  /-- What a script calls its own process. -/
  mainPid : Nat
  /-- The name it runs under. -/
  arg0 : String
  params : List String := []
  vars : List Variable := []
  functions : List (String × Command) := []
  aliases : List (String × String) := []
  cwd : Location := []
  /-- The way the shell came to its directory. -/
  way : String := ""
  endpoints : List (Nat × Endpoint) := []
  /-- Endpoints that are kept open while others are in their place. -/
  kept : List (List (Nat × Endpoint)) := []
  /-- The rights that new files do not get, as bits. -/
  mask : Nat := 0o022
  /-- What has been put out but not been written yet. -/
  pending : ByteArray := .empty
  /-- Output is not held back. -/
  immediate : Bool := false
  /-- Why output could not be written. -/
  unwritten : Option Fault := none
  status : Nat := 0
  /-- The status of the last command that stood in a word. -/
  innerStatus : Nat := 0
  line : Nat := 1
  /-- The programs that have been run by their names. -/
  known : List String := []
  /-- What the shell calls itself by in complaints besides its name. -/
  role : String := ""
  /-- What is done at signals, and at the end. An empty text ignores a signal. -/
  traps : List (Option Signal × String) := []
  /-- Signals that are ignored whatever is said about them. -/
  ignored : List Signal := []
  /-- While something is done at a signal or at the end, the status from before. -/
  statusBefore : Option Nat := none
  /-- The commands that were not waited for; the last one comes first. -/
  jobs : List Job := []
  /-- The last process that was not waited for. -/
  lastJob : Option Nat := none
  /-- What the process may use of some things, by their letters. -/
  limits : List (Char × String) := []
  settings : Settings := {}
  /-- How far the parameters have been read for options: the word, and the letter in it. -/
  optionsRead : Nat × Nat := (1, 0)
  /-- Loops around the present command. -/
  loops : Nat := 0
  /-- Functions around the present command. -/
  calls : Nat := 0
  /-- How many more steps the process performs before it has to rest. -/
  burst : Nat := longestBurst
  /-- Whether failures count at present. -/
  testing : Bool := false
  /-- Values to restore at the end of the present function. -/
  saved : List Variable := []

namespace Local

/-- The process with a descriptor connected to something else, or closed. -/
def connect (l : Local) (fd : Nat) (endpoint : Option Endpoint) : Local :=
  let others := l.endpoints.filter fun p => p.1 ≠ fd
  { l with endpoints := match endpoint with
      | some endpoint => (fd, endpoint) :: others
      | none => others }

def holds (l : Local) (e : Endpoint) : Bool :=
  l.endpoints.any (fun p => p.2.includes e) ||
    l.kept.any fun table => table.any fun p => p.2.includes e

/-- The process keeps one of the streams open that are collected. -/
def isHeard (l : Local) : Bool :=
  let heard (p : Nat × Endpoint) : Bool := match p.2 with
    | .captured _ => true
    | _ => false
  l.endpoints.any heard || l.kept.any fun table => table.any heard

/-- What the process does at a signal, if it does something. -/
def trapFor? (l : Local) (signal : Signal) : Option String :=
  match l.traps.lookup (some signal) with
  | some text => if text.isEmpty || l.ignored.contains signal then none else some text
  | none => none

/-- The process takes no notice of a signal. -/
def ignores (l : Local) (signal : Signal) : Bool :=
  !signal.isStrict && (l.ignored.contains signal || l.traps.lookup (some signal) = some "" ||
    (signal.effect = .nothing && (l.trapFor? signal).isNone))

def effectOf (l : Local) (signal : Signal) : Signal.Effect :=
  if signal.isStrict then signal.effect
  else if l.ignores signal || (l.trapFor? signal).isSome then .nothing
  else signal.effect

end Local

/-! ### Processes to come and processes that wait -/

/-- What a new process does. -/
inductive Work where
  /-- It performs a command of the script that started it as the last thing it does; descriptors
  are redirected before. -/
  | command (body : Command) (redirections : List (Redirection × String))
  /-- It runs a program. -/
  | program (image : Lookup.Image)

/-- A process that has been started and has not begun. -/
structure Birth where
  own : Local
  work : Work
  /-- When it begins. -/
  moment : Moment

/-- What a process waits for. -/
inductive Wake where
  /-- A moment. -/
  | at (moment : Moment)
  /-- A stream has something to read, or nobody writes to it any more. -/
  | readable (pipe : Nat)
  /-- A stream has room, or nobody reads it any more. -/
  | writable (pipe : Nat)
  /-- A stream was opened by name for reading more often than that. -/
  | readers (pipe count : Nat)
  /-- A stream was opened by name for writing more often than that. -/
  | writers (pipe count : Nat)
  /-- One of some processes has ended. -/
  | ended (pids : List Nat)
  /-- A signal has come for which there is something to do. -/
  | signal
  /-- One thing or the other. -/
  | either (first second : Wake)
  /-- Nothing. -/
  | never

/-! ### The whole -/

/-- A process that has ended and that its parent has not asked about. -/
structure Ending where
  pid : Nat
  parent : Nat
  status : ExitStatus

/-- The state of a run. -/
structure State where
  files : Files
  /-- What is collected from the run: its results and its complaints. -/
  captured : Array ByteArray := #[.empty, .empty]
  pipes : Array Pipe := #[]
  opened : Array OpenFile := #[]
  /-- The bytes of files that were read or written piece by piece, by their numbers. -/
  bodies : List (Nat × Body) := []
  /-- The streams with names, by the numbers of their nodes. -/
  channels : List (Nat × Nat) := []
  clock : Moment := 0
  /-- When somebody else is due. -/
  horizon : Moment
  /-- How many more steps may be performed. -/
  budget : Nat
  nextPid : Nat := 4100
  /-- The process that is at work. -/
  own : Local
  /-- The processes that are not. -/
  others : List Local := []
  births : List Birth := []
  /-- Signals that have come and have not had their effect, oldest first. -/
  signals : List (Nat × Signal) := []
  /-- Processes that are stopped. -/
  stopped : List Nat := []
  endings : List Ending := []

namespace State

def processes (s : State) : List Local := s.own :: s.others

def isHeld (s : State) (e : Endpoint) : Bool := s.processes.any fun l => l.holds e

/-- A stream has something to read, or nobody writes to it any more. -/
def isReadable (s : State) (pipe : Nat) : Bool :=
  match s.pipes[pipe]? with
  | some p => 0 < p.waiting || !s.isHeld (.writeEnd pipe)
  | none => true

/-- A stream has room, or nobody reads it any more. -/
def isWritable (s : State) (pipe : Nat) : Bool :=
  match s.pipes[pipe]? with
  | some p => p.waiting < Pipe.capacity || !s.isHeld (.readEnd pipe)
  | none => true

/-- A process has ended, and its parent has not asked about it. -/
def hasEnded (s : State) (pid : Nat) : Bool := s.endings.any fun e => e.pid = pid

def rouse (s : State) (delay : Nat) : State :=
  { s with horizon := min s.horizon (s.clock + delay) }

end State

/-- Why a process leaves its course. -/
inductive Exit where
  /-- It ends. -/
  | leave (status : Nat)
  /-- There is a fault in what the shell was told, which ends it where nothing else is said. -/
  | fails (status : Nat)
  /-- It is ended by a signal. -/
  | killed (signal : Signal)
  /-- It becomes another program. -/
  | becomes (image : Lookup.Image)
  | breakLoop (levels : Nat)
  | continueLoop (levels : Nat)
  | returnFrom (status : Nat)

end Formulary.Host.Script
