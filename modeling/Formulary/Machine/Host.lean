import Formulary.Machine.Host.Script.Programs
import Formulary.Machine.Host.Script.Schedule

/-!
# The host

A launcher for whole runs: the machine that the commands of a formula find themselves on, with the
files it comes with and how a command becomes a process. How far a process has come is seen in a run
of the program's image that is stopped at the time it is looked at, so looking later shows more of the
same.

Below it stand the language of the machine's scripts (`Host.Script`) and the machine's tools
(`Host.Tool`). They answer what an actual command line leaves behind, and are there to run the
program and to compare it with recorded runs. No other part of the model looks into them: fetching,
building, installing and testing take a `Launcher`, whatever it is, and what is proved of them is
proved for every launcher.
-/

namespace Formulary.Host

open Formulary.Host.Script

/-! ### The machine's own files -/

def directories : List Location :=
  [["dev"], ["dev", "fd"], ["etc"], ["home"], ["mnt"], ["opt"], ["proc"], ["proc", "self"],
    ["proc", "self", "fd"], ["root"], ["run"], ["srv"], ["sys"], ["tmp"], ["usr"], ["usr", "bin"],
    ["usr", "lib"], ["usr", "local"], ["usr", "local", "bin"], ["usr", "local", "sbin"],
    ["usr", "sbin"], ["usr", "share"], ["var"], ["var", "tmp"]]

def links : List (Location × String) :=
  [(["bin"], "usr/bin"), (["lib"], "usr/lib"), (["sbin"], "usr/sbin"),
    (["usr", "bin", "sh"], "dash")]

/-- What a process has open, by the numbers it has it under. -/
def descriptors : List (Location × Node) :=
  (List.range 10).flatMap fun fd =>
    [(["dev", "fd", toString fd], .opened fd), (["proc", "self", "fd", toString fd], .opened fd)]

def devices : List (Location × Node) :=
  [(["dev", "null"], .sink), (["dev", "zero"], .zeros), (["dev", "random"], .zeros),
    (["dev", "urandom"], .zeros), (["dev", "full"], .full), (["dev", "stdin"], .opened 0),
    (["dev", "stdout"], .opened 1), (["dev", "stderr"], .opened 2)]

def files : Files where
  entries :=
    directories.map (·, .directory) ++ links.map (fun (place, target) => (place, .link target)) ++
    devices ++ descriptors ++
    (Tool.Catalogue.names.filter (· ≠ "sh")).map fun name => (["usr", "bin", name], .program name)

/-! ### Starting programs -/

/-- Some text cannot be handed to a program. -/
def holdsNul (c : Command) : Bool :=
  let texts := [c.program] ++ c.args ++ c.env.map (fun entry => entry.1 ++ entry.2) ++
    (c.dir.map Path.text).toList
  texts.any fun s => s.toList.contains '\x00'

def startDirectory (c : Command) (site : Site) : Except Fault Location := do
  let here := site.cwd.parts
  match c.dir with
  | none => return here
  | some dir =>
    match ← site.files.find here dir with
    | (place, .directory) => return place
    | _ => throw .notDirectory

/-- The environment a command starts with, as texts of bytes. One that brings variables of its own
has them all in order. -/
def environmentOf (c : Command) (site : Site) : Environment :=
  let env := if c.env.isEmpty then site.env
    else (Environment.override site.env c.env).mergeSort fun a b => a.1 ≤ b.1
  env.map fun (key, value) => (Text.octets key, Text.octets value)

/-- What a command executes. The program is looked for where the machine's own environment says,
and only there a file without a first line is refused; a command that brings its own search path is
looked for along that, and such a file is taken for a script. -/
def imageOf (c : Command) (site : Site) (cwd : Location) : Except Fault Lookup.Image :=
  let argv := (c.program :: c.args).map Text.octets
  let name := Text.octets c.program
  let env := environmentOf c site
  let execute (path : String) := Lookup.image site.files cwd path argv env
  let executeOrScript (path : String) := Lookup.imageOrScript site.files cwd path argv env
  match c.env.lookup "PATH" with
  | some path =>
    if name.toList.contains '/' then Lookup.resolve execute path name
    else Lookup.resolve executeOrScript (Text.octets path) name
  | none =>
    Lookup.resolve execute (Text.octets ((site.env.lookup "PATH").getD Lookup.standardPath)) name

/-- How many steps a program performs at most. -/
def longestRun : Nat := 300000

/-- A moment that no program reaches. -/
def never : Moment := Nat.pow 10 18

def microseconds : Nat := 1000

/-- The number of the first process of a program. -/
def firstPid : Nat := 4000

/-- The first process of a program, which is in a group of its own. -/
def firstProcess (i : Lookup.Image) (cwd : Location) (env : Environment) : Local :=
  Run.programLocal i.argv env {
    pid := firstPid
    parent := 1
    group := firstPid
    mainPid := firstPid
    arg0 := ""
    cwd
    endpoints := [(0, .sink), (1, .captured 0), (2, .captured 1)] }

/-- A run of an image that has not begun. -/
def bustleOf (i : Lookup.Image) (own : Local) (files : Files) : Bustle where
  state := {
    files
    horizon := never
    budget := longestRun
    own := nobody
    others := [own]
    births := [{ own, work := .program i, moment := Run.loadTime : Birth }] }
  waiting := []

/-- A run goes on up to a moment, or until something has come about. -/
def goOn (limit : Moment) (enough : Bustle → Bool) (b : Bustle) : Bustle :=
  b.goOn Programs.begins limit enough Bustle.mostTurns

/-- What a run has left once all of its first group have been ended and nobody is heard any more. -/
def progressOf (b : Bustle) : Progress :=
  let s := (goOn never Bustle.isSilent (b.dismiss firstPid)).state
  { stdout := (s.captured.getD 0 .empty).toList
    stderr := (s.captured.getD 1 .empty).toList
    files := s.files }

/-- The process of an image. After no time at all it has done nothing. -/
def processOf (i : Lookup.Image) (own : Local) (files : Files) : Process :=
  let start := bustleOf i own files
  let final := goOn never (fun b => b.ended.isSome) start
  let ending := final.ended.map fun (moment, status) => (moment / microseconds, .ok status)
  { ending
    after := fun time =>
      if time = 0 then { files }
      else
        let seen := if ending.any fun e => e.1 < time then final else start
        progressOf (goOn (time * microseconds) (fun _ => false) seen) }

/-- Starts programs on this host. -/
def launch : Launcher := fun c site => do
  if holdsNul c then throw .nulInArgument
  let cwd ← startDirectory c site
  let i ← imageOf c site cwd
  return processOf i (firstProcess i cwd (environmentOf c site)) site.files

end Formulary.Host
