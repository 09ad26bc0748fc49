import Formulary.CommandLine.Commands
import Formulary.Machine.Host
import Std.Time.DateTime.Timestamp

/-!
# The program

Runs a command in a world that holds the host's own files and those the arguments name, says what
the command said, and puts on the disk what it made.
-/

namespace Formulary.Main

/-- The variables of the environment that a command looks at. -/
def variableNames : List String :=
  ["HOME", "PATH", "TMPDIR", "USER", "XDG_CACHE_HOME", Context.tapUserVariable]

def environment : IO Environment :=
  variableNames.filterMapM fun name => do return (← IO.getEnv name).map (name, ·)

/-- A place with the directories that lead to it. -/
def withDirectories (fs : Files) (place : Location) : Files :=
  (List.range place.length).foldl (fun fs n =>
    let dir := place.take (n + 1)
    if (fs.get? dir).isNone then fs.put dir .directory else fs) fs

/-- The files with one that an argument may name. -/
def withNamed (cwd : Path) (fs : Files) (arg : String) : IO Files := do
  match ← (IO.FS.readBinFile arg).toBaseIO with
  | .ok data =>
    let place := (cwd.join arg).parts
    return (withDirectories fs place.dropLast).put place (.ofData data.toList false)
  | .error _ => return fs

def world (args : List String) : IO World := do
  let cwd : Path := (← IO.currentDir).toString
  let files ← args.foldlM (withNamed cwd) (withDirectories Host.files cwd.parts)
  let now ← Std.Time.Timestamp.now
  return { files, cwd, env := ← environment, epoch := now.toSecondsSinceUnixEpoch.val }

def keep (place : Location) (node : Node) : IO Unit := do
  let p := (Path.ofParts true place).text
  match node with
  | .directory => IO.FS.createDirAll p
  | .file f =>
    let right (bits : Nat) : IO.AccessRight :=
      ⟨bits / 4 % 2 = 1, bits / 2 % 2 = 1, bits % 2 = 1⟩
    IO.FS.writeBinFile p ⟨f.data.toArray⟩
    IO.setAccessRights p ⟨right (f.mode / 64), right (f.mode / 8), right f.mode⟩
  | _ => return

/-- What a run made or changed. -/
def changes (before after : Files) : List (Location × Node) :=
  after.entries.filter fun (place, node) => before.get? place ≠ some node

end Formulary.Main

open Formulary in
def main (args : List String) : IO UInt32 := do
  let before ← Main.world args
  let ((code, said), after) := (CommandLine.run { launch := Host.launch } args).run before
  IO.print said.stdout
  IO.eprint said.stderr
  (Main.changes before.files after.files).forM fun (place, node) => Main.keep place node
  return code.toUInt32
