import Formulary.Machine.Process
import Formulary.Text.Octets

/-!
# Finding programs

Where a program's name leads, and what a file that is executed turns out to be: a program of the
machine itself, or a script, which its first line hands to another program. Names and arguments are
texts of bytes.
-/

namespace Formulary.Lookup

def directories (path : String) : List String := (Text.splitAt ':' path.toList).map String.ofList

/-- Where programs are looked for if the environment does not say. -/
def standardPath : String := "/bin:/usr/bin"

/-- A name in a directory; an empty directory is the present one. -/
def inDirectory (dir name : String) : String := if dir.isEmpty then name else dir ++ "/" ++ name

/-- There is a file at a path that may be executed. -/
def runs (fs : Files) (cwd : Location) (p : Path) : Bool :=
  match fs.find cwd p with
  | .ok (_, node) => node.isRegular && node.isExecutable
  | .error _ => false

/-- The home directory in the user's own entry, if there is one. -/
def entryHome? : Option Path := some "/root"

/-- The home directory: the one that the environment says, or else the one in the user's entry. -/
def home? (env : Environment) : Option Path :=
  (((env.lookup "HOME").filter fun dir => !dir.isEmpty).map Path.mk).or entryHome?

/-- A directory programs are looked for in, where a first part `~` is the home directory. -/
def expandHome (env : Environment) (dir : Path) : Path :=
  match dir.isAbsolute || dir.startsWithDot, dir.parts, home? env with
  | false, "~" :: rest, some home => rest.foldl Path.join home
  | _, _, _ => dir

/-- The program whose file may be executed under a name, if any. A name of several parts is a path
of its own, taken part by part if it is relative. -/
def which? (fs : Files) (cwd : Location) (env : Environment) (name : String) : Option Path :=
  let p : Path := ⟨name⟩
  let count := p.parts.length + (if p.isAbsolute || p.startsWithDot then 1 else 0)
  if name.isEmpty then none
  else if 1 < count then
    let own := if p.isAbsolute then p else Path.ofParts true (cwd ++ p.parts)
    if runs fs cwd own then some own else none
  else
    match env.lookup "PATH" with
    | some path =>
      ((directories path).map fun dir => (expandHome env ⟨dir⟩).join name).find? (runs fs cwd)
    | none => none

/-- What executing a file comes to: a program of the machine with all its arguments, the first of
which is the name it runs under. -/
structure Image where
  program : String
  argv : List String

/-- A blank between the parts of a script's first line. -/
def isBlank (c : Char) : Bool := c = ' ' || c = '\t'

/-- How many bytes of a script are looked at to find out what it is written for. -/
def firstBytes : Nat := 256

/-- The program a script is written for, and the argument it asks for. Behind the last byte there
are zero bytes, which end a name like a blank. A first line without an end must have something
behind its first name. -/
def interpreter? (data : Bytes) : Option (String × List String) :=
  let seen := Text.ofBytes (data.take firstBytes)
  let seen := seen ++ List.replicate (firstBytes - seen.length) (Char.ofNat 0)
  let isEnd (c : Char) : Bool := isBlank c || c.toNat = 0
  match seen with
  | '#' :: '!' :: rest =>
    let text := rest.takeWhile (· ≠ '\n')
    let closed := text.length < rest.length && !(text.any fun c => c.toNat = 0)
    let start := (if closed then text else rest.dropLast).dropWhile isBlank
    let line := (start.reverse.dropWhile isBlank).reverse
    let name := line.takeWhile fun c => !isEnd c
    let behind := line.drop name.length
    let arg := match behind with
      | c :: _ => if isBlank c then
          (behind.dropWhile isBlank).takeWhile fun c => c.toNat ≠ 0
        else []
      | [] => []
    if closed && name.isEmpty || !closed && !((rest.dropWhile isBlank).any isEnd) then none
    else some (String.ofList name, if arg.isEmpty then [] else [String.ofList arg])
  | _ => none

/-- How many files one execution may come upon: scripts that are written for one another, and the
program at their end. -/
def deepestScript : Nat := 6

/-- The most bytes of an argument, with the one that closes it. -/
def longestArgument : Nat := 131072

/-- The most bytes of all that is handed to a program. -/
def mostHanded : Nat := 2097152

/-- There is no room for what is handed to a program. -/
def isTooLong (texts : List String) : Bool :=
  texts.any (fun s => longestArgument ≤ s.length) ||
    mostHanded < texts.foldl (fun n s => n + s.length + 9) 0

/-- What executing the file at a path comes to. -/
def imageOf (fs : Files) (cwd : Location) : Nat → String → List String → Except Fault Image
  | 0, _, _ => .error .tooManyLinks
  | fuel + 1, path, argv => do
    if path.isEmpty then throw .denied
    match (← fs.find cwd ⟨Text.ofOctets path⟩).2 with
    | .program name => return ⟨name, argv⟩
    | .file f =>
      if !f.isExecutable then throw .denied
      match interpreter? f.data with
      | some (name, arg) => imageOf fs cwd fuel name ([name] ++ arg ++ [path] ++ argv.drop 1)
      | none => throw .execFormat
    | _ => throw .denied

/-- What executing the file at a path with arguments and an environment comes to. -/
def image (fs : Files) (cwd : Location) (path : String) (argv : List String) (env : Environment) :
    Except Fault Image := do
  let _ ← if path.isEmpty then throw .noEntry else fs.find cwd ⟨Text.ofOctets path⟩
  if isTooLong (argv ++ env.map fun (key, value) => key ++ "=" ++ value) then
    throw .argumentsTooLong
  imageOf fs cwd deepestScript path argv

/-- What executing a file comes to when whoever asks takes a file without a first line for a script
of the shell. -/
def imageOrScript (fs : Files) (cwd : Location) (path : String) (argv : List String)
    (env : Environment) : Except Fault Image :=
  match image fs cwd path argv env with
  | .error .execFormat => .ok ⟨"sh", ["/bin/sh", path] ++ argv.drop 1⟩
  | result => result

/-- The first of some paths that can be executed. One that must not be executed is passed over, but
it decides what is said if there is no other. -/
def firstImage (execute : String → Except Fault Image) : Bool → List String → Except Fault Image
  | denied, [] => .error (if denied then .denied else .noEntry)
  | denied, path :: rest =>
    match execute path with
    | .ok i => .ok i
    | .error .denied => firstImage execute true rest
    | .error .noEntry | .error .notDirectory => firstImage execute denied rest
    | .error e => .error e

/-- What running a program by its name comes to: the file itself if the name has a slash, else the
first one in the directories of `path`. -/
def resolve (execute : String → Except Fault Image) (path name : String) : Except Fault Image :=
  if name.isEmpty then .error .noEntry
  else if name.toList.contains '/' then execute name
  else if Files.longestName < name.length then .error .nameTooLong
  else firstImage execute false ((directories path).map (inDirectory · name))

end Formulary.Lookup
