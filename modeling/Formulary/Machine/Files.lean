import Formulary.Machine.Fault
import Formulary.Path
import Formulary.Text.Utf8

/-!
# The file system

A file system is a finite map from locations to nodes; a location is the list of names that lead
there from the root, which is always a directory. Paths are walked name by name, `.` and `..`
included, and every name but the last must lead to a directory, by itself or through links.
-/

namespace Formulary

/-- A place in the file system: the names that lead there from the root. -/
abbrev Location := List String

/-- A file: its bytes and what is noted about it. -/
structure File where
  data : Bytes := []
  /-- What may be done with it, as bits. -/
  mode : Nat := 0o644
  /-- Places whose files have the same number hold one and the same file, unless it is zero. -/
  serial : Nat := 0
  /-- When it was changed, counted in changes of the file system. -/
  changed : Nat := 0
  deriving DecidableEq, Inhabited

/-- What is at a place. -/
inductive Node where
  | directory
  | file (f : File)
  /-- A path that stands for what it leads to. -/
  | link (target : String)
  /-- A program of the machine itself. -/
  | program (name : String)
  /-- The device that swallows everything and holds nothing. -/
  | sink
  /-- The device that holds zero bytes without end. -/
  | zeros
  /-- The device that has no room for anything. -/
  | full
  /-- What a program has open under a number. -/
  | opened (fd : Nat)
  /-- A stream that one program writes to and another one reads from. -/
  | channel (serial : Nat)
  deriving DecidableEq, Inhabited

def File.isExecutable (f : File) : Bool :=
  f.mode % 2 = 1 || f.mode / 8 % 2 = 1 || f.mode / 64 % 2 = 1

namespace Node

/-- A new file, as it is given to a run. -/
def ofData (data : Bytes) (executable : Bool) : Node :=
  file { data, mode := if executable then 0o755 else 0o644 }

def isDirectory : Node → Bool
  | directory => true
  | _ => false

/-- The node can be removed with everything below it. A link has nothing below it. -/
def isTree : Node → Bool
  | directory | link _ => true
  | _ => false

/-- The node is a file like any other. -/
def isRegular : Node → Bool
  | file _ | program _ => true
  | _ => false

def isExecutable : Node → Bool
  | file f => f.isExecutable
  | program _ => true
  | _ => false

/-- The bytes that reading the node from its start gives. -/
def contents : Node → Bytes
  | file f => f.data
  | _ => []

end Node

/-- A file system: places with their nodes. Of two entries for one place the first counts. -/
structure Files where
  entries : List (Location × Node) := []
  /-- How many changes there have been, which also numbers files. -/
  turn : Nat := 1
  deriving DecidableEq, Inhabited

namespace Files

/-! ### Places -/

def get? (fs : Files) : Location → Option Node
  | [] => some .directory
  | l => fs.entries.lookup l

/-- Entries with a node put at a place, where the place had one before if it had. -/
def putEntry (l : Location) (node : Node) : List (Location × Node) → List (Location × Node)
  | [] => [(l, node)]
  | entry :: rest => if entry.1 = l then (l, node) :: rest else entry :: putEntry l node rest

def put (fs : Files) (l : Location) (node : Node) : Files :=
  { fs with entries := putEntry l node fs.entries }

/-- The file system without what is at a place and below it. -/
def remove (fs : Files) (l : Location) : Files :=
  { fs with entries := fs.entries.filter fun entry => !l.isPrefixOf entry.1 }

/-- What is at a place and below it, put at another place. -/
def moveTree (fs : Files) (source target : Location) : Files :=
  { fs with entries := (fs.remove target).entries.map fun (l, node) =>
      if source.isPrefixOf l then (target ++ l.drop source.length, node) else (l, node) }

/-- The names directly below a place, with their nodes, in the order they were put there. -/
def children (fs : Files) (l : Location) : List (String × Node) :=
  fs.entries.filterMap fun (place, node) =>
    match place.getLast? with
    | some name => if place.dropLast = l then some (name, node) else none
    | none => none

/-! ### One file at several places -/

/-- Two files are the same file: they have the same number. -/
def isSame (f g : File) : Bool := f.serial ≠ 0 && f.serial = g.serial

/-- The file system with a file at a place put anew, there and wherever else the same file is. -/
def putFile (fs : Files) (l : Location) (f : File) : Files :=
  { fs.put l (.file f) with
    entries := (fs.put l (.file f)).entries.map fun (place, node) =>
      match node with
      | .file g => (place, if isSame f g then .file f else node)
      | _ => (place, node) }

/-- The file system with a file changed, which is noted. -/
def change (fs : Files) (l : Location) (f : File) : Files :=
  { fs.putFile l { f with changed := fs.turn } with turn := fs.turn + 1 }

/-- The file system with a number for the file at a place, if it had none, and that number. -/
def numbered (fs : Files) (l : Location) : Nat × Files :=
  match fs.get? l with
  | some (.file f) =>
    if f.serial ≠ 0 then (f.serial, fs)
    else (fs.turn, { fs.put l (.file { f with serial := fs.turn }) with turn := fs.turn + 1 })
  | _ => (0, fs)

/-- A place of the file of a number. -/
def placeOf? (fs : Files) (serial : Nat) : Option (Location × File) :=
  fs.entries.findSome? fun (l, node) =>
    match node with
    | .file f => if f.serial = serial then some (l, f) else none
    | _ => none

/-! ### Paths -/

def longestName : Nat := 255

def longestPath : Nat := 4095

/-- The most links on the way of a path. -/
def mostLinks : Nat := 40

/-- The place a name leads to from a directory, which may be empty. -/
def step (l : Location) (name : String) : Except Fault Location :=
  if name = "." then .ok l
  else if name = ".." then .ok l.dropLast
  else if longestName < name.utf8ByteSize then .error .nameTooLong
  else .ok (l ++ [name])

/-- The names of a path. A slash at the end names the directory itself. -/
def namesOf (p : Path) : List String :=
  let names := p.rawParts.filter (· ≠ "")
  if p.text.toList.getLast? = some '/' && !names.isEmpty then names ++ ["."] else names

/-- The place a list of names leads to, where `through` says where names lead behind a link. All
but the last must lead to a directory; a link at the end stays unless it is to be followed. -/
def walkFrom (fs : Files) (follow : Bool) (through : Location → List String → Except Fault Location)
    (l : Location) : List String → Except Fault Location
  | [] => .ok l
  | name :: rest => do
    let next ← step l name
    match fs.get? next with
    | some (.link target) =>
      if rest.isEmpty && !follow then return next
      let p : Path := ⟨target⟩
      through (if p.isAbsolute then [] else l) (namesOf p ++ rest)
    | some .directory => walkFrom fs follow through next rest
    | some _ => if rest.isEmpty then return next else throw .notDirectory
    | none => if rest.isEmpty then return next else throw .noEntry

/-- The place a list of names leads to by way of at most so many links. -/
def walk (fs : Files) (follow : Bool) : (links : Nat) → Location → List String →
    Except Fault Location
  | 0, l, names => walkFrom fs follow (fun _ _ => .error .tooManyLinks) l names
  | links + 1, l, names => walkFrom fs follow (walk fs follow links) l names

/-- The path is one the system can look at. -/
def checkPath (p : Path) : Except Fault Unit :=
  if p.text.toList.contains '\x00' then .error .nulInPath
  else if p.text.isEmpty then .error .noEntry
  else if longestPath < p.text.utf8ByteSize then .error .nameTooLong
  else .ok ()

/-- Where a path starts. A relative one starts nowhere when its directory is gone. -/
def start (fs : Files) (cwd : Location) (p : Path) : Except Fault Location :=
  if p.isAbsolute then .ok []
  else if fs.get? cwd = some .directory then .ok cwd
  else .error .noEntry

/-- The place a path leads to from a directory. There may be nothing at it. -/
def locate (fs : Files) (cwd : Location) (p : Path) : Except Fault Location := do
  checkPath p
  fs.walk true mostLinks (← fs.start cwd p) (namesOf p)

/-- The place a path names: a link at its end is not followed. -/
def locateHere (fs : Files) (cwd : Location) (p : Path) : Except Fault Location := do
  checkPath p
  fs.walk false mostLinks (← fs.start cwd p) (namesOf p)

/-- The place a path names, where a slash at the end says nothing: for making directories. -/
def locateNew (fs : Files) (cwd : Location) (p : Path) : Except Fault Location := do
  checkPath p
  fs.walk false mostLinks (← fs.start cwd p) (p.rawParts.filter (· ≠ ""))

def present (fs : Files) (l : Location) : Except Fault (Location × Node) :=
  match fs.get? l with
  | some node => .ok (l, node)
  | none => .error .noEntry

def find (fs : Files) (cwd : Location) (p : Path) : Except Fault (Location × Node) := do
  fs.present (← fs.locate cwd p)

/-- The node a path names, with its place, which may be a link. -/
def findHere (fs : Files) (cwd : Location) (p : Path) : Except Fault (Location × Node) := do
  fs.present (← fs.locateHere cwd p)

/-! ### Operations -/

def makeDirectory (fs : Files) (cwd : Location) (p : Path) : Except Fault Files := do
  let l ← fs.locateNew cwd p
  match fs.get? l with
  | some _ => throw .exists
  | none => return fs.put l .directory

/-- Makes a link, a channel or the like at a path where there is nothing. -/
def makeNode (fs : Files) (cwd : Location) (p : Path) (node : Node) : Except Fault Files := do
  let l ← fs.locateHere cwd p
  match fs.get? l with
  | some _ => throw .exists
  | none => return fs.put l node

/-- Gives a file one more place. -/
def makeName (fs : Files) (cwd : Location) (source : Location) (p : Path) : Except Fault Files := do
  let l ← fs.locateHere cwd p
  let (_, fs) := fs.numbered source
  match fs.get? source, fs.get? l with
  | some .directory, _ => throw .notPermitted
  | some node, none => return fs.put l node
  | some _, some _ => throw .exists
  | none, _ => throw .noEntry

/-- Opens a file for writing: its place, and the file system with the file there, empty if it is
new or is to be emptied. -/
def openForWriting (fs : Files) (cwd : Location) (p : Path) (keep : Bool) :
    Except Fault (Location × Files) := do
  match fs.locate cwd p with
  | .error e =>
    -- a new name with a slash at its end is taken for a directory
    match p.text.toList.getLast?, e with
    | some '/', .noEntry =>
      let l ← fs.locateNew cwd p
      if (fs.get? l).isNone then throw .isDirectory else throw e
    | _, _ => throw e
  | .ok l =>
    match fs.get? l with
    | none => return (l, fs.change l {})
    | some .directory => throw .isDirectory
    | some (.file f) => return (l, if keep then fs else fs.change l { f with data := [] })
    | some _ => return (l, fs)

/-- Adds bytes at the end of the file at a place. -/
def append (fs : Files) (l : Location) (bytes : Bytes) : Files :=
  match fs.get? l with
  | some (.file f) => fs.change l { f with data := f.data ++ bytes }
  | _ => fs

/-- Writes a file, whatever it held. The device that has no room takes not a single byte. -/
def write (fs : Files) (cwd : Location) (p : Path) (bytes : Bytes) : Except Fault Files := do
  let (l, fs) ← fs.openForWriting cwd p false
  if fs.get? l = some .full && !bytes.isEmpty then throw .noSpace
  return fs.append l bytes

def read (fs : Files) (cwd : Location) (p : Path) : Except Fault Bytes := do
  match (← fs.find cwd p).2 with
  | .directory => throw .isDirectory
  | node => return node.contents

def removeFile (fs : Files) (cwd : Location) (p : Path) : Except Fault Files := do
  let (l, node) ← fs.findHere cwd p
  if node.isDirectory then throw .isDirectory
  return fs.remove l

/-- Removes a directory and everything in it, or a link. -/
def removeTree (fs : Files) (cwd : Location) (p : Path) : Except Fault Files := do
  let (l, node) ← fs.findHere cwd p
  if node.isTree then return fs.remove l else throw .notDirectory

/-- Gives what a path names another path, in place of what is there. Two names of one file stay. -/
def rename (fs : Files) (cwd : Location) (source target : Path) : Except Fault Files := do
  let (l, node) ← fs.findHere cwd source
  let t ← if node.isDirectory then fs.locateNew cwd target else fs.locateHere cwd target
  if t = l then return fs
  if node.isDirectory && l.isPrefixOf t then throw .invalid
  match fs.get? t, node with
  | none, _ => pure ()
  | some .directory, _ =>
    if !node.isDirectory then throw .isDirectory
    if !(fs.children t).isEmpty then throw .notEmpty
  | some (.file g), .file f => if isSame f g then return fs
  | some _, _ => if node.isDirectory then throw .notDirectory
  return fs.moveTree l t

def list (fs : Files) (cwd : Location) (p : Path) : Except Fault (List (String × Node)) := do
  let (l, node) ← fs.find cwd p
  if node.isDirectory then return fs.children l else throw .notDirectory

def exists? (fs : Files) (cwd : Location) (p : Path) : Bool := (fs.find cwd p).isOk

def isDirectory (fs : Files) (cwd : Location) (p : Path) : Bool :=
  match fs.find cwd p with
  | .ok (_, node) => node.isDirectory
  | .error _ => false

def isFile (fs : Files) (cwd : Location) (p : Path) : Bool :=
  match fs.find cwd p with
  | .ok (_, node) => node.isRegular
  | .error _ => false

end Files

end Formulary
