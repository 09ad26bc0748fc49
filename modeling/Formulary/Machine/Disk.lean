import Formulary.Machine.World

/-!
# Work on the disk

The operations on files a run performs, as actions on the world.
-/

namespace Formulary.Disk

def makeDirectory (p : Path) : Act (Except Fault Unit) :=
  Act.change fun fs cwd => fs.makeDirectory cwd p

def exists? (p : Path) : Act Bool := Act.ask fun fs cwd => fs.exists? cwd p

def isDirectory (p : Path) : Act Bool := Act.ask fun fs cwd => fs.isDirectory cwd p

def isFile (p : Path) : Act Bool := Act.ask fun fs cwd => fs.isFile cwd p

def read (p : Path) : Act (Except Fault Bytes) := Act.ask fun fs cwd => fs.read cwd p

def list (p : Path) : Act (Except Fault (List (String × Node))) :=
  Act.ask fun fs cwd => fs.list cwd p

def write (p : Path) (bytes : Bytes) : Act (Except Fault Unit) :=
  Act.change fun fs cwd => fs.write cwd p bytes

def removeFile (p : Path) : Act (Except Fault Unit) := Act.change fun fs cwd => fs.removeFile cwd p

def removeTree (p : Path) : Act (Except Fault Unit) := Act.change fun fs cwd => fs.removeTree cwd p

/-- Gives what is at a path another path. -/
def rename (source target : Path) : Act (Except Fault Unit) :=
  Act.change fun fs cwd => fs.rename cwd source target

/-! ### Directories with all that lead to them -/

/-- A fault does not matter if there is a directory all the same. -/
def orThere (p : Path) (result : Except Fault Unit) : Act (Except Fault Unit) := do
  match result with
  | .ok _ => return .ok ()
  | .error e => return if ← isDirectory p then .ok () else .error e

/-- Makes a directory and, where they are missing, those that lead to it; `depth` bounds their
number. -/
def makeAllDown : (depth : Nat) → Path → Act (Except Fault Unit)
  | depth, p => do
    if p.text.isEmpty then return .ok ()
    match ← makeDirectory p with
    | .error .noEntry =>
      match depth, p.parent? with
      | depth + 1, some parent =>
        match ← makeAllDown depth parent with
        | .error e => return .error e
        | .ok _ => orThere p (← makeDirectory p)
      | _, _ => return .error .wholeTree
    | result => orThere p result

/-- Makes a directory and, where they are missing, those that lead to it. -/
def makeAll (p : Path) : Act (Except Fault Unit) := makeAllDown (p.parts.length + 1) p

/-! ### Temporary directories -/

/-- The characters temporary names are made of. -/
def nameCharacters : List Char :=
  "0123456789ABCDEFGHIJKLMNOPQRSTUVWXYZabcdefghijklmnopqrstuvwxyz".toList

/-- The last six characters of a temporary name, from its number. -/
def nameTail (n : Nat) : String :=
  let base := nameCharacters.length
  String.ofList ((List.range 6).reverse.map fun i =>
    nameCharacters[n / Nat.pow base i % base]?.getD '0')

def mostNames : Nat := 65536

/-- Makes a directory of a name that is not taken yet. -/
def makeFresh (label : String) (dir : Path) : (tries : Nat) → Act (Except Fault Path)
  | 0 => return .error (.located .exists dir.text)
  | tries + 1 => do
    let ticket ← modifyGet fun w => (w.tickets, { w with tickets := w.tickets + 1 })
    let p := dir.join (label ++ nameTail ticket)
    match ← makeDirectory p with
    | .ok _ => return .ok p
    | .error .exists => makeFresh label dir tries
    | .error e => return .error (.located e p.text)

def temporaryDir (env : Environment) : Path := ⟨(env.lookup "TMPDIR").getD "/tmp"⟩

/-- Makes a temporary directory. -/
def makeTemporary (label : String) : Act (Except Fault Path) := do
  let w ← get
  let dir := temporaryDir w.env
  makeFresh label (if dir.isAbsolute then dir else w.cwd.join dir.text) mostNames

end Formulary.Disk
