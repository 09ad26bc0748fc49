import Formulary.Checksum
import Formulary.Machine.Disk

/-!
# Verification of files

A file is read piece by piece and its digest compared with the declared one.
-/

namespace Formulary.Fetch

/-- What reading a node from its start gives, reading by reading. -/
def readings (node : Node) : List (Except Fault Bytes) :=
  match node with
  | .directory => [.error .isDirectory]
  | node => (Digest.chunks node.contents).map .ok

def digestFile (algorithm : Digest.Algorithm) (p : Path) : Act (Except Fault String) :=
  Act.ask fun fs cwd => do
    let (_, node) ← fs.find cwd p
    Digest.digestReadings algorithm (readings node)

/-- Compares a file with a checksum: nothing if they agree, else the digest that was found. A
placeholder agrees with everything, and the file is not even looked at. -/
def mismatch? (p : Path) : Checksum → Act (Except Fault (Option String))
  | .placeholder _ => return .ok none
  | .pinned algorithm value => do
    let actual ← digestFile algorithm p
    return actual.map fun actual => if actual = value then none else some actual

/-- A digest that was found, in the form in which checksums are shown. -/
def displayFound (checksum : Checksum) (actual : String) : String :=
  match checksum with
  | .pinned algorithm _ => algorithm.name ++ ":" ++ actual
  | .placeholder _ => actual

end Formulary.Fetch
