import Formulary.Digest.Sha2

/-!
# Digest algorithms

The algorithms a checksum may name, and digests of data that arrives in pieces. A reading is what
one attempt to read from a source gave: bytes or a fault. A digest over readings is that of the
bytes put together, however they were cut.
-/

namespace Formulary.Digest

/-- The algorithms a checksum may name. -/
inductive Algorithm where
  | sha256
  | sha512
  deriving DecidableEq, Repr

namespace Algorithm

def name : Algorithm → String
  | .sha256 => "sha256"
  | .sha512 => "sha512"

/-- Hexadecimal digits of a digest. -/
def hexLength : Algorithm → Nat
  | .sha256 => 64
  | .sha512 => 128

/-- The algorithm a text names, in any case and with or without a hyphen. Only Latin letters have
a capital form among these names, so lowering them is enough. -/
def ofName? (text : String) : Option Algorithm :=
  let lowered := text.toLower
  if lowered = "sha256" || lowered = "sha-256" then some .sha256
  else if lowered = "sha512" || lowered = "sha-512" then some .sha512
  else none

/-- The algorithm a text names, or what is said of a text that names none. -/
def read (text : String) : Except String Algorithm :=
  match ofName? text with
  | some algorithm => .ok algorithm
  | none => .error ("unknown hash algorithm: " ++ text)

end Algorithm

/-! ### Streams -/

/-- The state of a digest under way. -/
inductive Running where
  | sha256 (state : Intake UInt32)
  | sha512 (state : Intake UInt64)

namespace Running

def start : Algorithm → Running
  | .sha256 => .sha256 (Intake.start sha256Variant)
  | .sha512 => .sha512 (Intake.start sha512Variant)

def update : Running → Bytes → Running
  | .sha256 s, bytes => .sha256 (s.absorb sha256Variant bytes)
  | .sha512 s, bytes => .sha512 (s.absorb sha512Variant bytes)

def finish : Running → String
  | .sha256 s => hex (s.finish sha256Variant)
  | .sha512 s => hex (s.finish sha512Variant)

theorem update_append (s : Running) (xs ys : Bytes) :
    s.update (xs ++ ys) = (s.update xs).update ys := by
  cases s <;> simp [update, Intake.absorb_append]

@[simp] theorem update_nil (s : Running) : s.update [] = s := by
  cases s <;> simp [update, Intake.absorb]

end Running

/-- The digest of a byte string. -/
def digest (algorithm : Algorithm) (bytes : Bytes) : String :=
  ((Running.start algorithm).update bytes).finish

def sha256 (bytes : Bytes) : String := digest .sha256 bytes

/-! ### Readings -/

/-- The most bytes one reading brings. -/
def readingSize : Nat := 8192

/-- A buffer after a reading, and how many of its bytes the reading has brought. What the reading
does not reach is left as it was. -/
def fill (buffer reading : Bytes) : Bytes × Nat :=
  (reading.take buffer.length ++ buffer.drop reading.length, min reading.length buffer.length)

/-- Takes in readings until the first fault or the first empty one, which ends the data. They all
come through one buffer, of which only what a reading has brought is taken in. -/
def Running.readAll {ε : Type} (s : Running) (buffer : Bytes) :
    List (Except ε Bytes) → Except ε Running
  | [] => .ok s
  | .error e :: _ => .error e
  | .ok reading :: rest =>
    let (buffer, count) := fill buffer reading
    if count = 0 then .ok s else (s.update (buffer.take count)).readAll buffer rest

/-- The digest of data that arrives in readings. -/
def digestReadings {ε : Type} (algorithm : Algorithm) (readings : List (Except ε Bytes)) :
    Except ε String :=
  ((Running.start algorithm).readAll (List.replicate readingSize 0) readings).map Running.finish

/-- A byte string cut into readings, with the empty one at its end. -/
def chunks (bytes : Bytes) : List Bytes :=
  if _h : bytes = [] then [[]]
  else bytes.take readingSize :: chunks (bytes.drop readingSize)
termination_by bytes.length
decreasing_by
  have : 0 < bytes.length := List.length_pos_iff.2 _h
  simp only [List.length_drop, readingSize]
  omega

end Formulary.Digest
