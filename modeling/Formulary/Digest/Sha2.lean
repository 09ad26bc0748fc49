import Formulary.Digest.Hex

/-!
# The SHA-2 family

SHA-256 and SHA-512 as one construction with two sets of parameters. A message is taken in byte by
byte: `Intake.absorb` folds over it, so taking in one piece after another is the same as taking in
the whole (`Intake.absorb_append`).
-/

namespace Formulary.Digest

/-- The eight words that a block is mixed into. -/
structure Lanes (ω : Type) where
  a : ω
  b : ω
  c : ω
  d : ω
  e : ω
  f : ω
  g : ω
  h : ω

/-- What sets one member of the family apart from the other. -/
structure Variant (ω : Type) where
  /-- Bytes of a word; a block has sixteen words. -/
  wordSize : Nat
  ofNat : Nat → ω
  toNat : ω → Nat
  /-- The lanes before the first block. -/
  initial : Lanes ω
  /-- One constant for each round. -/
  constants : List ω
  /-- Mixes an old word of the schedule, fifteen back. -/
  scheduleFar : ω → ω
  /-- Mixes an old word of the schedule, two back. -/
  scheduleNear : ω → ω
  /-- Mixes lane `a` in a round. -/
  roundA : ω → ω
  /-- Mixes lane `e` in a round. -/
  roundE : ω → ω

namespace Variant

def blockSize {ω : Type} (v : Variant ω) : Nat := 16 * v.wordSize

/-- Bytes that hold the message's length in bits at the end of the last block. -/
def lengthSize {ω : Type} (v : Variant ω) : Nat := 2 * v.wordSize

end Variant

section Compression

variable {ω : Type} [Add ω] [AndOp ω] [XorOp ω] [Complement ω] [Inhabited ω]

/-- The words of a block, most significant byte first. -/
def blockWords (v : Variant ω) (block : Array UInt8) : Array ω :=
  Array.ofFn fun i : Fin 16 =>
    v.ofNat ((block.extract (i * v.wordSize) ((i + 1) * v.wordSize)).foldl
      (fun n byte => n * 256 + byte.toNat) 0)

/-- The schedule extended by one word, made of the words 2, 7, 15 and 16 back. -/
def extendSchedule (v : Variant ω) (w : Array ω) : Array ω :=
  let back (n : Nat) : ω := w.getD (w.size - n) default
  w.push (v.scheduleNear (back 2) + back 7 + v.scheduleFar (back 15) + back 16)

/-- One word of schedule for each round. -/
def schedule (v : Variant ω) (block : Array UInt8) : Array ω :=
  (List.range (v.constants.length - 16)).foldl (fun w _ => extendSchedule v w) (blockWords v block)

/-- One round, with its constant and its word of the schedule. -/
def round (v : Variant ω) (s : Lanes ω) (k w : ω) : Lanes ω :=
  let choice := (s.e &&& s.f) ^^^ (~~~s.e &&& s.g)
  let majority := (s.a &&& s.b) ^^^ (s.a &&& s.c) ^^^ (s.b &&& s.c)
  let t1 := s.h + v.roundE s.e + choice + k + w
  let t2 := v.roundA s.a + majority
  ⟨t1 + t2, s.a, s.b, s.c, s.d + t1, s.e, s.f, s.g⟩

def compress (v : Variant ω) (s : Lanes ω) (block : Array UInt8) : Lanes ω :=
  let t := (v.constants.zip (schedule v block).toList).foldl (fun s (k, w) => round v s k w) s
  ⟨s.a + t.a, s.b + t.b, s.c + t.c, s.d + t.d, s.e + t.e, s.f + t.f, s.g + t.g, s.h + t.h⟩

/-! ### Taking in a message -/

/-- What is kept between two bytes of a message. -/
structure Intake (ω : Type) where
  lanes : Lanes ω
  /-- The bytes that do not fill a block yet. -/
  pending : Array UInt8
  /-- Bytes taken in so far. -/
  length : Nat

namespace Intake

def start (v : Variant ω) : Intake ω := ⟨v.initial, #[], 0⟩

def push (v : Variant ω) (s : Intake ω) (byte : UInt8) : Intake ω :=
  let pending := s.pending.push byte
  if pending.size = v.blockSize then ⟨compress v s.lanes pending, #[], s.length + 1⟩
  else ⟨s.lanes, pending, s.length + 1⟩

def absorb (v : Variant ω) (s : Intake ω) (bytes : Bytes) : Intake ω := bytes.foldl (push v) s

theorem absorb_append (v : Variant ω) (s : Intake ω) (xs ys : Bytes) :
    absorb v s (xs ++ ys) = absorb v (absorb v s xs) ys := by
  simp [absorb]

end Intake

/-- `n` in `size` bytes, most significant first. -/
def bigEndian : (size n : Nat) → Bytes
  | 0, _ => []
  | size + 1, n => bigEndian size (n / 256) ++ [UInt8.ofNat (n % 256)]

/-- What follows a message of `length` bytes: a one bit, zeros, and the length in bits. -/
def padding (v : Variant ω) (length : Nat) : Bytes :=
  let used := (length + 1 + v.lengthSize) % v.blockSize
  let zeros := List.replicate ((v.blockSize - used) % v.blockSize) 0
  0x80 :: zeros ++ bigEndian v.lengthSize (8 * length)

def Lanes.bytes (v : Variant ω) (s : Lanes ω) : Bytes :=
  [s.a, s.b, s.c, s.d, s.e, s.f, s.g, s.h].flatMap fun w => bigEndian v.wordSize (v.toNat w)

def Intake.finish (v : Variant ω) (s : Intake ω) : Bytes :=
  (s.absorb v (padding v s.length)).lanes.bytes v

end Compression

/-! ### The two members -/

/-- A 32-bit word turned right. -/
def turn32 (x : UInt32) (n : UInt32) : UInt32 := (x >>> n) ||| (x <<< (32 - n))

def turn64 (x : UInt64) (n : UInt64) : UInt64 := (x >>> n) ||| (x <<< (64 - n))

/-- The parameters of SHA-256. -/
def sha256Variant : Variant UInt32 where
  wordSize := 4
  ofNat := UInt32.ofNat
  toNat := UInt32.toNat
  initial := ⟨0x6a09e667, 0xbb67ae85, 0x3c6ef372, 0xa54ff53a,
    0x510e527f, 0x9b05688c, 0x1f83d9ab, 0x5be0cd19⟩
  constants := [
    0x428a2f98, 0x71374491, 0xb5c0fbcf, 0xe9b5dba5, 0x3956c25b, 0x59f111f1, 0x923f82a4, 0xab1c5ed5,
    0xd807aa98, 0x12835b01, 0x243185be, 0x550c7dc3, 0x72be5d74, 0x80deb1fe, 0x9bdc06a7, 0xc19bf174,
    0xe49b69c1, 0xefbe4786, 0x0fc19dc6, 0x240ca1cc, 0x2de92c6f, 0x4a7484aa, 0x5cb0a9dc, 0x76f988da,
    0x983e5152, 0xa831c66d, 0xb00327c8, 0xbf597fc7, 0xc6e00bf3, 0xd5a79147, 0x06ca6351, 0x14292967,
    0x27b70a85, 0x2e1b2138, 0x4d2c6dfc, 0x53380d13, 0x650a7354, 0x766a0abb, 0x81c2c92e, 0x92722c85,
    0xa2bfe8a1, 0xa81a664b, 0xc24b8b70, 0xc76c51a3, 0xd192e819, 0xd6990624, 0xf40e3585, 0x106aa070,
    0x19a4c116, 0x1e376c08, 0x2748774c, 0x34b0bcb5, 0x391c0cb3, 0x4ed8aa4a, 0x5b9cca4f, 0x682e6ff3,
    0x748f82ee, 0x78a5636f, 0x84c87814, 0x8cc70208, 0x90befffa, 0xa4506ceb, 0xbef9a3f7, 0xc67178f2]
  scheduleFar x := turn32 x 7 ^^^ turn32 x 18 ^^^ (x >>> 3)
  scheduleNear x := turn32 x 17 ^^^ turn32 x 19 ^^^ (x >>> 10)
  roundA x := turn32 x 2 ^^^ turn32 x 13 ^^^ turn32 x 22
  roundE x := turn32 x 6 ^^^ turn32 x 11 ^^^ turn32 x 25

/-- The parameters of SHA-512. -/
def sha512Variant : Variant UInt64 where
  wordSize := 8
  ofNat := UInt64.ofNat
  toNat := UInt64.toNat
  initial := ⟨0x6a09e667f3bcc908, 0xbb67ae8584caa73b, 0x3c6ef372fe94f82b, 0xa54ff53a5f1d36f1,
    0x510e527fade682d1, 0x9b05688c2b3e6c1f, 0x1f83d9abfb41bd6b, 0x5be0cd19137e2179⟩
  constants := [
    0x428a2f98d728ae22, 0x7137449123ef65cd, 0xb5c0fbcfec4d3b2f, 0xe9b5dba58189dbbc,
    0x3956c25bf348b538, 0x59f111f1b605d019, 0x923f82a4af194f9b, 0xab1c5ed5da6d8118,
    0xd807aa98a3030242, 0x12835b0145706fbe, 0x243185be4ee4b28c, 0x550c7dc3d5ffb4e2,
    0x72be5d74f27b896f, 0x80deb1fe3b1696b1, 0x9bdc06a725c71235, 0xc19bf174cf692694,
    0xe49b69c19ef14ad2, 0xefbe4786384f25e3, 0x0fc19dc68b8cd5b5, 0x240ca1cc77ac9c65,
    0x2de92c6f592b0275, 0x4a7484aa6ea6e483, 0x5cb0a9dcbd41fbd4, 0x76f988da831153b5,
    0x983e5152ee66dfab, 0xa831c66d2db43210, 0xb00327c898fb213f, 0xbf597fc7beef0ee4,
    0xc6e00bf33da88fc2, 0xd5a79147930aa725, 0x06ca6351e003826f, 0x142929670a0e6e70,
    0x27b70a8546d22ffc, 0x2e1b21385c26c926, 0x4d2c6dfc5ac42aed, 0x53380d139d95b3df,
    0x650a73548baf63de, 0x766a0abb3c77b2a8, 0x81c2c92e47edaee6, 0x92722c851482353b,
    0xa2bfe8a14cf10364, 0xa81a664bbc423001, 0xc24b8b70d0f89791, 0xc76c51a30654be30,
    0xd192e819d6ef5218, 0xd69906245565a910, 0xf40e35855771202a, 0x106aa07032bbd1b8,
    0x19a4c116b8d2d0c8, 0x1e376c085141ab53, 0x2748774cdf8eeb99, 0x34b0bcb5e19b48a8,
    0x391c0cb3c5c95a63, 0x4ed8aa4ae3418acb, 0x5b9cca4f7763e373, 0x682e6ff3d6b2b8a3,
    0x748f82ee5defb2fc, 0x78a5636f43172f60, 0x84c87814a1f0ab72, 0x8cc702081a6439ec,
    0x90befffa23631e28, 0xa4506cebde82bde9, 0xbef9a3f7b2c67915, 0xc67178f2e372532b,
    0xca273eceea26619c, 0xd186b8c721c0c207, 0xeada7dd6cde0eb1e, 0xf57d4f7fee6ed178,
    0x06f067aa72176fba, 0x0a637dc5a2c898a6, 0x113f9804bef90dae, 0x1b710b35131c471b,
    0x28db77f523047d84, 0x32caab7b40c72493, 0x3c9ebe0a15c9bebc, 0x431d67c49c100d4c,
    0x4cc5d4becb3e42b6, 0x597f299cfc657e2a, 0x5fcb6fab3ad6faec, 0x6c44198c4a475817]
  scheduleFar x := turn64 x 1 ^^^ turn64 x 8 ^^^ (x >>> 7)
  scheduleNear x := turn64 x 19 ^^^ turn64 x 61 ^^^ (x >>> 6)
  roundA x := turn64 x 28 ^^^ turn64 x 34 ^^^ turn64 x 39
  roundE x := turn64 x 14 ^^^ turn64 x 18 ^^^ turn64 x 41

end Formulary.Digest
