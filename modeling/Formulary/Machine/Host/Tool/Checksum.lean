import Formulary.Digest.Algorithm
import Formulary.Machine.Host.Tool.Input

/-!
# Tools: checksums

Digests of files, and the check of files against a list of them.
-/

namespace Formulary.Host.Tool

open Formulary.Host.Script

/-! ### Further digests -/

def sha224Variant : Digest.Variant UInt32 :=
  { Digest.sha256Variant with initial := ⟨0xc1059ed8, 0x367cd507, 0x3070dd17, 0xf70e5939,
      0xffc00b31, 0x68581511, 0x64f98fa7, 0xbefa4fa4⟩ }

def sha384Variant : Digest.Variant UInt64 :=
  { Digest.sha512Variant with initial := ⟨0xcbbb9d5dc1059ed8, 0x629a292a367cd507,
      0x9159015a3070dd17, 0x152fecd8f70e5939, 0x67332667ffc00b31, 0x8eb44a8768581511,
      0xdb0c2e0d64f98fa7, 0x47b5481dbefa4fa4⟩ }

/-- The digest of a member of the family, cut off after so many digits. -/
def digestCut {ω : Type} [Add ω] [AndOp ω] [XorOp ω] [Complement ω] [Inhabited ω]
    (v : Digest.Variant ω) (digits : Nat) (bytes : Bytes) : String :=
  let all := Digest.hex (((Digest.Intake.start v).absorb v bytes).finish v)
  String.ofList (all.toList.take digits)

def turnLeft (x n : UInt32) : UInt32 := (x <<< n) ||| (x >>> (32 - n))

/-- Bytes in blocks of 64, with the closing bit and the length in bits. -/
def padded (bigFirst : Bool) (bytes : Bytes) : Bytes :=
  let zeros := (64 + 56 - (bytes.length + 1) % 64) % 64
  let bits := bytes.length * 8
  let tail := (List.range 8).map fun i => UInt8.ofNat (bits / Nat.pow 256 i)
  bytes ++ [0x80] ++ List.replicate zeros 0 ++ (if bigFirst then tail.reverse else tail)

def wordOf (bigFirst : Bool) (bytes : Bytes) : UInt32 :=
  (if bigFirst then bytes else bytes.reverse).foldl (fun n b => n * 256 + b.toUInt32) 0

def wordsOf (bigFirst : Bool) : Bytes → List UInt32
  | a :: b :: c :: d :: rest => wordOf bigFirst [a, b, c, d] :: wordsOf bigFirst rest
  | _ => []

def wordBlocks : (fuel : Nat) → List UInt32 → List (List UInt32)
  | 0, _ | _, [] => []
  | fuel + 1, l => l.take 16 :: wordBlocks fuel (l.drop 16)

def wordDigits (bigFirst : Bool) (w : UInt32) : String :=
  let bytes := (List.range 4).map fun i => UInt8.ofNat (w.toNat / Nat.pow 256 i)
  Digest.hex (if bigFirst then bytes.reverse else bytes)

/-- The constants of MD5, one for each round. -/
def md5Constants : Array UInt32 := #[
  0xd76aa478, 0xe8c7b756, 0x242070db, 0xc1bdceee, 0xf57c0faf, 0x4787c62a, 0xa8304613, 0xfd469501,
  0x698098d8, 0x8b44f7af, 0xffff5bb1, 0x895cd7be, 0x6b901122, 0xfd987193, 0xa679438e, 0x49b40821,
  0xf61e2562, 0xc040b340, 0x265e5a51, 0xe9b6c7aa, 0xd62f105d, 0x02441453, 0xd8a1e681, 0xe7d3fbc8,
  0x21e1cde6, 0xc33707d6, 0xf4d50d87, 0x455a14ed, 0xa9e3e905, 0xfcefa3f8, 0x676f02d9, 0x8d2a4c8a,
  0xfffa3942, 0x8771f681, 0x6d9d6122, 0xfde5380c, 0xa4beea44, 0x4bdecfa9, 0xf6bb4b60, 0xbebfbc70,
  0x289b7ec6, 0xeaa127fa, 0xd4ef3085, 0x04881d05, 0xd9d4d039, 0xe6db99e5, 0x1fa27cf8, 0xc4ac5665,
  0xf4292244, 0x432aff97, 0xab9423a7, 0xfc93a039, 0x655b59c3, 0x8f0ccc92, 0xffeff47d, 0x85845dd1,
  0x6fa87e4f, 0xfe2ce6e0, 0xa3014314, 0x4e0811a1, 0xf7537e82, 0xbd3af235, 0x2ad7d2bb, 0xeb86d391]

/-- How far MD5 turns words, in each quarter. -/
def md5Turns : Array (Array UInt32) :=
  #[#[7, 12, 17, 22], #[5, 9, 14, 20], #[4, 11, 16, 23], #[6, 10, 15, 21]]

def md5Round (block : Array UInt32) (s : UInt32 × UInt32 × UInt32 × UInt32) (i : Nat) :
    UInt32 × UInt32 × UInt32 × UInt32 :=
  let (a, b, c, d) := s
  let (f, g) := match i / 16 with
    | 0 => ((b &&& c) ||| (~~~ b &&& d), i)
    | 1 => ((d &&& b) ||| (~~~ d &&& c), (5 * i + 1) % 16)
    | 2 => (b ^^^ c ^^^ d, (3 * i + 5) % 16)
    | _ => (c ^^^ (b ||| ~~~ d), 7 * i % 16)
  let sum := f + a + (md5Constants[i]?.getD 0) + (block[g]?.getD 0)
  let turn := ((md5Turns[i / 16]?.getD #[])[i % 4]?).getD 0
  (d, b + turnLeft sum turn, b, c)

def md5 (bytes : Bytes) : String :=
  let words := wordsOf false (padded false bytes)
  let step (s : UInt32 × UInt32 × UInt32 × UInt32) (block : List UInt32) :
      UInt32 × UInt32 × UInt32 × UInt32 :=
    let (a, b, c, d) := (List.range 64).foldl (md5Round block.toArray) s
    (s.1 + a, s.2.1 + b, s.2.2.1 + c, s.2.2.2 + d)
  let (a, b, c, d) := (wordBlocks (words.length + 1) words).foldl step
    (0x67452301, 0xefcdab89, 0x98badcfe, 0x10325476)
  String.join ([a, b, c, d].map (wordDigits false))

/-- The words of a block of SHA-1, extended to eighty. -/
def sha1Schedule (block : List UInt32) : Array UInt32 :=
  (List.range 64).foldl (fun w i =>
    let at' (n : Nat) : UInt32 := w[i + 16 - n]?.getD 0
    w.push (turnLeft (at' 3 ^^^ at' 8 ^^^ at' 14 ^^^ at' 16) 1)) block.toArray

def sha1 (bytes : Bytes) : String :=
  let words := wordsOf true (padded true bytes)
  let step (s : UInt32 × UInt32 × UInt32 × UInt32 × UInt32) (block : List UInt32) :
      UInt32 × UInt32 × UInt32 × UInt32 × UInt32 :=
    let w := sha1Schedule block
    let (a, b, c, d, e) := (List.range 80).foldl (fun (a, b, c, d, e) i =>
      let (f, k) : UInt32 × UInt32 := match i / 20 with
        | 0 => ((b &&& c) ||| (~~~ b &&& d), 0x5a827999)
        | 1 => (b ^^^ c ^^^ d, 0x6ed9eba1)
        | 2 => ((b &&& c) ||| (b &&& d) ||| (c &&& d), 0x8f1bbcdc)
        | _ => (b ^^^ c ^^^ d, 0xca62c1d6)
      (turnLeft a 5 + f + e + k + (w[i]?.getD 0), a, turnLeft b 30, c, d)) s
    (s.1 + a, s.2.1 + b, s.2.2.1 + c, s.2.2.2.1 + d, s.2.2.2.2 + e)
  let (a, b, c, d, e) := (wordBlocks (words.length + 1) words).foldl step
    (0x67452301, 0xefcdab89, 0x98badcfe, 0x10325476, 0xc3d2e1f0)
  String.join ([a, b, c, d, e].map (wordDigits true))

/-! ### Digests of files -/

/-- The tools that compute digests: their names, the names of the digests, and what these are. -/
def digestTools : List (String × String × (Bytes → String)) := [
  ("md5sum", "MD5", md5), ("sha1sum", "SHA1", sha1),
  ("sha224sum", "SHA224", digestCut sha224Variant 56),
  ("sha256sum", "SHA256", Digest.digest .sha256),
  ("sha384sum", "SHA384", digestCut sha384Variant 96),
  ("sha512sum", "SHA512", Digest.digest .sha512)]

/-- The digest and the name on a line of a list. -/
def listed? (line : List Char) : Option (String × String) :=
  let digest := line.takeWhile Digest.isHexDigit
  match line.drop digest.length with
  | ' ' :: c :: name =>
    if (c = ' ' || c = '*') && digest.length % 8 = 0 && 32 ≤ digest.length && !name.isEmpty then
      some (String.ofList digest, String.ofList name)
    else none
  | _ => none

/-- Files checked against the lines of a list. -/
def checkList (said : OptionTable.Said) (digest : Bytes → String) (lines : List (List Char)) :
    Run Nat := do
  let quiet := given said 'q' || given said 's'
  let mut wrong := 0
  let mut missing := 0
  let mut odd := 0
  let mut seen := 0
  for line in lines do
    match listed? line with
    | none => odd := odd + 1
    | some (expected, name) =>
      match ← contents name with
      | .error e =>
        if given said 'i' && e = .noEntry then continue
        seen := seen + 1
        missing := missing + 1
        warn (unreadable name e)
        if !given said 's' then Run.put (name ++ ": FAILED open or read\n")
      | .ok s =>
        seen := seen + 1
        if digest (s.map Text.octet) = expected.toLower then
          if !quiet then Run.put (name ++ ": OK\n")
        else
          wrong := wrong + 1
          if !given said 's' then Run.put (name ++ ": FAILED\n")
  let plural (n : Nat) (one many : String) : String := if n = 1 then one else many
  if !given said 's' then
    if 0 < odd && 0 < seen then
      warn ("WARNING: " ++ toString odd ++ plural odd " line is" " lines are" ++
        " improperly formatted")
    if 0 < missing then
      warn ("WARNING: " ++ toString missing ++
        plural missing " listed file" " listed files" ++ " could not be read")
    if 0 < wrong then
      warn ("WARNING: " ++ toString wrong ++
        plural wrong " computed checksum" " computed checksums" ++ " did NOT match")
  return if wrong = 0 && missing = 0 && 0 < seen && (odd = 0 || !given said 'S') then 0 else 1

/-- `sha256sum` and its like: the digests of files. -/
def checksums (title : String) (digest : Bytes → String) : Tool := fun args => do
  let table := OptionTable.make "bctwz" "gqsSi" ["binary=b", "check=c", "text=t", "warn=w",
    "zero=z", "tag=g", "quiet=q", "status=s", "strict=S", "ignore-missing=i"]
  withOptions table 1 args fun said => do
    let mut status := 0
    for path in inputs said.others do
      match ← contents path with
      | .error e =>
        warn (unreadable path e)
        status := 1
      | .ok s =>
        if given said 'c' then
          let lines := linesOf s '\n'
          if (lines.filterMap listed?).isEmpty then
            warn ((if path = "-" then quoted "standard input" else shown path) ++
              ": no properly formatted checksum lines found")
            status := 1
          else
            let found ← checkList said digest lines
            status := max status found
        else
          let value := digest (s.map Text.octet)
          let special := path.toList.any fun c => c = '\\' || c = '\n' || c = '\r'
          let name := String.join (path.toList.map fun c =>
            if c = '\\' then "\\\\" else if c = '\n' then "\\n" else if c = '\r' then "\\r"
            else c.toString)
          let mark := if special && !given said 'z' then "\\" else ""
          let name := if given said 'z' then path else name
          let ending := if given said 'z' then (Char.ofNat 0).toString else "\n"
          if given said 'g' then
            Run.put (mark ++ title ++ " (" ++ name ++ ") = " ++ value ++ ending)
          else
            Run.put (mark ++ value ++ (if given said 'b' then " *" else "  ") ++ name ++ ending)
    return status

/-! ### Older sums -/

/-- Takes a bit into the remainder of `cksum`. -/
def crcBit (c : UInt32) : UInt32 :=
  if c &&& 0x80000000 = 0 then c <<< 1 else (c <<< 1) ^^^ 0x04c11db7

/-- Takes a byte into the remainder of `cksum`. -/
def crcByte (c : UInt32) (b : UInt8) : UInt32 :=
  (List.range 8).foldl (fun c _ => crcBit c) (c ^^^ (b.toUInt32 <<< 24))

/-- The bytes of a length, least one first, without zeros at the end. -/
def lengthBytes : (fuel : Nat) → Nat → Bytes
  | 0, _ | _, 0 => []
  | fuel + 1, n => UInt8.ofNat n :: lengthBytes fuel (n / 256)

def cksum : Tool := fun args => do
  withOptions (OptionTable.make "a:" "" ["algorithm=a"]) 1 args fun said => do
    let good ← forContents unreadable said.others fun path s => do
      let bytes := s.map Text.octet
      let c := (bytes ++ lengthBytes 16 bytes.length).foldl crcByte 0
      Run.put (toString (~~~ c).toNat ++ " " ++ toString s.length ++
        (if said.others.isEmpty then "" else " " ++ path) ++ "\n")
    return statusFor good

/-- `sum`: a sum that is turned at each byte, and a number of blocks. -/
def sum : Tool := fun args => do
  withOptions (OptionTable.make "rs" "" ["sysv=s"]) 1 args fun said => do
    let good ← forContents unreadable said.others fun path s => do
      let name := if said.others.isEmpty then "" else " " ++ path
      if given said 's' then
        let total := s.foldl (fun n c => n + c.toNat) 0
        let folded := total % 65536 + total % 4294967296 / 65536
        let folded := folded % 65536 + folded / 65536
        Run.put (toString folded ++ " " ++ toString ((s.length + 511) / 512) ++ name ++ "\n")
      else
        let total := s.foldl (fun n c => ((n / 2 + n % 2 * 32768) + c.toNat) % 65536) 0
        let digits := toString total
        let blocks := toString ((s.length + 1023) / 1024)
        Run.put (String.ofList (List.replicate (5 - digits.length) '0') ++ digits ++ " " ++
          String.ofList (List.replicate (5 - blocks.length) ' ') ++ blocks ++ name ++ "\n")
    return statusFor good

end Formulary.Host.Tool
