/-!
# Bytes and text

UTF-8 in both directions. Decoding walks a byte string character by character; where no character
starts, it takes the longest run of bytes that begins one (at least one byte) as a single fault.
A strict reader refuses a text with a fault, a lenient one shows U+FFFD in its place.
-/

namespace Formulary

abbrev Bytes := List UInt8

namespace Text

def encode (s : String) : Bytes := s.toUTF8.toList

/-- A byte that continues a character. -/
def isTail (b : UInt8) : Bool := 0x80 ≤ b && b ≤ 0xBF

/-- The range of the second byte of a character of three bytes or more. -/
def secondByte (first : UInt8) : UInt8 × UInt8 :=
  if first = 0xE0 then (0xA0, 0xBF)
  else if first = 0xED then (0x80, 0x9F)
  else if first = 0xF0 then (0x90, 0xBF)
  else if first = 0xF4 then (0x80, 0x8F)
  else (0x80, 0xBF)

/-- How many bytes a character with this first byte has; none starts with the byte if zero. -/
def widthOf (first : UInt8) : Nat :=
  if first ≤ 0x7F then 1
  else if 0xC2 ≤ first && first ≤ 0xDF then 2
  else if 0xE0 ≤ first && first ≤ 0xEF then 3
  else if 0xF0 ≤ first && first ≤ 0xF4 then 4
  else 0

/-- The low six bits of a continuing byte. -/
def tailBits (b : UInt8) : Nat := b.toNat % 64

/-- One step of decoding: a character or a fault, and how many of `rest` it used. -/
def decodeStep (first : UInt8) (rest : Bytes) : Option Char × Nat :=
  match widthOf first, rest with
  | 1, _ => (some (Char.ofNat first.toNat), 0)
  | 2, b :: _ =>
    if isTail b then (some (Char.ofNat (first.toNat % 32 * 64 + tailBits b)), 1) else (none, 0)
  | 3, b :: c :: _ =>
    let (lo, hi) := secondByte first
    if lo ≤ b && b ≤ hi then
      if isTail c then
        (some (Char.ofNat ((first.toNat % 16 * 64 + tailBits b) * 64 + tailBits c)), 2)
      else (none, 1)
    else (none, 0)
  | 3, [b] =>
    let (lo, hi) := secondByte first
    if lo ≤ b && b ≤ hi then (none, 1) else (none, 0)
  | 4, b :: r =>
    let (lo, hi) := secondByte first
    if lo ≤ b && b ≤ hi then
      match r with
      | c :: d :: _ =>
        if isTail c then
          if isTail d then
            (some (Char.ofNat
              (((first.toNat % 8 * 64 + tailBits b) * 64 + tailBits c) * 64 + tailBits d)), 3)
          else (none, 2)
        else (none, 1)
      | [c] => if isTail c then (none, 2) else (none, 1)
      | [] => (none, 1)
    else (none, 0)
  | _, _ => (none, 0)

/-- The characters and faults of a byte string, last first, before those of `seen`. -/
def scanOnto (seen : List (Option Char)) : Bytes → List (Option Char)
  | [] => seen
  | b :: rest => scanOnto ((decodeStep b rest).1 :: seen) (rest.drop (decodeStep b rest).2)
termination_by bytes => bytes.length
decreasing_by simp only [List.length_cons, List.length_drop]; omega

/-- The characters and faults of a byte string, in order. -/
def scan (bytes : Bytes) : List (Option Char) := (scanOnto [] bytes).reverse

theorem scanOnto_eq (bytes : Bytes) : ∀ seen : List (Option Char),
    scanOnto seen bytes = scanOnto [] bytes ++ seen := by
  induction h : bytes.length using Nat.strongRecOn generalizing bytes with
  | ind n ih =>
    intro seen
    match bytes with
    | [] => simp [scanOnto]
    | b :: rest =>
      have shorter : (rest.drop (decodeStep b rest).2).length < n := by
        simp only [← h, List.length_cons, List.length_drop]; omega
      rw [scanOnto, ih _ shorter _ rfl, scanOnto, ih _ shorter _ rfl [_]]
      simp

@[simp] theorem scan_nil : scan [] = [] := by simp [scan, scanOnto]

/-- The first character or fault, then those of the bytes it left. -/
theorem scan_cons (b : UInt8) (rest : Bytes) :
    scan (b :: rest) = (decodeStep b rest).1 :: scan (rest.drop (decodeStep b rest).2) := by
  rw [scan, scanOnto, scanOnto_eq]
  simp [scan]

/-- The character shown in place of a fault. -/
def replacement : Char := Char.ofNat 0xFFFD

/-- Lenient decoding: one U+FFFD per fault. -/
def decodeLossy (bytes : Bytes) : String :=
  String.ofList ((scan bytes).map fun c => c.getD replacement)

/-- Strict decoding: nothing where there is a fault. -/
def decode? (bytes : Bytes) : Option String :=
  let marks := scan bytes
  if marks.all Option.isSome then some (String.ofList (marks.filterMap id)) else none

end Text

end Formulary
