import Formulary.Text.Utf8

/-!
# Texts of bytes

Programs of the machine treat text byte by byte. Such a text is kept with one character of its own,
below U+0100, for every byte.
-/

namespace Formulary.Text

/-- Bytes with one character for each. -/
def ofBytes (bytes : Bytes) : List Char := bytes.map fun b => Char.ofNat b.toNat

/-- The number that decimal digits, and nothing but digits, stand for. -/
def natural? (s : List Char) : Option Nat :=
  if s.isEmpty || !s.all Char.isDigit then none
  else some (s.foldl (fun n c => n * 10 + (c.toNat - '0'.toNat)) 0)

/-- The byte a character stands for. -/
def octet (c : Char) : UInt8 := c.toNat.toUInt8

def octets (s : String) : String :=
  if s.toList.all fun c => c.toNat < 0x80 then s else String.ofList (ofBytes (encode s))

/-- The text whose bytes the characters stand for. -/
def ofOctets (s : String) : String :=
  if s.toList.all fun c => c.toNat < 0x80 then s else decodeLossy (s.toList.map octet)

/-- A byte array with the bytes of a text of bytes behind it. -/
def pushOctets (bytes : ByteArray) (s : String) : ByteArray :=
  s.foldl (fun out c => out.push (octet c)) bytes

end Formulary.Text
