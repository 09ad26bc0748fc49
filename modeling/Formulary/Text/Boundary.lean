import Formulary.Text.Utf8

/-!
# Between characters

Where the bytes of a text can be cut without cutting a character.
-/

namespace Formulary.Text

/-- A place among the bytes of a text that is between two characters or at an end of the text. -/
def isBoundary (bytes : Bytes) (place : Nat) : Bool :=
  place = 0 || place = bytes.length || bytes[place]?.any fun b => !isTail b

/-- The last place between characters up to a place, searched for byte by byte. A search that runs
past the start finds none. -/
def boundaryFrom? (bytes : Bytes) : (place : Nat) → Option Nat
  | 0 => if isBoundary bytes 0 then some 0 else none
  | place + 1 =>
    if isBoundary bytes (place + 1) then some (place + 1) else boundaryFrom? bytes place

end Formulary.Text
