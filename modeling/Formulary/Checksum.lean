import Formulary.Text.Blank
import Formulary.Text.Search
import Formulary.Digest.Algorithm

/-!
# Checksums

The checksum a formula declares for its archive. A text that names an algorithm and a digest of its
length, or that is a bare SHA-256 digest, pins the archive; every other text is a placeholder and
is kept as it is.
-/

namespace Formulary

/-- A declared checksum. -/
inductive Checksum where
  /-- A digest to verify against, in lower case. -/
  | pinned (algorithm : Digest.Algorithm) (value : String)
  /-- Anything else, without the blanks around it. -/
  | placeholder (raw : String)
  deriving DecidableEq, Repr

namespace Checksum

/-- The algorithm and the digits a trimmed text declares, before the digits are looked at. -/
def declared? (text : List Char) : Option (Digest.Algorithm × List Char) :=
  match Text.cut? [':'] text with
  | some (name, value) => (Digest.Algorithm.ofName? (String.ofList name)).map (·, value)
  | none => some (.sha256, text)

/-- A digest of an algorithm: as many hexadecimal digits as it has. -/
def isDigest (algorithm : Digest.Algorithm) (value : List Char) : Bool :=
  value.length == algorithm.hexLength && value.all Digest.isHexDigit

/-- Reads a declared checksum; never fails. -/
def parse (raw : String) : Checksum :=
  let text := Text.trimChars raw.toList
  match declared? text with
  | some (algorithm, value) =>
    if isDigest algorithm value then .pinned algorithm (String.ofList value).toLower
    else .placeholder (String.ofList text)
  | none => .placeholder (String.ofList text)

def display : Checksum → String
  | pinned algorithm value => algorithm.name ++ ":" ++ value
  | placeholder raw => raw

/-- Downloads can be verified against it. -/
def isPinned : Checksum → Bool
  | pinned _ _ => true
  | placeholder _ => false

/-- The name a verified download is kept under. -/
def cacheKey? : Checksum → Option String
  | pinned algorithm value => some (algorithm.name ++ "_" ++ value)
  | placeholder _ => none

end Checksum

end Formulary
