import Formulary.Data.Value

/-!
# Blanks, keys and texts of a TOML document

The smallest parts of the grammar. A reader takes the characters that are left and gives what it
read with what it left, or nothing where the grammar is broken. The readers of quoted texts keep
the characters read so far, last first.
-/

namespace Formulary.Toml

/-! ### Blanks, comments and line ends -/

/-- A blank within a line. -/
def isSpace (c : Char) : Bool := c = ' ' || c = '\t'

/-- A character that may stand in a comment or a text on one line. -/
def isPlain (c : Char) : Bool :=
  c = '\t' || (0x20 ≤ c.toNat && c.toNat ≤ 0x7E) || 0x80 ≤ c.toNat

def skipSpace (s : List Char) : List Char := s.dropWhile isSpace

def lineEnd? : List Char → Option (List Char)
  | '\n' :: s => some s
  | '\r' :: '\n' :: s => some s
  | _ => none

def skipComment : List Char → List Char
  | '#' :: s => s.dropWhile isPlain
  | s => s

/-- Passes over what may follow on a line: blanks, a comment, and the line end or the end of the
document. -/
def restOfLine? (s : List Char) : Option (List Char) :=
  match skipComment (skipSpace s) with
  | [] => some []
  | s => lineEnd? s

/-- Passes over blanks, comments and line ends; `fuel` bounds the lines. -/
def skipLines : (fuel : Nat) → List Char → List Char
  | 0, s => s
  | fuel + 1, s =>
    let s := skipComment (skipSpace s)
    match lineEnd? s with
    | some s => skipLines fuel s
    | none => s

/-! ### Quoted texts -/

/-- The value of a hexadecimal digit. -/
def hexValue? (c : Char) : Option Nat :=
  if '0' ≤ c && c ≤ '9' then some (c.toNat - '0'.toNat)
  else if 'a' ≤ c && c ≤ 'f' then some (c.toNat - 'a'.toNat + 10)
  else if 'A' ≤ c && c ≤ 'F' then some (c.toNat - 'A'.toNat + 10)
  else none

/-- The character whose code the digits write, if it is one. -/
def charOfHex? (digits : List Char) : Option Char := do
  let code ← digits.foldlM (fun n c => (hexValue? c).map (n * 16 + ·)) 0
  if code < 0xD800 ∨ (0xDFFF < code ∧ code ≤ 0x10FFFF) then some (Char.ofNat code) else none

/-- The character an escape stands for, read after its backslash. -/
def escape? : List Char → Option (Char × List Char)
  | 'b' :: s => some ('\x08', s)
  | 't' :: s => some ('\t', s)
  | 'n' :: s => some ('\n', s)
  | 'f' :: s => some ('\x0c', s)
  | 'r' :: s => some ('\r', s)
  | '"' :: s => some ('"', s)
  | '\\' :: s => some ('\\', s)
  | 'u' :: a :: b :: c :: d :: s => (charOfHex? [a, b, c, d]).map (·, s)
  | 'U' :: a :: b :: c :: d :: e :: f :: g :: h :: s =>
    (charOfHex? [a, b, c, d, e, f, g, h]).map (·, s)
  | _ => none

theorem escape?_length {s rest : List Char} {c : Char} (h : escape? s = some (c, rest)) :
    rest.length < s.length := by
  unfold escape? at h
  split at h <;> simp at h
  all_goals simp only [List.length_cons]; grind

/-- The rest of a text in double quotes on one line. -/
def basic? (seen : List Char) (s : List Char) : Option (String × List Char) :=
  match s with
  | '"' :: s => some (String.ofList seen.reverse, s)
  | '\\' :: s =>
    match h : escape? s with
    | some (c, rest) =>
      have : rest.length < s.length := escape?_length h
      basic? (c :: seen) rest
    | none => none
  | c :: s => if isPlain c then basic? (c :: seen) s else none
  | [] => none
termination_by s.length

/-- The rest of a text in single quotes on one line. -/
def literal? (seen : List Char) : List Char → Option (String × List Char)
  | '\'' :: s => some (String.ofList seen.reverse, s)
  | c :: s => if isPlain c then literal? (c :: seen) s else none
  | [] => none

/-- Passes over blanks and line ends, as after a backslash at the end of a line. -/
def skipBlankLines : List Char → List Char
  | ' ' :: s => skipBlankLines s
  | '\t' :: s => skipBlankLines s
  | '\n' :: s => skipBlankLines s
  | '\r' :: '\n' :: s => skipBlankLines s
  | s => s

theorem skipBlankLines_length (s : List Char) : (skipBlankLines s).length ≤ s.length := by
  fun_induction skipBlankLines s <;> simp_all <;> omega

/-- How many quotes stand here, five at most. -/
def quoteRun (q : Char) (s : List Char) : Nat := ((s.take 5).takeWhile (· = q)).length

/-- The rest of a text in three double quotes. Of three to five quotes in a row the last three
close it. -/
def basicLines? (seen : List Char) (s : List Char) : Option (String × List Char) :=
  match s with
  | '"' :: s =>
    let run := quoteRun '"' ('"' :: s)
    if 3 ≤ run then
      some (String.ofList (List.replicate (run - 3) '"' ++ seen).reverse, s.drop (run - 1))
    else basicLines? ('"' :: seen) s
  | '\\' :: s =>
    match lineEnd? (skipSpace s) with
    | some _ =>
      have : (skipBlankLines s).length ≤ s.length := skipBlankLines_length s
      basicLines? seen (skipBlankLines s)
    | none =>
      match h : escape? s with
      | some (c, rest) =>
        have : rest.length < s.length := escape?_length h
        basicLines? (c :: seen) rest
      | none => none
  | '\n' :: s => basicLines? ('\n' :: seen) s
  | '\r' :: '\n' :: s => basicLines? ('\n' :: seen) s
  | c :: s => if isPlain c then basicLines? (c :: seen) s else none
  | [] => none
termination_by s.length

def literalLines? (seen : List Char) : List Char → Option (String × List Char)
  | '\'' :: s =>
    let run := quoteRun '\'' ('\'' :: s)
    if 3 ≤ run then
      some (String.ofList (List.replicate (run - 3) '\'' ++ seen).reverse, s.drop (run - 1))
    else literalLines? ('\'' :: seen) s
  | '\n' :: s => literalLines? ('\n' :: seen) s
  | '\r' :: '\n' :: s => literalLines? ('\n' :: seen) s
  | c :: s => if isPlain c then literalLines? (c :: seen) s else none
  | [] => none

/-- A line end right after three opening quotes does not count. -/
def dropFirstLineEnd (s : List Char) : List Char := (lineEnd? s).getD s

def quoted? : List Char → Option (String × List Char)
  | '"' :: '"' :: '"' :: s => basicLines? [] (dropFirstLineEnd s)
  | '\'' :: '\'' :: '\'' :: s => literalLines? [] (dropFirstLineEnd s)
  | '"' :: s => basic? [] s
  | '\'' :: s => literal? [] s
  | _ => none

/-! ### Keys -/

/-- A character of a key without quotes. -/
def isBare (c : Char) : Bool := c.isAlphanum || c = '-' || c = '_'

/-- One part of a key: quoted on one line, or bare. -/
def keyPart? : List Char → Option (String × List Char)
  | '"' :: s => basic? [] s
  | '\'' :: s => literal? [] s
  | s =>
    match s.takeWhile isBare with
    | [] => none
    | part => some (String.ofList part, s.dropWhile isBare)

/-- The most parts a key may have. -/
def maxKeyParts : Nat := 79

/-- The parts of a key, parted by dots with blanks around them; `left` bounds their number. -/
def keyParts? : (left : Nat) → List Char → Option (List String × List Char)
  | 0, _ => none
  | left + 1, s => do
    let (part, s) ← keyPart? (skipSpace s)
    match skipSpace s with
    | '.' :: s =>
      let (parts, s) ← keyParts? left s
      return (part :: parts, s)
    | s => return ([part], s)

/-- A key with its parts. -/
def key? (s : List Char) : Option (List String × List Char) := keyParts? maxKeyParts s

end Formulary.Toml
