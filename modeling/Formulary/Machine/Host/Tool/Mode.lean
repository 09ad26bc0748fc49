import Formulary.Machine.Host.Tool.Input

/-!
# Tools: rights

Rights of files as bits, as the letters `ls` shows and as the clauses `chmod` is told.
-/

namespace Formulary.Host.Tool.Mode

def allBits : Nat := 0o7777

/-- The bits of a class of users: its owner, its group or the others. -/
def classBits (c : Char) : Nat :=
  if c = 'u' then 0o4700 else if c = 'g' then 0o2070 else if c = 'o' then 0o1007 else 0o7777

/-- Which bits letters of rights stand for, in all classes. `anyway` says whether `X` counts. -/
def rightBits (anyway : Bool) (c : Char) : Option Nat :=
  match c with
  | 'r' => some 0o444
  | 'w' => some 0o222
  | 'x' => some 0o111
  | 'X' => some (if anyway then 0o111 else 0)
  | 's' => some 0o6000
  | 't' => some 0o1000
  | _ => none

/-- The rights of a class in all classes. -/
def copied (mode : Nat) (c : Char) : Option Nat :=
  let spread (n : Nat) : Nat := n % 8 * 0o111
  match c with
  | 'u' => some (spread (mode / 64))
  | 'g' => some (spread (mode / 8))
  | 'o' => some (spread mode)
  | _ => none

def without (mode bits : Nat) : Nat := mode - Nat.land mode bits

/-- One clause of a change, behind the classes it is for: signs, each with its rights. -/
def clause (isDirectory : Bool) (who : Nat) (isNamed : Bool) (mask : Nat) :
    (fuel : Nat) → Nat → List Char → Option Nat
  | 0, _, _ => none
  | _ + 1, mode, [] => some mode
  | fuel + 1, mode, sign :: rest => do
    if !"+-=".toList.contains sign then none
    let letters := rest.takeWhile fun c => !"+-=".toList.contains c
    let anyway := isDirectory || 0 < Nat.land mode 0o111
    let bits ← match letters with
      | [c] => (copied mode c).or (rightBits anyway c)
      | _ => letters.foldlM (fun n c => (rightBits anyway c).map (Nat.lor n)) 0
    let bits := Nat.land bits who
    let bits := if isNamed then bits else without bits mask
    let mode := match sign with
      | '+' => Nat.lor mode bits
      | '-' => without mode bits
      | _ => Nat.lor (without mode (Nat.land who 0o777)) bits
    clause isDirectory who isNamed mask fuel mode (rest.drop letters.length)

def octal? (s : List Char) : Option Nat :=
  if s.isEmpty || !s.all fun c => '0' ≤ c && c ≤ '7' then none
  else some (s.foldl (fun n c => n * 8 + (c.toNat - '0'.toNat)) 0)

/-- The rights after a change, if it can be understood. `mask` holds rights that are not given to
classes that are not named. -/
def change? (isDirectory : Bool) (mask mode : Nat) (text : String) : Option Nat :=
  match octal? text.toList with
  | some n => if n ≤ allBits then some n else none
  | none =>
    (Text.splitAt ',' text.toList).foldlM (fun mode part => do
      let classes := part.takeWhile "ugoa".toList.contains
      let who := if classes.isEmpty then allBits
        else classes.foldl (fun n c => Nat.lor n (classBits c)) 0
      let rest := part.drop classes.length
      if rest.isEmpty then none
      clause isDirectory who (!classes.isEmpty) mask (rest.length + 1) mode rest) mode

def letters (mode : Nat) : String :=
  let three (n special : Nat) (letter : Char) : List Char :=
    [if n / 4 % 2 = 1 then 'r' else '-', if n / 2 % 2 = 1 then 'w' else '-',
      if special % 2 = 1 then (if n % 2 = 1 then letter else letter.toUpper)
      else if n % 2 = 1 then 'x' else '-']
  String.ofList (three (mode / 64 % 8) (mode / 2048) 's' ++
    three (mode / 8 % 8) (mode / 1024) 's' ++ three (mode % 8) (mode / 512) 't')

def digits (mode : Nat) : String := String.ofList (Nat.toDigits 8 mode)

end Formulary.Host.Tool.Mode
