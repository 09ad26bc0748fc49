import Formulary.Machine.Host.Script.Arithmetic

/-!
# Tools: numbers with fractions

How numbers with fractions are read and written: a number is first brought to the nearest one of so
many binary digits, and that one is written exactly, rounded to the digits that are asked for.
-/

namespace Formulary.Host.Tool

open Formulary.Host.Script

/-- A number that is not negative, or none. -/
inductive Fraction where
  | ratio (num den : Nat)
  | infinite
  | undefined

namespace Fraction

/-- The whole number nearest to a quotient, the even one of two that are as near. -/
def nearest (num den : Nat) : Nat :=
  let q := num / den
  let twice := 2 * (num % den)
  if twice < den then q else if den < twice then q + 1 else if q % 2 = 0 then q else q + 1

/-- A power of a base over a number, or below it. -/
def scale (base : Nat) (exponent : Int) (num den : Nat) : Nat × Nat :=
  if 0 ≤ exponent then (num * Nat.pow base exponent.toNat, den)
  else (num, den * Nat.pow base (-exponent).toNat)

/-- The exponent of the greatest power of a base that is not above a quotient, which is not zero. -/
def exponentOf (base num den : Nat) : Int :=
  let guess : Int := (Nat.log2 num : Int) - Nat.log2 den
  let guess := if base = 2 then guess else guess * 30103 / 100000
  let isBelow (e : Int) : Bool :=
    let (d, n) := scale base e den num
    d ≤ n
  let candidates := [guess + 2, guess + 1, guess, guess - 1, guess - 2]
  (candidates.find? isBelow).getD (guess - 3)

/-- The nearest number of so many binary digits. -/
def rounded (digits : Nat) : Fraction → Fraction
  | ratio num den =>
    if num = 0 || den = 0 then ratio 0 1
    else
      let e := exponentOf 2 num den - (digits : Int) + 1
      let (n, d) := scale 2 (-e) num den
      let (n, d) := scale 2 e (nearest n d) 1
      ratio n d
  | f => f

/-- The fraction at the start of a text without its sign, and what follows it. -/
def read? (s : List Char) : Option (Fraction × List Char) :=
  let lower := s.map Char.toLower
  if "infinity".toList.isPrefixOf lower then some (infinite, s.drop 8)
  else if "inf".toList.isPrefixOf lower then some (infinite, s.drop 3)
  else if "nan".toList.isPrefixOf lower then some (undefined, s.drop 3)
  else
    match lower with
    | '0' :: 'x' :: d :: _ =>
      if Arithmetic.digitValue d < 16 then
        let digits := (s.drop 2).takeWhile fun c => Arithmetic.digitValue c < 16
        some (ratio ((Arithmetic.ofDigits? 16 digits).getD 0) 1, s.drop (2 + digits.length))
      else some (ratio 0 1, s.drop 1)
    | _ =>
      let whole := s.takeWhile Char.isDigit
      let behind := s.drop whole.length
      let part := match behind with
        | '.' :: more => more.takeWhile Char.isDigit
        | _ => []
      if whole.isEmpty && part.isEmpty then none
      else
        let behind := match behind with
          | '.' :: more => more.drop part.length
          | _ => behind
        let n := (Text.natural? (whole ++ part)).getD 0
        let exponent : Option (Int × List Char) := match behind with
          | e :: '-' :: more =>
            let digits := more.takeWhile Char.isDigit
            if e.toLower = 'e' then
              (Text.natural? digits).map fun (m : Nat) => (-(m : Int), more.drop digits.length)
            else none
          | e :: more =>
            let more := if more.head? = some '+' then more.tail else more
            let digits := more.takeWhile Char.isDigit
            if e.toLower = 'e' then
              (Text.natural? digits).map fun (m : Nat) => ((m : Int), more.drop digits.length)
            else none
          | [] => none
        let (shift, rest) := exponent.getD (0, behind)
        let shift := shift - (part.length : Int)
        if 400 < shift then some (infinite, rest)
        else if shift < -5000 then some (ratio 0 1, rest)
        else
          let (num, den) := scale 10 shift n 1
          some (ratio num den, rest)

/-- A number filled up with zeros on its left to a width. -/
def zeros (width : Nat) (s : String) : String :=
  String.ofList (List.replicate (width - s.length) '0') ++ s

/-- A number with so many digits behind the point. -/
def fixed (places num den : Nat) : String :=
  let digits := zeros (places + 1) (toString (nearest (num * Nat.pow 10 places) den))
  let whole := String.ofList (digits.toList.take (digits.length - places))
  if places = 0 then whole
  else whole ++ "." ++ String.ofList (digits.toList.drop (digits.length - places))

/-- The digits of a number, the first before the point and so many behind it, and its exponent. -/
def scientificDigits (places num den : Nat) : String × Int :=
  if num = 0 then (zeros (places + 1) "0", 0)
  else
    let e := exponentOf 10 num den
    let (n, d) := scale 10 ((places : Int) - e) num den
    let digits := toString (nearest n d)
    if places + 1 < digits.length then (String.ofList digits.toList.dropLast, e + 1)
    else (digits, e)

def withExponent (digits : String) (e : Int) : String :=
  let first := String.ofList (digits.toList.take 1)
  let rest := String.ofList (digits.toList.drop 1)
  first ++ (if rest.isEmpty then "" else "." ++ rest) ++ "e" ++ (if e < 0 then "-" else "+") ++
    zeros 2 (toString e.natAbs)

/-- A text of a number without the zeros at its end behind a point. -/
def trimmed (s : String) : String :=
  if s.toList.contains '.' then
    let cs := s.toList.reverse.dropWhile (· = '0')
    String.ofList (if cs.head? = some '.' then cs.tail else cs).reverse
  else s

/-- A number in the shorter of the two forms, with so many digits. -/
def general (keepZeros : Bool) (digits num den : Nat) : String :=
  let digits := max digits 1
  let (shown, e) := scientificDigits (digits - 1) num den
  if -4 ≤ e && e < (digits : Int) then
    let text := fixed ((digits : Int) - 1 - e).toNat num den
    if keepZeros then text else trimmed text
  else if keepZeros then withExponent shown e
  else
    let kept := (shown.toList.reverse.dropWhile (· = '0')).reverse
    withExponent (String.ofList (if kept.isEmpty then ['0'] else kept)) e

/-- A number as a directive with a letter writes it. -/
def write (letter : Char) (alternate : Bool) (precision : Option Nat) : Fraction → String
  | infinite => "inf"
  | undefined => "nan"
  | ratio num den =>
    let p := precision.getD 6
    match letter with
    | 'e' =>
      let (digits, e) := scientificDigits p num den
      withExponent digits e
    | 'g' => general alternate p num den
    | _ => fixed p num den

end Fraction

end Formulary.Host.Tool
