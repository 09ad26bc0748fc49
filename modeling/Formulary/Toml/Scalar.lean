import Formulary.Data.Value
import Formulary.Toml.Text
import Formulary.Text.Search

/-!
# Numbers, dates and truth values of a TOML document

A scalar without quotes is a word: the longest run of the characters such scalars are made of. The
whole word has to be one scalar, for nothing that may follow a value can continue a word.
-/

namespace Formulary.Toml

def isWordChar (c : Char) : Bool :=
  c.isAlphanum || c = '+' || c = '-' || c = '.' || c = '_' || c = ':'

/-! ### Whole numbers -/

def digitRun? (isDigit : Char → Bool) (s : List Char) : Option (List Char) :=
  let parts := Text.splitAt '_' s
  if parts.all fun part => !part.isEmpty && part.all isDigit then some parts.flatten else none

/-- The number digits write in a base. -/
def numberOf (base : Nat) (digits : List Char) : Nat :=
  digits.foldl (fun n c => n * base + (hexValue? c).getD 0) 0

/-- Decimal digits without a needless zero in front. -/
def decimal? (s : List Char) : Option (List Char) := do
  let digits ← digitRun? Char.isDigit s
  if digits.length = 1 || digits.head? ≠ some '0' then some digits else none

/-- A sign in front of a word, and the rest. -/
def sign : List Char → Bool × List Char
  | '-' :: s => (true, s)
  | '+' :: s => (false, s)
  | s => (false, s)

/-- A whole number of 64 bits with sign. -/
def integer? (s : List Char) : Option Int :=
  let based (base : Nat) (isDigit : Char → Bool) (s : List Char) : Option Int := do
    let n := numberOf base (← digitRun? isDigit s)
    if n < Nat.pow 2 63 then some n else none
  match s with
  | '0' :: 'x' :: s => based 16 (fun c => (hexValue? c).isSome) s
  | '0' :: 'o' :: s => based 8 (fun c => '0' ≤ c && c ≤ '7') s
  | '0' :: 'b' :: s => based 2 (fun c => c = '0' || c = '1') s
  | s => do
    let (negative, s) := sign s
    let n := numberOf 10 (← decimal? s)
    if negative then if n ≤ Nat.pow 2 63 then some (-n) else none
    else if n < Nat.pow 2 63 then some n else none

/-! ### Floating-point numbers -/

/-- The least number that a double rounds to infinity: midway between the largest double and the
next power of two. -/
def overflowBound : Nat := Nat.pow 2 1024 - Nat.pow 2 970

/-- Whether `digits` · 10 ^ `exponent` is too large for a double. Numbers whose size is far from
the bound are settled by their number of digits. -/
def overflows (digits : List Char) (exponent : Int) : Bool :=
  let n := numberOf 10 digits
  if n = 0 then false
  else
    let magnitude : Int := (toString n).length + exponent
    if magnitude > 320 then true
    else if magnitude < 300 then false
    else if exponent ≥ 0 then overflowBound ≤ n * Nat.pow 10 exponent.toNat
    else overflowBound * Nat.pow 10 (-exponent).toNat ≤ n

/-- An exponent, read after its letter. -/
def exponent? (s : List Char) : Option Int := do
  let (negative, s) := sign s
  let n := numberOf 10 (← digitRun? Char.isDigit s)
  return if negative then -n else n

/-- A floating-point number as it is written. One that is too large is refused, unless it is
negative. -/
def float? (s : List Char) : Option String :=
  let (negative, rest) := sign s
  if rest = ['i', 'n', 'f'] || rest = ['n', 'a', 'n'] then some (String.ofList s)
  else do
    let (mantissa, power) := match rest.span fun c => c ≠ 'e' && c ≠ 'E' with
      | (m, []) => (m, none)
      | (m, _ :: p) => (m, some p)
    let (whole, fraction) := match mantissa.span (· ≠ '.') with
      | (w, []) => (w, none)
      | (w, _ :: f) => (w, some f)
    let exponent ← match power with
      | some p => exponent? p
      | none => if fraction.isSome then some 0 else none
    let whole ← decimal? whole
    let fraction ← match fraction with
      | some f => digitRun? Char.isDigit f
      | none => some []
    if !negative && overflows (whole ++ fraction) (exponent - fraction.length) then none
    else some (String.ofList s)

/-! ### Dates and times -/

/-- Exactly `n` digits as a number, and the rest. -/
def fixedNumber? (n : Nat) (s : List Char) : Option (Nat × List Char) :=
  let digits := s.take n
  if digits.length = n && digits.all Char.isDigit then some (numberOf 10 digits, s.drop n) else none

/-- A number in decimal digits, at least `width` of them. -/
def padded (width n : Nat) : String :=
  let digits := toString n
  String.ofList (List.replicate (width - digits.length) '0') ++ digits

def isLeapYear (year : Nat) : Bool := year % 4 = 0 && (year % 100 ≠ 0 || year % 400 = 0)

def daysInMonth (year month : Nat) : Nat :=
  if month = 2 then if isLeapYear year then 29 else 28
  else if month = 4 || month = 6 || month = 9 || month = 11 then 30
  else 31

def date? (s : List Char) : Option (String × List Char) := do
  let (year, s) ← fixedNumber? 4 s
  let '-' :: s := s | none
  let (month, s) ← fixedNumber? 2 s
  let '-' :: s := s | none
  let (day, s) ← fixedNumber? 2 s
  if 1 ≤ month && month ≤ 12 && 1 ≤ day && day ≤ daysInMonth year month then
    some (padded 4 year ++ "-" ++ padded 2 month ++ "-" ++ padded 2 day, s)
  else none

/-- The fraction of a second to nine places, without zeros at its end. -/
def fractionText (digits : List Char) : String :=
  match ((digits.take 9).reverse.dropWhile (· = '0')).reverse with
  | [] => ""
  | kept => "." ++ String.ofList kept

/-- A time of day in normal form, and the rest. A minute may have a sixty-first second. -/
def time? (s : List Char) : Option (String × List Char) := do
  let (hour, s) ← fixedNumber? 2 s
  let ':' :: s := s | none
  let (minute, s) ← fixedNumber? 2 s
  let ':' :: s := s | none
  let (second, s) ← fixedNumber? 2 s
  let (fraction, s) ← match s with
    | '.' :: s =>
      match s.takeWhile Char.isDigit with
      | [] => none
      | digits => some (fractionText digits, s.dropWhile Char.isDigit)
    | s => some ("", s)
  if hour ≤ 23 && minute ≤ 59 && second ≤ 60 then
    some (padded 2 hour ++ ":" ++ padded 2 minute ++ ":" ++ padded 2 second ++ fraction, s)
  else none

/-- A distance from universal time in normal form, as all that is left. -/
def offset? : List Char → Option String
  | [] => some ""
  | ['Z'] => some "Z"
  | ['z'] => some "Z"
  | c :: s => do
    guard (c = '+' || c = '-')
    let (hour, s) ← fixedNumber? 2 s
    let ':' :: s := s | none
    let (minute, s) ← fixedNumber? 2 s
    guard (s.isEmpty && hour ≤ 23 && minute ≤ 59)
    let mark := if c = '-' && (hour ≠ 0 || minute ≠ 0) then "-" else "+"
    return mark ++ padded 2 hour ++ ":" ++ padded 2 minute

/-- A time of day with an optional distance from universal time, as all that is left. -/
def timeWithOffset? (s : List Char) : Option String := do
  let (time, s) ← time? s
  return time ++ (← offset? s)

/-- A date, a time, or both in one word. -/
def datetime? (s : List Char) : Option String :=
  match date? s with
  | some (date, []) => some date
  | some (date, c :: s) =>
    if c = 'T' || c = 't' then (timeWithOffset? s).map (date ++ "T" ++ ·) else none
  | none =>
    match time? s with
    | some (time, []) => some time
    | _ => none

/-! ### Words -/

/-- The scalar a word is. -/
def scalar? (word : List Char) : Option Value :=
  if word = "true".toList then some (.bool true)
  else if word = "false".toList then some (.bool false)
  else
    match datetime? word with
    | some text => some (.datetime text)
    | none =>
      match integer? word with
      | some i => some (.int i)
      | none => (float? word).map .float

/-- A scalar without quotes. A date may have its time after a blank. -/
def word? (s : List Char) : Option (Value × List Char) :=
  let word := s.takeWhile isWordChar
  let rest := s.dropWhile isWordChar
  match date? word, rest with
  | some (date, []), ' ' :: more =>
    let second := more.takeWhile isWordChar
    if second.isEmpty then some (.datetime date, rest)
    else (timeWithOffset? second).map fun time =>
      (.datetime (date ++ "T" ++ time), more.dropWhile isWordChar)
  | _, _ => (scalar? word).map (·, rest)

end Formulary.Toml
