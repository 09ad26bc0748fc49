import Formulary.Machine.Host.Script.Read

/-!
# Scripts: arithmetic

Whole-number expressions of the shell, with numbers of 64 bits with sign. Reading and computing go
together: an operand that does not count, behind `&&`, `||` or `?`, is read but not computed.
-/

namespace Formulary.Host.Script.Arithmetic

/-- The variables an expression sees and changes. One that holds no number stands for its text. -/
abbrev Values := List (String × Except String Int)

/-- Why an expression comes to nothing. -/
inductive Fault where
  /-- It cannot be read, or not be computed. -/
  | reading (reason : String)
  /-- A variable holds no number. -/
  | value (text : String)
  /-- It cannot be computed with 64 bits, which ends the process. -/
  | overflow

/-- What is left of an expression, and the values by now. -/
structure Position where
  rest : List Char
  values : Values

abbrev Compute := StateT Position (Except Fault)

def greatest : Int := 9223372036854775807

/-- The number of 64 bits with sign that a number wraps around to. -/
def wrap (n : Int) : Int := n.bmod (Nat.pow 2 64)

/-- The value of a digit in some base. -/
def digitValue (c : Char) : Nat :=
  if c.isDigit then c.toNat - '0'.toNat
  else if 'a' ≤ c && c ≤ 'z' then c.toNat - 'a'.toNat + 10
  else if 'A' ≤ c && c ≤ 'Z' then c.toNat - 'A'.toNat + 10
  else 99

/-- The number that digits of a base stand for. -/
def ofDigits? (base : Nat) (digits : List Char) : Option Nat :=
  if digits.isEmpty || digits.any fun c => base ≤ digitValue c then none
  else some (digits.foldl (fun n c => n * base + digitValue c) 0)

/-- A number as it is written: decimal, octal behind a zero, hexadecimal behind `0x`. -/
def number? (s : String) : Option Int :=
  match s.toList with
  | '0' :: 'x' :: digits | '0' :: 'X' :: digits => (ofDigits? 16 digits).map Int.ofNat
  | '0' :: d :: digits => (ofDigits? 8 (d :: digits)).map Int.ofNat
  | digits => (ofDigits? 10 digits).map Int.ofNat

/-- The number at the start of a text, and what follows it. -/
def leading? (s : List Char) : Option (Int × List Char) :=
  let read (base : Nat) (s : List Char) : Option (Int × List Char) :=
    let digits := s.takeWhile fun c => digitValue c < base
    (ofDigits? base digits).map fun n => (Int.ofNat n, s.drop digits.length)
  match s with
  | '0' :: 'x' :: d :: rest | '0' :: 'X' :: d :: rest =>
    if digitValue d < 16 then read 16 (d :: rest) else some (0, s.drop 1)
  | '0' :: _ => read 8 s
  | _ => read 10 s

/-- The number is one of 64 bits with sign. -/
def inRange? (n : Int) : Option Int := if -greatest - 1 ≤ n && n ≤ greatest then some n else none

/-- A number with blanks around it and perhaps a sign, read in some way. -/
def withSign? (read : String → Option Int) (s : String) : Option Int :=
  let isBlank (c : Char) : Bool := " \t\n".toList.contains c
  let body := ((s.toList.dropWhile isBlank).reverse.dropWhile isBlank).reverse
  let n := match body with
    | '-' :: rest => (read (String.ofList rest)).map Neg.neg
    | '+' :: rest => read (String.ofList rest)
    | _ => read (String.ofList body)
  n.bind inRange?

/-- A number with blanks around it and perhaps a sign. -/
def signed? : String → Option Int := withSign? number?

/-- A decimal number with blanks around it and perhaps a sign. -/
def decimal? : String → Option Int := withSign? fun s => (ofDigits? 10 s.toList).map Int.ofNat

def skipBlanks : Compute Unit := modify fun p =>
  { p with rest := p.rest.dropWhile fun c => " \t\n".toList.contains c }

/-- Passes over an operator if it comes next and is not the start of one of the longer ones. -/
def operator (s : String) (longer : List String) : Compute Bool := do
  skipBlanks
  let p ← get
  if s.toList.isPrefixOf p.rest && !(longer.any fun l => l.toList.isPrefixOf p.rest) then
    set { p with rest := p.rest.drop s.length }
    return true
  else return false

/-- A binary operator: how it is written, what it is not to be taken for, and what it does. -/
structure Binary where
  sign : String
  longer : List String
  apply : Int → Int → Compute Int

def ofBool (b : Bool) : Int := if b then 1 else 0

/-- A binary operator that always has a value. -/
def total (sign : String) (longer : List String) (f : Int → Int → Int) : Binary :=
  ⟨sign, longer, fun a b => return wrap (f a b)⟩

/-- A binary operator that has no value for zero. -/
def division (sign : String) (f : Int → Int → Int) : Binary :=
  ⟨sign, [sign ++ "="], fun a b => do
    if b = 0 then throw (.reading "division by zero")
    if b = -1 && a < -greatest then throw .overflow
    return wrap (f a b)⟩

def bits (n : Int) : UInt64 := UInt64.ofNat (n.emod (Nat.pow 2 64)).toNat

def ofBits (b : UInt64) : Int := wrap b.toNat

/-- The levels of binary operators without a short cut, loosest first. -/
def levels : List (List Binary) := [
  [total "|" ["||", "|="] fun a b => ofBits (bits a ||| bits b)],
  [total "^" ["^="] fun a b => ofBits (bits a ^^^ bits b)],
  [total "&" ["&&", "&="] fun a b => ofBits (bits a &&& bits b)],
  [total "==" [] fun a b => ofBool (a = b), total "!=" [] fun a b => ofBool (a ≠ b)],
  [total "<=" [] fun a b => ofBool (a ≤ b), total ">=" [] fun a b => ofBool (b ≤ a),
    total "<" ["<<"] fun a b => ofBool (a < b), total ">" [">>"] fun a b => ofBool (b < a)],
  [total "<<" ["<<="] fun a b => a * (Nat.pow 2 (b % 64).toNat : Nat),
    total ">>" [">>="] fun a b => a.shiftRight (b % 64).toNat],
  [total "+" ["+="] fun a b => a + b, total "-" ["-="] fun a b => a - b],
  [total "*" ["*="] fun a b => a * b, division "/" Int.tdiv, division "%" Int.tmod]]

/-- Operators that assign, with what they do with the old value. -/
def assigning : List Binary := [
  total "=" ["=="] fun _ b => b,
  total "+=" [] fun a b => a + b, total "-=" [] fun a b => a - b,
  total "*=" [] fun a b => a * b, total "&=" [] fun a b => ofBits (bits a &&& bits b),
  total "^=" [] fun a b => ofBits (bits a ^^^ bits b),
  total "|=" [] fun a b => ofBits (bits a ||| bits b),
  total "<<=" [] fun a b => a * (Nat.pow 2 (b % 64).toNat : Nat),
  total ">>=" [] fun a b => a.shiftRight (b % 64).toNat,
  { division "/=" Int.tdiv with longer := [] }, { division "%=" Int.tmod with longer := [] }]

def valueOf (name : String) : Compute Int := do
  match (← get).values.lookup name with
  | some (.ok n) => return n
  | some (.error text) => throw (.value text)
  | none => return 0

/-- The first of some operators that comes next, which is passed over. -/
def anyOf : List Binary → Compute (Option Binary)
  | [] => return none
  | b :: rest => do if ← operator b.sign b.longer then return some b else anyOf rest

def name? : Compute (Option String) := do
  skipBlanks
  let p ← get
  let name := String.ofList (p.rest.takeWhile Environment.isNameChar)
  if !Environment.isName name then return none
  set { p with rest := p.rest.drop name.length }
  return some name

/-- A variable and the operator that assigns to it, both passed over if they are what comes next. -/
def target? : Compute (Option (String × Binary)) := do
  let before ← get
  match ← name? with
  | none => return none
  | some name =>
    match ← anyOf assigning with
    | some b => return some (name, b)
    | none =>
      set before
      return none

/-- The operands a level joins, from left to right. -/
def joinLevel (live : Bool) (operand : Compute Int) (level : List Binary) : Nat → Int → Compute Int
  | 0, n => return n
  | fuel + 1, n => do
    match ← anyOf level with
    | none => return n
    | some b =>
      let m ← operand
      joinLevel live operand level fuel (← if live then b.apply n m else pure m)

def joinLevels (live : Bool) (operand : Compute Int) : List (List Binary) → Compute Int
  | [] => operand
  | level :: tighter => do
    let n ← joinLevels live operand tighter
    joinLevel live (joinLevels live operand tighter) level (← get).rest.length n

mutual

/-- A whole expression: an assignment or a choice. What is not `live` only has to be well-formed. -/
def expression (live : Bool) : Nat → Compute Int
  | 0 => throw (.reading "expecting primary")
  | fuel + 1 => do
    match ← target? with
    | none => choice live fuel
    | some (name, b) =>
      let m ← expression live fuel
      if !live then return m
      let value ← b.apply (← if b.sign = "=" then pure 0 else valueOf name) m
      modify fun p => { p with values := (name, .ok value) :: p.values }
      return value

/-- One of two expressions, or the one there is. -/
def choice (live : Bool) : Nat → Compute Int
  | 0 => throw (.reading "expecting primary")
  | fuel + 1 => do
    let n ← disjunction live fuel
    if !(← operator "?" []) then return n
    let yes ← expression (live && n ≠ 0) fuel
    if !(← operator ":" []) then throw (.reading "expecting ':'")
    let no ← choice (live && n = 0) fuel
    return if n ≠ 0 then yes else no

def disjunction (live : Bool) : Nat → Compute Int
  | 0 => throw (.reading "expecting primary")
  | fuel + 1 => do
    let n ← conjunction live fuel
    if !(← operator "||" []) then return n
    let m ← disjunction (live && n = 0) fuel
    return ofBool (n ≠ 0 || m ≠ 0)

def conjunction (live : Bool) : Nat → Compute Int
  | 0 => throw (.reading "expecting primary")
  | fuel + 1 => do
    let n ← joinLevels live (operand live fuel) levels
    if !(← operator "&&" []) then return n
    let m ← conjunction (live && n ≠ 0) fuel
    return ofBool (n ≠ 0 && m ≠ 0)

/-- A number, a variable, or an expression in brackets or behind a sign. -/
def operand (live : Bool) : Nat → Compute Int
  | 0 => throw (.reading "expecting primary")
  | fuel + 1 => do
    if ← operator "(" [] then
      let n ← expression live fuel
      if !(← operator ")" []) then throw (.reading "expecting ')'")
      return n
    if ← operator "!" ["!="] then return ofBool ((← operand live fuel) = 0)
    if ← operator "~" [] then return ofBits (~~~ bits (← operand live fuel))
    if ← operator "-" ["-="] then return wrap (-(← operand live fuel))
    if ← operator "+" ["+="] then return ← operand live fuel
    match ← name? with
    | some name => if live then valueOf name else return 0
    | none =>
      let p ← get
      match leading? p.rest with
      | some (n, rest) =>
        set { p with rest }
        return min n greatest
      | none => throw (.reading "expecting primary")

end

/-- What an expression comes to, with the values after it. -/
def evaluate (values : Values) (text : String) : Except Fault (Int × Values) := do
  let s := text.toList
  let (n, p) ← (expression true (6 * s.length + 10)).run ⟨s, values⟩
  if p.rest.any fun c => !" \t\n".toList.contains c then throw (.reading "expecting EOF")
  return (n, p.values)

end Formulary.Host.Script.Arithmetic
