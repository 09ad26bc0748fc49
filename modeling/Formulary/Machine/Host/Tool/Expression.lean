import Formulary.Machine.Host.Tool.Input
import Formulary.Machine.Host.Tool.Regex

/-!
# Tools: expressions

`expr` computes with its arguments, which are texts; some of them are numbers.
-/

namespace Formulary.Host.Tool.Expression

open Formulary.Host.Script

/-- Why an expression comes to nothing. -/
inductive Fault where
  | incomplete (after : String)
  | unexpected (argument : String)
  | unclosed (after : String)
  | notClosed (instead : String)
  | noNumber
  | byZero
  | pattern (reason : String)

def Fault.message : Fault → String
  | incomplete after => "syntax error: missing argument after " ++ quoted after
  | unexpected argument => "syntax error: unexpected argument " ++ quoted argument
  | unclosed after => "syntax error: expecting ')' after " ++ quoted after
  | notClosed instead => "syntax error: expecting ')' instead of " ++ quoted instead
  | noNumber => "non-integer argument"
  | byZero => "division by zero"
  | pattern reason => reason

/-- A step of computing: what is left of the arguments. -/
abbrev Compute := StateT (List String) (Except Fault)

/-- The number a text is, if it is one. -/
def number? (s : String) : Option Int :=
  match s.toList with
  | '-' :: rest => (Text.natural? rest).map fun n => -(n : Int)
  | _ => (Text.natural? s.toList).map Int.ofNat

def isNull (s : String) : Bool := s.isEmpty || number? s = some 0

def withNumbers (f : Int → Int → Except Fault Int) (a b : String) : Except Fault String :=
  match number? a, number? b with
  | some m, some n => (f m n).map toString
  | _, _ => .error .noNumber

/-- Two texts compared: as numbers if both are. -/
def compared (f : Ordering → Bool) (a b : String) : Except Fault String :=
  let order := match number? a, number? b with
    | some m, some n => compare m n
    | _, _ => compare a b
  .ok (if f order then "1" else "0")

/-- What a text matches from its start: the group if there is one, else how many characters. -/
def matched (text pattern : String) : Except Fault String :=
  match Regex.parse {} pattern with
  | .error reason => .error (.pattern reason)
  | .ok e =>
    let grouped := 0 < Regex.countGroups {} pattern
    match Regex.here? e none text.toList with
    | some m =>
      if grouped then .ok (String.ofList ((m.groups.lookup 1).getD []))
      else .ok (toString m.own.length)
    | none => .ok (if grouped then "" else "0")

/-- Where a text first has one of some characters, counted from one. -/
def firstOf (text characters : String) : Nat :=
  match text.toList.findIdx? fun c => characters.toList.contains c with
  | some i => i + 1
  | none => 0

/-- So many characters of a text from a place on, counted from one. -/
def portion (text start count : String) : String :=
  match number? start, number? count with
  | some s, some n =>
    if s ≤ 0 || n ≤ 0 then "" else String.ofList ((text.toList.drop (s.toNat - 1)).take n.toNat)
  | _, _ => ""

/-- The operators of each level, loosest first. -/
def levels : List (List (String × (String → String → Except Fault String))) := [
  [("|", fun a b => .ok (if !isNull a then a else if !isNull b then b else "0"))],
  [("&", fun a b => .ok (if isNull a || isNull b then "0" else a))],
  [("<", compared (· == .lt)), ("<=", compared (· != .gt)), ("=", compared (· == .eq)),
    ("==", compared (· == .eq)), ("!=", compared (· != .eq)), (">=", compared (· != .lt)),
    (">", compared (· == .gt))],
  [("+", withNumbers fun m n => .ok (m + n)), ("-", withNumbers fun m n => .ok (m - n))],
  [("*", withNumbers fun m n => .ok (m * n)),
    ("/", withNumbers fun m n => if n = 0 then .error .byZero else .ok (m.tdiv n)),
    ("%", withNumbers fun m n => if n = 0 then .error .byZero else .ok (m.tmod n))],
  [(":", matched)]]

/-- The operands of a level joined from left to right. -/
def joined (operand : Compute String)
    (level : List (String × (String → String → Except Fault String))) :
    (fuel : Nat) → String → Compute String
  | 0, a => return a
  | fuel + 1, a => do
    match ← get with
    | [] => return a
    | sign :: rest =>
      match level.lookup sign with
      | none => return a
      | some f =>
        set rest
        if rest.isEmpty then throw (.incomplete sign)
        joined operand level fuel (← f a (← operand))

def levelsFrom (operand : Compute String) :
    List (List (String × (String → String → Except Fault String))) → Compute String
  | [] => operand
  | level :: tighter => do
    let a ← levelsFrom operand tighter
    joined (levelsFrom operand tighter) level (← get).length a

/-- The next argument, which must be there. -/
def argument (after : String) : Compute String := do
  match ← get with
  | [] => throw (.incomplete after)
  | text :: rest =>
    set rest
    return text

/-- An operand: a text, an expression in brackets, or something about a text. -/
def operand : (fuel : Nat) → (before : String) → Compute String
  | 0, before => throw (.incomplete before)
  | fuel + 1, before => do
    let word ← argument before
    match word with
    | "(" =>
      let value ← levelsFrom (operand fuel "(") levels
      match ← get with
      | ")" :: rest =>
        set rest
        return value
      | instead :: _ => throw (.notClosed instead)
      | [] => throw (.unclosed value)
    | ")" => throw (.unexpected ")")
    | "+" => argument "+"
    | "length" => return toString (← operand fuel "length").length
    | "match" =>
      let text ← operand fuel "match"
      matched text (← operand fuel text)
    | "index" =>
      let text ← operand fuel "index"
      return toString (firstOf text (← operand fuel text))
    | "substr" =>
      let text ← operand fuel "substr"
      let start ← operand fuel text
      return portion text start (← operand fuel start)
    | _ => return word

def evaluate (args : List String) : Except Fault String := do
  let (value, rest) ← (levelsFrom (operand (args.length + 1) "") levels).run args
  match rest with
  | [] => return value
  | argument :: _ => throw (.unexpected argument)

def expr : Tool := fun args => do
  let args := if args.head? = some "--" then args.tail else args
  if args.isEmpty then return ← misuse 2 "missing operand"
  match evaluate args with
  | .ok value =>
    Run.put (value ++ "\n")
    return if isNull value then 1 else 0
  | .error e =>
    warn e.message
    return 2

end Formulary.Host.Tool.Expression
