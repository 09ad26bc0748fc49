import Formulary.Machine.Host.Script.Arithmetic
import Formulary.Machine.Host.Tool.Input

/-!
# Tools: conditions

What `test` finds about texts, numbers and files. The shell's own command and the program read their
arguments differently: the one token by token, the other by their number.
-/

namespace Formulary.Host.Tool.Condition

open Formulary.Host.Script

/-! ### What is looked at -/

/-- What a condition may look at. -/
structure View where
  files : Files
  cwd : Location
  endpoints : List (Nat × Endpoint)

/-- What a path leads to, with its place. -/
def View.found? (v : View) (path : String) : Option (Location × Node) :=
  (v.files.find v.cwd (pathOf path)).toOption

def View.node? (v : View) (path : String) : Option Node := (v.found? path).map Prod.snd

def View.isLink (v : View) (path : String) : Bool :=
  match v.files.findHere v.cwd (pathOf path) with
  | .ok (_, .link _) => true
  | _ => false

def isDevice : Node → Bool
  | .sink | .zeros | .full => true
  | _ => false

/-- The node is a stream with a name. -/
def isChannel : Node → Bool
  | .channel _ => true
  | _ => false

def isFilled : Node → Bool
  | .file f => !f.data.isEmpty
  | .directory | .program _ => true
  | _ => false

def modeOf : Node → Nat
  | .file f => f.mode
  | .directory | .program _ => 0o755
  | .link _ => 0o777
  | _ => 0o666

/-- When a node was changed; what was there before the run counts as older than everything. -/
def changedOf : Node → Nat
  | .file f => f.changed
  | _ => 0

/-- The test about a text or a file that a letter stands for. -/
def about? (v : View) (letter : Char) : Option (String → Bool) :=
  let node (f : Node → Bool) : Option (String → Bool) := some fun s => (v.node? s).any f
  match letter with
  | 'n' => some fun s => !s.isEmpty
  | 'z' => some fun s => s.isEmpty
  | 'e' | 'r' | 'w' | 'O' | 'G' => node fun _ => true
  | 'f' => node Node.isRegular
  | 'd' => node Node.isDirectory
  | 's' => node isFilled
  | 'x' => node fun n => n.isDirectory || n.isExecutable
  | 'c' => node isDevice
  | 'p' => node isChannel
  | 'u' => node fun n => modeOf n / 2048 % 2 = 1
  | 'g' => node fun n => modeOf n / 1024 % 2 = 1
  | 'k' => node fun n => modeOf n / 512 % 2 = 1
  | 'h' | 'L' => some v.isLink
  | 'b' | 'S' => some fun _ => false
  | _ => none

/-- One file is newer than another one, or the other one is not there. -/
def isNewer (v : View) (a b : String) : Bool :=
  match v.node? a, v.node? b with
  | some m, some n => changedOf n < changedOf m
  | some _, none => true
  | _, _ => false

/-- Two paths lead to one and the same file. -/
def isSameFile (v : View) (a b : String) : Bool :=
  match v.found? a, v.found? b with
  | some (l, .file f), some (m, .file g) => l = m || Files.isSame f g
  | some (l, _), some (m, _) => l = m
  | _, _ => false

/-- The test between two texts or files that an operator stands for. -/
def between? (v : View) (op : String) : Option (String → String → Bool) :=
  match op with
  | "=" => some (· = ·)
  | "!=" => some (· ≠ ·)
  | "<" => some (· < ·)
  | ">" => some fun a b => b < a
  | "-nt" => some (isNewer v)
  | "-ot" => some fun a b => isNewer v b a
  | "-ef" => some (isSameFile v)
  | _ => none

/-- The test between two numbers that an operator stands for. -/
def numeric? (op : String) : Option (Int → Int → Bool) :=
  match op with
  | "-eq" => some (· = ·)
  | "-ne" => some (· ≠ ·)
  | "-lt" => some (· < ·)
  | "-le" => some (· ≤ ·)
  | "-gt" => some fun a b => b < a
  | "-ge" => some fun a b => b ≤ a
  | _ => none

/-! ### The shell's own command -/

/-- What an argument is taken for. -/
inductive Token where
  | none
  | operand
  | unary
  | binary
  | negation
  | both
  | either
  | opening
  | closing
  deriving DecidableEq

/-- The letter of an operator in front of its operand. -/
def unaryLetter? (s : String) : Option Char :=
  match s.toList with
  | ['-', c] => if "rwxefdcbpugkstznhOGLS".toList.contains c then some c else Option.none
  | _ => Option.none

/-- What an operator is taken for wherever it stands. -/
def operator? (v : View) (s : String) : Option Token :=
  if (unaryLetter? s).isSome then some .unary
  else if (between? v s).isSome || (numeric? s).isSome then some .binary
  else [("!", Token.negation), ("-a", .both), ("-o", .either), ("(", .opening),
    (")", .closing)].lookup s

/-- What the argument at an index is taken for. -/
def tokenAt (v : View) (args : Array String) (i : Nat) : Token :=
  match args[i]? with
  | Option.none => .none
  | some s =>
    match operator? v s, args[i + 1]? with
    | some .unary, some next =>
      if args[i + 2]?.isSome && operator? v next = some .binary then .operand else .unary
    | some .unary, Option.none | some .opening, Option.none => .operand
    | some t, _ => t
    | Option.none, _ => .operand

def number (s : String) : Except String Int :=
  match Arithmetic.decimal? s with
  | some n => .ok n
  | Option.none => .error ("Illegal number: " ++ s)

/-- The test with an operator between the arguments at an index and two further on. -/
def comparison (v : View) (args : Array String) (i : Nat) : Except String (Bool × Nat) := do
  let a := args.getD i ""
  let op := args.getD (i + 1) ""
  match args[i + 2]? with
  | Option.none => .error (op ++ ": argument expected")
  | some b =>
    match between? v op, numeric? op with
    | some f, _ => return (f a b, i + 2)
    | Option.none, some f => return (f (← number a) (← number b), i + 2)
    | Option.none, Option.none => return (false, i + 2)

/-- The test with an operator in front of its operand. -/
def single (v : View) (op operand : String) : Except String Bool := do
  match unaryLetter? op with
  | some 't' =>
    let _ ← number operand
    return false
  | some c => return ((about? v c).map (· operand)).getD false
  | Option.none => return false

mutual

/-- Conditions joined by `-o`, from an index on; as well the index of the last argument used. -/
def disjunction (v : View) (args : Array String) : Nat → Nat → Except String (Bool × Nat)
  | 0, i => .ok (false, i)
  | fuel + 1, i => do
    let (a, i) ← conjunction v args fuel i
    if tokenAt v args (i + 1) = .either then
      let (b, i) ← disjunction v args fuel (i + 2)
      return (a || b, i)
    else return (a, i)

def conjunction (v : View) (args : Array String) : Nat → Nat → Except String (Bool × Nat)
  | 0, i => .ok (false, i)
  | fuel + 1, i => do
    let (a, i) ← primary v args fuel i
    if tokenAt v args (i + 1) = .both then
      let (b, i) ← conjunction v args fuel (i + 2)
      return (a && b, i)
    else return (a, i)

def primary (v : View) (args : Array String) : Nat → Nat → Except String (Bool × Nat)
  | 0, i => .ok (false, i)
  | fuel + 1, i => do
    match tokenAt v args i with
    | .none => return (false, i)
    | .negation =>
      let (a, last) ← primary v args fuel (i + 1)
      return (!a, if args[i + 1]?.isNone then i else last)
    | .opening =>
      if tokenAt v args (i + 1) = .closing then return (false, i + 1)
      let (a, i) ← disjunction v args fuel (i + 1)
      if tokenAt v args (i + 1) = .closing then return (a, i + 1)
      else .error "closing paren expected"
    | .unary => return (← single v (args.getD i "") (args.getD (i + 1) ""), i + 1)
    | _ =>
      if tokenAt v args (i + 1) = .binary then comparison v args i
      else return (!(args.getD i "").isEmpty, i)

end

/-- What the arguments from an index on come to, where none may be left over. -/
def whole (v : View) (args : Array String) (start : Nat) : Except String Bool := do
  let (result, last) ← disjunction v args (4 * args.size + 4) start
  if (args[last]?).isSome && (args[last + 1]?).isSome then
    let text := args.getD last ""
    .error (if text.isEmpty then "unexpected operator" else text ++ ": unexpected operator")
  else return result

/-- What a condition of the shell's own command comes to. -/
def evaluate (v : View) : (fuel : Nat) → List String → Except String Bool
  | 0, _ | _, [] => .ok false
  | fuel + 1, args => do
    let count := args.length
    match args with
    | [a, op, b] =>
      if operator? v op = some .binary then return (← comparison v #[a, op, b] 0).1
    | _ => pure ()
    if count = 3 || count = 4 then
      if args.head? = some "(" && args.getLast? = some ")" then
        return ← whole v (args.drop 1).dropLast.toArray 0
      if args.head? = some "!" then return !(← evaluate v fuel args.tail)
    whole v args.toArray 0

/-- The condition of `test`, or of `[`, which must be closed. -/
def ofShell (v : View) (name : String) (args : List String) : Except String Bool :=
  if name = "[" then
    match args.getLast? with
    | some last =>
      if last.toList.head? = some ']' then evaluate v (args.length + 1) args.dropLast
      else .error "missing ]"
    | Option.none => .error "missing ]"
  else evaluate v (args.length + 1) args

def view : Run View := do
  let s ← get
  return ⟨s.files, s.own.cwd, s.own.endpoints⟩

/-! ### The program -/

/-- A step through the arguments, by an index. -/
abbrev Walk := StateT Nat (Except String)

/-- The arguments end where there should be another one. -/
def beyond {α : Type} (args : Array String) : Walk α :=
  throw ("missing argument after " ++ quoted (args.back?.getD ""))

def here (args : Array String) : Walk String := do
  match args[← get]? with
  | some s => return s
  | Option.none => beyond args

def pass : Walk Unit := modify (· + 1)

/-- A whole number of any size, with blanks around it. -/
def wholeNumber (s : String) : Walk Int := do
  let isBlank (c : Char) : Bool := c = ' ' || c = '\t'
  let body := ((s.toList.dropWhile isBlank).reverse.dropWhile isBlank).reverse
  let (negative, digits) := match body with
    | '-' :: rest => (true, rest)
    | '+' :: rest => (false, rest)
    | _ => (false, body)
  if digits.isEmpty || !digits.all Char.isDigit then throw ("invalid integer " ++ quoted s)
  let n : Int := (Text.natural? digits).getD 0
  return if negative then -n else n

def isBinary (v : View) (s : String) : Bool :=
  s = "==" || s ≠ "<" && s ≠ ">" && ((between? v s).isSome || (numeric? s).isSome)

def compared (v : View) (args : Array String) : Walk Bool := do
  let i ← get
  let a := args.getD i ""
  let op := args.getD (i + 1) ""
  let b := args.getD (i + 2) ""
  set (i + 3)
  match between? v (if op = "==" then "=" else op), numeric? op with
  | some f, _ => return f a b
  | Option.none, some f => return f (← wholeNumber a) (← wholeNumber b)
  | Option.none, Option.none => return false

/-- The test with an operator in front of its operand at the present index. -/
def tested (v : View) (args : Array String) : Walk Bool := do
  let op ← here args
  let letter := (op.toList[1]?).getD ' '
  if letter ≠ 't' && letter ≠ 'N' && (about? v letter).isNone then
    throw (quoted op ++ ": unary operator expected")
  pass
  let operand ← here args
  pass
  if letter = 't' then
    let _ ← wholeNumber operand
    return false
  return ((about? v letter).map (· operand)).getD false

/-- The text at the present index is not empty. -/
def isThere (args : Array String) : Walk Bool := do
  let s ← here args
  pass
  return !s.isEmpty

/-- The argument looks like an operator in front of its operand. -/
def looksUnary (s : String) : Bool := s.length = 2 && s.toList.head? = some '-'

def ofTwo (v : View) (args : Array String) : Walk Bool := do
  let a ← here args
  if a = "!" then
    pass
    return !(← isThere args)
  else if looksUnary a then tested v args
  else beyond args

mutual

def joinedByOr (v : View) (args : Array String) : Nat → Walk Bool
  | 0 => return false
  | fuel + 1 => do
    let a ← joinedByAnd v args fuel
    if args[← get]? = some "-o" then
      pass
      let b ← joinedByOr v args fuel
      return a || b
    else return a

def joinedByAnd (v : View) (args : Array String) : Nat → Walk Bool
  | 0 => return false
  | fuel + 1 => do
    let a ← term v args fuel
    if args[← get]? = some "-a" then
      pass
      let b ← joinedByAnd v args fuel
      return a && b
    else return a

def term (v : View) (args : Array String) : Nat → Walk Bool
  | 0 => return false
  | fuel + 1 => do
    let i ← get
    let s ← here args
    if s = "!" then
      pass
      let _ ← here args
      return !(← term v args fuel)
    if s = "(" then
      pass
      let _ ← here args
      let inner := args.toList.drop (i + 2)
      let count := (inner.takeWhile (· ≠ ")")).length + 1
      let result ← byCount v args fuel (if 4 ≤ count then args.size - (i + 1) else count)
      match args[← get]? with
      | some ")" =>
        pass
        return result
      | some found => throw ("')' expected, found " ++ quoted found)
      | Option.none => throw "')' expected"
    if i + 3 ≤ args.size && isBinary v (args.getD (i + 1) "") then compared v args
    else if looksUnary s then tested v args
    else isThere args

/-- The condition that the next so many arguments make. -/
def byCount (v : View) (args : Array String) : Nat → Nat → Walk Bool
  | 0, _ => return false
  | fuel + 1, count => do
    let i ← get
    match count with
    | 1 => isThere args
    | 2 => ofTwo v args
    | 3 => ofThree v args fuel
    | _ =>
      if count = 4 && args[i]? = some "!" then
        pass
        return !(← ofThree v args fuel)
      if count = 4 && args[i]? = some "(" && args[i + 3]? = some ")" then
        pass
        let result ← ofTwo v args
        pass
        return result
      joinedByOr v args fuel

def ofThree (v : View) (args : Array String) : Nat → Walk Bool
  | 0 => return false
  | fuel + 1 => do
    let i ← get
    let op := args.getD (i + 1) ""
    if isBinary v op then compared v args
    else if args[i]? = some "!" then
      pass
      return !(← ofTwo v args)
    else if args[i]? = some "(" && args[i + 2]? = some ")" then
      pass
      let result ← isThere args
      pass
      return result
    else if op = "-a" || op = "-o" then joinedByOr v args fuel
    else throw (quoted op ++ ": binary operator expected")

end

/-- What a condition of the program comes to. -/
def ofProgram (v : View) (args : List String) : Except String Bool := do
  if args.isEmpty then return false
  let (result, used) ← (byCount v args.toArray (8 * args.length + 8) args.length).run 0
  match args[used]? with
  | some extra => throw ("extra argument " ++ quoted extra)
  | Option.none => return result

def test (isBracket : Bool) : Tool := fun args => do
  let result ← if isBracket then
      if args.getLast? = some "]" then pure (ofProgram (← view) args.dropLast)
      else pure (.error "missing ']'")
    else pure (ofProgram (← view) args)
  match result with
  | .ok holds => return if holds then 0 else 1
  | .error e =>
    warn e
    return 2

end Formulary.Host.Tool.Condition
