/-!
# The grammar of arguments

A command takes one operand and some options. An option is a switch or has a value, which follows
behind `=` or as an argument of its own; one with a letter may be given by it, the value right
behind. After `--` every argument is an operand. Nothing may be given twice.
-/

namespace Formulary.CommandLine

/-! ### Rules -/

/-- What values look like. -/
inductive Form where
  | text
  /-- A number of 64 bits. -/
  | count
  /-- One of some words. -/
  | word (choices : List String)
  deriving DecidableEq

/-- How an option is given. -/
inductive OptionKind where
  | switch
  | value (form : Form) (needed : Bool) (absent : Option String)
  deriving DecidableEq

/-- An option of a command. -/
structure OptionRule where
  /-- The name behind two dashes. -/
  long : String
  /-- The letter behind one dash. -/
  letter : Option Char := none
  kind : OptionKind := .switch
  help : String
  deriving DecidableEq

/-- What a command takes. -/
structure CommandRule where
  summary : String
  operand : String
  operandForm : Form := .text
  operandHelp : String
  options : List OptionRule := []
  deriving DecidableEq

namespace Form

/-- The number a text stands for. A plus sign may stand before its digits. -/
def count? (s : String) : Option Nat :=
  let digits := match s.toList with
    | '+' :: rest => rest
    | all => all
  if digits.isEmpty || !digits.all Char.isDigit then none
  else
    let n := digits.foldl (fun n c => 10 * n + (c.toNat - '0'.toNat)) 0
    if n < Nat.pow 2 64 then some n else none

def admits : Form → String → Bool
  | text, _ => true
  | count, s => (count? s).isSome
  | word choices, s => choices.contains s

end Form

/-! ### Reading -/

/-- What was given for a command. -/
structure Given where
  operand : Option String := none
  values : List (String × String) := []
  switches : List String := []
  deriving DecidableEq

/-- Why reading ends before its end. -/
inductive Ending where
  /-- The arguments do not follow the rules. -/
  | misuse
  /-- Help was asked for. -/
  | help
  deriving DecidableEq

namespace Given

def value? (g : Given) (long : String) : Option String := g.values.lookup long

def has (g : Given) (long : String) : Bool := g.switches.contains long

def putOperand (g : Given) (r : CommandRule) (s : String) : Except Ending Given :=
  if g.operand.isSome || !r.operandForm.admits s then .error .misuse
  else .ok { g with operand := some s }

def putSwitch (g : Given) (long : String) : Except Ending Given :=
  if g.has long then .error .misuse else .ok { g with switches := g.switches ++ [long] }

def putValue (g : Given) (long : String) (form : Form) (s : String) : Except Ending Given :=
  if (g.value? long).isSome || !form.admits s then .error .misuse
  else .ok { g with values := g.values ++ [(long, s)] }

end Given

/-- An argument that is taken for options and not for a value: a dash alone is a value. -/
def isOption (s : String) : Bool :=
  match s.toList with
  | '-' :: _ :: _ => true
  | _ => false

/-- An option that waits for its value. -/
structure Waiting where
  long : String
  form : Form

namespace CommandRule

/-- An option behind two dashes, with what follows its name behind `=`. -/
def readLong (r : CommandRule) (g : Given) (name : String) (attached : Option String) :
    Except Ending (Given × Option Waiting) :=
  if name = "help" && attached.isNone then .error .help
  else
    match r.options.find? fun o => o.long = name with
    | none => .error .misuse
    | some o =>
      match o.kind, attached with
      | .switch, none => (g.putSwitch name).map (·, none)
      | .switch, some _ => .error .misuse
      | .value form _ _, some s => (g.putValue name form s).map (·, none)
      | .value form _ _, none => .ok (g, some ⟨name, form⟩)

/-- Options by their letters. What follows the letter of one with a value is the value. -/
def readLetters (r : CommandRule) (g : Given) : List Char → Except Ending (Given × Option Waiting)
  | [] => .ok (g, none)
  | c :: rest =>
    if c = 'h' then .error .help
    else
      match r.options.find? fun o => o.letter = some c with
      | none => .error .misuse
      | some o =>
        match o.kind, rest with
        | .switch, _ =>
          match g.putSwitch o.long with
          | .ok g => r.readLetters g rest
          | .error e => .error e
        | .value form _ _, [] => .ok (g, some ⟨o.long, form⟩)
        | .value form _ _, '=' :: s => (g.putValue o.long form (String.ofList s)).map (·, none)
        | .value form _ _, s => (g.putValue o.long form (String.ofList s)).map (·, none)

def readOption (r : CommandRule) (g : Given) (arg : String) :
    Except Ending (Given × Option Waiting) :=
  match arg.toList with
  | '-' :: '-' :: name =>
    match name.span (· ≠ '=') with
    | (name, _ :: s) => r.readLong g (String.ofList name) (some (String.ofList s))
    | (name, []) => r.readLong g (String.ofList name) none
  | letters => r.readLetters g (letters.drop 1)

/-- Reads arguments; `plain` tells that every one of them is an operand. -/
def readFrom (r : CommandRule) : (plain : Bool) → Given → List String → Except Ending Given
  | _, g, [] => .ok g
  | plain, g, arg :: rest =>
    if plain || !isOption arg then
      match g.putOperand r arg with
      | .ok g => r.readFrom plain g rest
      | .error e => .error e
    else if arg = "--" then r.readFrom true g rest
    else
      match r.readOption g arg, rest with
      | .error e, _ => .error e
      | .ok (g, none), rest => r.readFrom false g rest
      | .ok (_, some _), [] => .error .misuse
      | .ok (g, some w), s :: rest =>
        if isOption s then .error .misuse
        else
          match g.putValue w.long w.form s with
          | .ok g => r.readFrom false g rest
          | .error e => .error e

/-- All a command needs is given. -/
def isComplete (r : CommandRule) (g : Given) : Bool :=
  g.operand.isSome && r.options.all fun o =>
    match o.kind with
    | .value _ true _ => (g.value? o.long).isSome
    | _ => true

def read (r : CommandRule) (args : List String) : Except Ending Given := do
  let g ← r.readFrom false {} args
  if r.isComplete g then return g else throw .misuse

/-- The value of an option: what was given, else what it has when nothing is. -/
def valueOf? (r : CommandRule) (g : Given) (long : String) : Option String :=
  (g.value? long).or do
    match (← r.options.find? fun o => o.long = long).kind with
    | .value _ _ absent => absent
    | .switch => none

/-- The number an option has. -/
def countOf (r : CommandRule) (g : Given) (long : String) : Nat :=
  ((r.valueOf? g long).bind Form.count?).getD 0

end CommandRule

end Formulary.CommandLine
