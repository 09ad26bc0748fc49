import Formulary.Machine.Host.Script.Process

/-!
# Tools: options

What the arguments of a tool say: options by a letter or by a name, in any order among the other
arguments, up to `--`. A name may be cut short as long as it is clear.
-/

namespace Formulary.Host

/-- A tool: what it does with its arguments, and the status it ends with. -/
abbrev Tool := List String → Script.Run Nat

namespace Tool

open Formulary.Host.Script

/-! ### Complaints -/

/-- A complaint of a tool. What it has put out comes before. -/
def warn (text : String) : Run Unit := do
  Run.flush
  Run.complain ((← Run.own Local.arg0) ++ ": " ++ text ++ "\n")

def refuse (text : String) : Run Nat := do
  warn text
  return 1

def hint : Run Unit := do
  Run.complain ("Try '" ++ (← Run.own Local.arg0) ++ " --help' for more information.\n")

/-- A complaint about the arguments of a tool, after which it ends with a status. -/
def misuse (status : Nat) (text : String) : Run Nat := do
  warn text
  hint
  return status

/-! ### Options -/

/-- Whether an option has a value. -/
inductive Valued where
  | never
  | always
  /-- If one stands in the same word. -/
  | maybe
  deriving DecidableEq

/-- The options of a tool. -/
structure OptionTable where
  /-- The letters. -/
  letters : List (Char × Valued)
  /-- The names, each with the letter it stands for, and those without a letter of their own. -/
  names : List (String × Char × Valued) := []
  /-- The first other argument ends the options. -/
  ordered : Bool := false
  /-- Arguments that are no options whatever they begin with; the first of them ends the options. -/
  isPlain : String → Bool := fun _ => false

namespace OptionTable

/-- Letters, each with a colon behind it if it has a value and two if it may have one. -/
def readLetters : List Char → List (Char × Valued)
  | [] => []
  | c :: ':' :: ':' :: rest => (c, .maybe) :: readLetters rest
  | c :: ':' :: rest => (c, .always) :: readLetters rest
  | c :: rest => (c, .never) :: readLetters rest

/-- A table from letters and from names, each with a letter behind an equals sign. What stands in
`nameless` are letters that only names stand for. -/
def make (letters nameless : String) (names : List String) : OptionTable :=
  let known := readLetters letters.toList
  let all := known ++ readLetters nameless.toList
  { letters := known
    names := names.filterMap fun entry =>
      match (Text.splitAt '=' entry.toList) with
      | [name, [c]] => (all.lookup c).map fun valued => (String.ofList name, c, valued)
      | _ => none }

/-- What arguments say: the options with their values, and the other arguments. -/
structure Said where
  options : List (Char × String) := []
  others : List String := []

/-- Stands for the question how a tool is used. -/
def helpMark : Char := '\x01'

/-- Stands for the question which version of a tool there is. -/
def versionMark : Char := '\x02'

/-- The names that a word may stand for. -/
def candidates (t : OptionTable) (word : String) : List (String × Char × Valued) :=
  let names := t.names ++ [("help", helpMark, .never), ("version", versionMark, .never)]
  match names.find? fun n => n.1 = word with
  | some n => [n]
  | none => names.filter fun n => word.toList.isPrefixOf n.1.toList

/-- Reads arguments; what is wrong with them if they cannot be read. -/
def read (t : OptionTable) : (fuel : Nat) → List String → Except String Said
  | 0, args => .ok { others := args }
  | _ + 1, [] => .ok {}
  | fuel + 1, arg :: rest => do
    let entry (c : Char) (value : String) (rest : List String) : Except String Said := do
      let said ← read t fuel rest
      return { said with options := (c, value) :: said.options }
    if t.isPlain arg then return { others := arg :: rest }
    match arg.toList with
    | ['-', '-'] => return { others := rest }
    | '-' :: '-' :: body =>
      let name := body.takeWhile (· ≠ '=')
      let value := body.drop name.length
      match t.candidates (String.ofList name) with
      | [] => throw ("unrecognized option '" ++ arg ++ "'")
      | (full, c, valued) :: more =>
        if more.any fun n => n.2.1 ≠ c then
          throw ("option '" ++ arg ++ "' is ambiguous; possibilities:" ++
            String.join (((full, c, valued) :: more).map fun n => " '--" ++ n.1 ++ "'"))
        if (c = helpMark || c = versionMark) && value.isEmpty then
          return { options := [(c, "")] }
        match valued, value with
        | .never, _ :: _ => throw ("option '--" ++ full ++ "' doesn't allow an argument")
        | .always, [] =>
          match rest with
          | v :: rest => entry c v rest
          | [] => throw ("option '--" ++ full ++ "' requires an argument")
        | _, _ => entry c (String.ofList (value.drop 1)) rest
    | '-' :: c :: more =>
      match t.letters.lookup c with
      | none => throw ("invalid option -- '" ++ c.toString ++ "'")
      | some .never =>
        entry c "" (if more.isEmpty then rest else String.ofList ('-' :: more) :: rest)
      | some .maybe => entry c (String.ofList more) rest
      | some .always =>
        match more, rest with
        | [], [] => throw ("option requires an argument -- '" ++ c.toString ++ "'")
        | [], v :: rest => entry c v rest
        | _, _ => entry c (String.ofList more) rest
    | _ =>
      if t.ordered then return { others := arg :: rest }
      let said ← read t fuel rest
      return { said with others := arg :: said.others }

end OptionTable

/-- The value of an option that was given; the last one counts. -/
def valueOf (said : OptionTable.Said) (c : Char) : Option String :=
  (said.options.reverse.lookup c)

def given (said : OptionTable.Said) (c : Char) : Bool := said.options.any fun o => o.1 = c

/-- The last of some options that was given. -/
def lastOf (said : OptionTable.Said) (cs : List Char) : Option Char :=
  (said.options.reverse.find? fun o => cs.contains o.1).map Prod.fst

/-- How many arguments there can be at most, letters counted one by one. -/
def countLetters (args : List String) : Nat := args.foldl (fun n a => n + a.length + 1) 1

/-- Performs something with the arguments of a tool, which ends with a status if they are wrong. -/
def withOptions (t : OptionTable) (wrong : Nat) (args : List String)
    (f : OptionTable.Said → Run Nat) : Run Nat := do
  match t.read (countLetters args) args with
  | .error e => misuse wrong e
  | .ok said =>
    let name ← Run.own Local.arg0
    if given said OptionTable.helpMark then
      Run.put ("Usage: " ++ name ++ " [OPTION]...\n")
      return 0
    else if given said OptionTable.versionMark then
      Run.put (name ++ "\n")
      return 0
    else f said

end Tool

end Formulary.Host
