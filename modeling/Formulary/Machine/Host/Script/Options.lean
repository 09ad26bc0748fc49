import Formulary.Machine.Host.Script.Arithmetic
import Formulary.Machine.Host.Script.Process

/-!
# Scripts: arguments of the shell's own commands

The options of the shell's own commands are letters, which come before all other arguments. A text
in single quotes is one that the shell reads back as it is.
-/

namespace Formulary.Host.Script.Options

/-- What stands behind a letter: whether it is known, and whether it has a value. -/
def kind? (c : Char) : List Char → Option Bool
  | d :: ':' :: rest => if c = d then some true else kind? c rest
  | d :: rest => if c = d then some false else kind? c rest
  | [] => none

/-- Options with their values, and the other arguments; what is wrong if they cannot be read.
`letters` are those that are known, each with a colon behind it if it has a value. -/
def read (letters : String) : (fuel : Nat) → List String →
    Except String (List (Char × String) × List String)
  | 0, args => .ok ([], args)
  | _ + 1, [] => .ok ([], [])
  | fuel + 1, arg :: rest =>
    match arg.toList with
    | ['-', '-'] => .ok ([], rest)
    | '-' :: c :: more =>
      let entry (value : String) (rest : List String) :
          Except String (List (Char × String) × List String) := do
        let (options, others) ← read letters fuel rest
        return ((c, value) :: options, others)
      match kind? c letters.toList, more, rest with
      | none, _, _ => .error ("Illegal option -" ++ c.toString)
      | some false, [], _ => entry "" rest
      | some false, _, _ => entry "" (String.ofList ('-' :: more) :: rest)
      | some true, [], value :: rest => entry value rest
      | some true, [], [] => .error ("No arg for -" ++ c.toString ++ " option")
      | some true, _, _ => entry (String.ofList more) rest
    | _ => .ok ([], arg :: rest)

/-- The options and the other arguments of a command, which cannot go on if they are wrong. -/
def take (command letters : String) (args : List String) :
    Run (List (Char × String) × List String) := do
  let count := args.foldl (fun n a => n + a.length + 1) 1
  match read letters count args with
  | .ok result => return result
  | .error e => Run.abort (command ++ ": " ++ e)

def given (options : List (Char × String)) (c : Char) : Bool := options.any fun o => o.1 = c

/-- A number that is given to a command. -/
def number (command s : String) : Run Nat :=
  match Arithmetic.decimal? s with
  | some n =>
    if 0 ≤ n && n ≤ Run.largestNumber then return n.toNat
    else Run.abort (command ++ ": Illegal number: " ++ s)
  | none => Run.abort (command ++ ": Illegal number: " ++ s)

/-- The number that is given first, or another one. -/
def numberOr (command : String) (absent : Nat) (args : List String) : Run Nat :=
  match args with
  | [] => return absent
  | s :: _ => number command s

/-- Characters in single quotes, where single quotes themselves stand in double ones. -/
def singleQuoted (s : String) : String :=
  let rec go : (fuel : Nat) → List Char → List Char
    | 0, _ => []
    | fuel + 1, s =>
      let plain := s.takeWhile (· ≠ '\'')
      let behind := s.drop plain.length
      let quotes := behind.takeWhile (· = '\'')
      let rest := behind.drop quotes.length
      ['\''] ++ plain ++ ['\''] ++
        (if quotes.isEmpty then [] else ['"'] ++ quotes ++ ['"']) ++
        (if rest.isEmpty then [] else go fuel rest)
  String.ofList (go (s.length + 1) s.toList)

end Formulary.Host.Script.Options
