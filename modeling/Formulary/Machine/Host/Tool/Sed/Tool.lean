import Formulary.Machine.Host.Tool.Sed.Edit

/-!
# The stream editor: the tool

The arguments of `sed`: pieces of a script, each given as it is or in a file, and files to edit.
-/

namespace Formulary.Host.Tool.Sed

open Formulary.Host.Script

/-- Where a piece of a script comes from. -/
inductive Origin where
  | argument (number : Nat)
  | file (path : String)

/-- A piece of a script. -/
structure Piece where
  origin : Origin
  text : List Char

def usageText (name : String) : String :=
  "Usage: " ++ name ++ " [OPTION]... \x7bscript-only-if-no-other-script\x7d [input-file]...\n\n"

def table : OptionTable :=
  OptionTable.make "ne:f:Eri::sl:uz" "123" ["quiet=n", "silent=n", "expression=e", "file=f",
    "regexp-extended=E", "in-place=i", "separate=s", "line-length=l", "unbuffered=u",
    "null-data=z", "posix=1", "debug=2", "follow-symlinks=3"]

/-- A complaint about how the tool is used. -/
def misused (text : Option String) : Run Nat := do
  match text with
  | some text => warn text
  | none => pure ()
  Run.complain (usageText (← Run.own Local.arg0))
  return 1

/-- The pieces of a script, in the order of the options. -/
def piecesOf : (count : Nat) → List (Char × String) → Run (Except String (List Piece))
  | _, [] => return .ok []
  | count, (c, value) :: rest => do
    match c with
    | 'e' => return (← piecesOf (count + 1) rest).map (⟨.argument count, value.toList⟩ :: ·)
    | 'f' =>
      match ← contents value with
      | .ok s =>
        let s := if s.getLast? = some '\n' then s.dropLast else s
        return (← piecesOf count rest).map (⟨.file value, s⟩ :: ·)
      | .error e => return .error ("couldn't open file " ++ value ++ ": " ++ e.words)
    | _ => piecesOf count rest

/-- The text of a script put together from its pieces. -/
def joined (pieces : List Piece) : List Char :=
  ((pieces.map Piece.text).intersperse ['\n']).flatten

/-- The place in front of a complaint, from how much of a script had been read. -/
def placed (used : Nat) (text : String) : List Piece → String
  | [] => text
  | p :: rest =>
    if p.text.length < used && !rest.isEmpty then placed (used - p.text.length - 1) text rest
    else match p.origin with
      | .argument n =>
        "-e expression #" ++ toString n ++ ", char " ++ toString used ++ ": " ++ text
      | .file path =>
        let line := (p.text.take used).countP (· = '\n') + 1
        "file " ++ path ++ " line " ++ toString line ++ ": " ++ text

/-- The text of a fault of a script. -/
def faultText (pieces : List Piece) : Fault → String
  | .located used text => placed used text pieces
  | .whole text =>
    match pieces.getLast? with
    | some ⟨.argument n, _⟩ => "-e expression #" ++ toString n ++ ", char 0: " ++ text
    | some ⟨.file path, _⟩ => "file " ++ path ++ " line 0: " ++ text
    | none => text
  | .plain text => text

def sed : Tool := fun args => do
  match table.read (countLetters args) args with
  | .error e => misused (some e)
  | .ok said =>
    if given said OptionTable.helpMark || given said OptionTable.versionMark then
      Run.put (usageText (← Run.own Local.arg0))
      return 0
    let isGiven := given said 'e' || given said 'f'
    match isGiven, said.others with
    | false, [] => misused none
    | _, _ =>
      let chosen := if isGiven then said.options else ('e', said.others.head?.getD "") :: []
      let paths := if isGiven then said.others else said.others.tail
      match ← piecesOf 1 chosen with
      | .error e =>
        warn e
        return 4
      | .ok pieces =>
        let style : Regex.Style := { extended := given said 'E' || given said 'r' }
        match Read.script style (joined pieces) with
        | .error fault =>
          warn (faultText pieces fault)
          return match fault with
            | .plain _ => 4
            | .located _ _ | .whole _ => 1
        | .ok script =>
          let inPlace := valueOf said 'i'
          if inPlace.isSome && paths.isEmpty then
            warn "no input files"
            return 1
          if given said 'u' then Run.modifyOwn fun l => { l with immediate := true }
          edit script {
            quiet := given said 'n' || script.quiet
            separate := given said 's' || inPlace.isSome
            inPlace
            ending := if given said 'z' then Char.ofNat 0 else '\n'
            width := ((valueOf said 'l').bind fun v => Text.natural? v.toList).getD 70 }
            (inputs paths)

end Formulary.Host.Tool.Sed
