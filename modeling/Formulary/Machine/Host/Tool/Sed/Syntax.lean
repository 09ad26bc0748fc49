import Formulary.Machine.Host.Tool.Regex

/-!
# The stream editor: commands

What a script of `sed` says: commands, each with the lines it is meant for. Commands stand in one
row; a block and a jump name the place in the row where to go on.
-/

namespace Formulary.Host.Tool.Sed

/-- Lines. -/
inductive Address where
  | number (n : Nat)
  /-- The first line and every so many behind it. -/
  | each (first step : Nat)
  | last
  /-- Those in which an expression is found; the one that was used last if there is none. -/
  | matching (expression : Option Regex.Alternatives)

/-- Where a range of lines ends. -/
inductive Limit where
  | address (a : Address)
  /-- So many lines further on. -/
  | further (n : Nat)
  /-- At a multiple of a number. -/
  | multiple (n : Nat)

/-- The lines a command is meant for. -/
inductive Lines where
  | all
  | single (a : Address)
  | range (first : Address) (last : Limit)

/-- How letters of a replacement are written. -/
inductive Case where
  | plain
  | upper
  | lower
  deriving DecidableEq

/-- A part of a replacement. -/
inductive Part where
  | char (c : Char)
  /-- What a group matched; everything for group 0. -/
  | group (number : Nat)
  /-- Letters are written in a way from here on. -/
  | case (c : Case)
  /-- The next letter is written in a way. -/
  | once (c : Case)

/-- Where a command writes. -/
inductive Target where
  | output
  | complaints
  | file (path : String)
  deriving DecidableEq

/-- What `s` does with a line. -/
structure Substitution where
  expression : Option Regex.Alternatives
  parts : List Part
  everywhere : Bool := false
  /-- The first match that is replaced. -/
  occurrence : Nat := 1
  print : Bool := false
  target : Option Target := none

/-- What is done with a line. -/
inductive Action where
  | open (close : Nat)
  | close
  | comment
  /-- Text put out behind the line. -/
  | append (text : List Char)
  | insert (text : List Char)
  | change (text : List Char)
  | jump (label : String)
  | jumpIfReplaced (label : String)
  | jumpUnlessReplaced (label : String)
  | delete
  | deleteFirst
  | showName
  | holdToSpace (add : Bool)
  | spaceToHold (add : Bool)
  | exchange
  | list (width : Option Nat)
  | next
  | addNext
  | print
  | printFirst
  | quit (status : Nat)
  | quitAtOnce (status : Nat)
  | readFile (path : String)
  | readLine (path : String)
  | substitute (s : Substitution)
  | write (target : Target)
  | writeFirst (target : Target)
  | replaceChars (source target : List Char)
  | number
  | clear

/-- A command with its lines. -/
structure Command where
  lines : Lines := .all
  negated : Bool := false
  action : Action

/-- A script: its commands, and the places of its labels. -/
structure Script where
  commands : Array Command := #[]
  labels : List (String × Nat) := []
  /-- Lines are not put out unless a command says so. -/
  quiet : Bool := false

instance : Inhabited Command := ⟨{ action := .comment }⟩

end Formulary.Host.Tool.Sed
