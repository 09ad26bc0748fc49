import Formulary.Text.Octets

/-!
# Scripts: the commands

The commands of the machine's shell, as they are read from a script. Words are lists of pieces; a
piece in quotes is neither cut into fields nor read as a pattern.
-/

namespace Formulary.Host.Script

/-- What becomes of a file that is opened for writing. -/
inductive Writing where
  /-- It is emptied, unless the shell has been told to be careful. -/
  | careful
  /-- It is emptied in any case. -/
  | empty
  /-- It is kept, and grows at its end. -/
  | append
  deriving DecidableEq

mutual

/-- A part of a word. -/
inductive Piece where
  /-- Characters that stand for themselves. -/
  | text (s : String) (quoted : Bool)
  /-- A variable's value, changed in some way. -/
  | variable (name : String) (change : Change) (quoted : Bool)
  /-- What a command writes. -/
  | output (body : Command) (quoted : Bool)
  /-- What an arithmetic expression comes to. -/
  | number (expression : List Piece) (quoted : Bool)

/-- What is done with a variable's value. -/
inductive Change where
  | plain
  /-- Its length takes its place. -/
  | length
  /-- Another word takes the place of a missing one (or, if so marked, of an empty one). -/
  | default (alsoEmpty : Bool) (word : List Piece)
  /-- Another word takes the place of a missing one for good. -/
  | assign (alsoEmpty : Bool) (word : List Piece)
  /-- A missing one is an error. -/
  | demand (alsoEmpty : Bool) (word : List Piece)
  /-- Another word takes its place unless it is missing. -/
  | alternative (alsoEmpty : Bool) (word : List Piece)
  /-- What matches a pattern at its start is cut off. -/
  | trimStart (longest : Bool) (pattern : List Piece)
  /-- What matches a pattern at its end is cut off. -/
  | trimEnd (longest : Bool) (pattern : List Piece)
  /-- Nothing that is known; performing it is an error. -/
  | unknown

/-- A change of a file descriptor. -/
inductive Redirection where
  /-- It reads from a file. -/
  | input (fd : Nat) (file : List Piece)
  /-- It writes to a file. -/
  | output (fd : Nat) (writing : Writing) (file : List Piece)
  /-- It reads from a file, which may be new, and writes to it. -/
  | change (fd : Nat) (file : List Piece)
  /-- It becomes a copy of another one, or is closed if the word is a dash. -/
  | copy (fd : Nat) (source : List Piece)
  /-- It reads a text from the script. -/
  | here (fd : Nat) (body : List Piece)

/-- A command. -/
inductive Command where
  /-- Assignments, words and redirections, at a line. -/
  | simple (line : Nat) (assignments : List (String × List Piece)) (words : List (List Piece))
      (redirections : List Redirection)
  /-- Commands each of which reads what the one before it writes. -/
  | pipeline (stages : List Command)
  /-- A command whose success counts as failure and the other way round. -/
  | negated (body : Command)
  /-- The second is performed if the first succeeds. -/
  | both (first second : Command)
  /-- The second is performed if the first fails. -/
  | either (first second : Command)
  /-- One after another. -/
  | sequence (commands : List Command)
  /-- A command that is not waited for. -/
  | background (body : Command)
  /-- A command in a process of its own, which begins with redirections. -/
  | subshell (line : Nat) (body : Command) (redirections : List Redirection)
  /-- A command with redirections. -/
  | redirected (line : Nat) (body : Command) (redirections : List Redirection)
  | conditional (test yes no : Command)
  /-- A loop that goes on while its test succeeds, or, if so marked, until it does. -/
  | loop (untilTrue : Bool) (test body : Command)
  /-- A loop over words, or over the parameters if there are none. -/
  | forEach (line : Nat) (name : String) (words : Option (List (List Piece))) (body : Command)
  /-- The first arm with a pattern that the word matches. -/
  | choice (line : Nat) (word : List Piece) (arms : List (List (List Piece) × Command))
  /-- A function with its name. -/
  | define (name : String) (body : Command)

end

instance : Inhabited Command := ⟨.sequence []⟩
instance : Inhabited Piece := ⟨.text "" false⟩

abbrev Word := List Piece

end Formulary.Host.Script
