import Formulary.Resolution

/-!
# Toolchain calls

The command line a build runs, and its text for a reader: each part in quotes unless every
character of it stands for itself in a shell.
-/

namespace Formulary

/-- A command line with the environment set for it. -/
structure Invocation where
  program : String
  args : List String
  env : List (String × String)
  deriving DecidableEq

namespace Invocation

/-- The standard arguments, which say where the program is written. -/
def standardArgs (artifact : Path) : List String := ["-trimpath", "-o", artifact.text]

/-- The toolchain's command line: the verb, the arguments, the standard arguments, the flags and
the target. -/
def ofBuild (b : Build) (r : Resolution) : Invocation where
  program := b.toolchain
  args := [b.verb] ++ r.args ++ (if b.stdArgs then standardArgs r.artifact else []) ++
    (if r.flags.isEmpty then [] else [b.flagsArg, r.joinedFlags]) ++ [b.target]
  env := r.environment

/-- A character that needs no quotes. -/
def isSafe (c : Char) : Bool :=
  c.isAlphanum || ['-', '_', '.', '/', '=', ':', ',', '+', '%', '@'].contains c

def shellWord (s : String) : String :=
  if !s.isEmpty && s.toList.all isSafe then s
  else "'" ++ Text.replace s "'" "'\\''" ++ "'"

/-- The text of a command line. The program and the names of variables are shown as they are. -/
def display (i : Invocation) : String :=
  String.join (i.env.map fun (key, value) => key ++ "=" ++ shellWord value ++ " ") ++ i.program ++
    String.join (i.args.map fun arg => " " ++ shellWord arg)

end Invocation

end Formulary
