import Formulary.Data.StringMap

/-!
# Formulas

What a formula file says: the package, where its source is, how it is built, what is done after
the installation and how the result is tried out.
-/

namespace Formulary

/-- Who the package is. -/
structure Package where
  name : String
  desc : Option String := none
  homepage : Option String := none
  license : Option String := none
  /-- The release version; inferred from the archive's address when absent. -/
  version : Option String := none
  /-- Programs that must be found before a build. -/
  dependsOn : List String := []
  deriving DecidableEq

/-- The release source: an archive with its checksum, or a repository with its branch. -/
structure Source where
  url : Option String := none
  checksum : Option String := none
  vcs : Option String := none
  branch : Option String := none
  deriving DecidableEq

/-- The development source. -/
structure HeadSource where
  vcs : String
  /-- The repository's own default when absent. -/
  branch : Option String := none
  deriving DecidableEq

/-- An entry of the build's flag list. -/
inductive Flag where
  /-- A flag as it is, with placeholders. -/
  | text (template : String)
  /-- A symbol bound to a value, or to the variable of its short name. -/
  | symbol (name : String) (value : Option String)
  deriving DecidableEq

/-- How the package is built. -/
structure Build where
  toolchain : String := "go"
  /-- The toolchain's first argument. -/
  verb : String := "build"
  target : String
  /-- The program's file name; the package's name when absent. -/
  binary : Option String := none
  /-- Whether the standard arguments, which say where the program is written, are passed. -/
  stdArgs : Bool := true
  /-- The argument that announces the joined flags. -/
  flagsArg : String := "-ldflags"
  flags : List Flag := []
  /-- More arguments, placed before the flags. -/
  args : List String := []
  environment : StringMap := ∅
  deriving DecidableEq

/-- The shells a completion script can be written for. -/
inductive Shell where
  | bash
  | zsh
  | fish
  deriving DecidableEq, Repr

/-- How a program that writes completion scripts is told the shell. -/
inductive ShellStyle where
  /-- The shell's name as an argument. -/
  | plain
  /-- The shell's name as a flag. -/
  | flag
  /-- The shell's name as the value of an option. -/
  | option
  /-- Not at all. -/
  | silent
  deriving DecidableEq, Repr

/-- Completion scripts to write after the installation. -/
structure Completions where
  /-- The program that writes them; the built one when absent. -/
  executable : Option String := none
  subcommand : String := "completion"
  shells : List Shell := [.bash, .zsh, .fish]
  style : ShellStyle := .plain
  /-- The base of the scripts' file names; the program's name when absent. -/
  baseName : Option String := none
  deriving DecidableEq

/-- A step after the installation. -/
inductive Step where
  | completions (settings : Completions)
  deriving DecidableEq

/-- An assertion about the installed program. -/
structure Assertion where
  /-- The name it is reported under; its position when absent. -/
  id : Option String := none
  args : List String := []
  /-- A text the output must hold. -/
  expect : String
  /-- The exit status. -/
  status : Int32 := 0
  deriving DecidableEq

/-- A formula. -/
structure Formula where
  package : Package
  source : Source
  head : Option HeadSource := none
  build : Build
  postInstall : List Step := []
  tests : List Assertion := []
  /-- Variables of the formula's own. -/
  bindings : StringMap := ∅
  deriving DecidableEq

def Formula.binaryName (f : Formula) : String := f.build.binary.getD f.package.name

def Step.name : Step → String
  | .completions settings => "completions (" ++ settings.subcommand ++ ")"

def Shell.name : Shell → String
  | .bash => "bash"
  | .zsh => "zsh"
  | .fish => "fish"

def ShellStyle.args (style : ShellStyle) (shell : Shell) : List String :=
  match style with
  | .plain => [shell.name]
  | .flag => ["--" ++ shell.name]
  | .option => ["--shell=" ++ shell.name]
  | .silent => []

end Formulary
