import Formulary.CommandLine.Request

/-!
# Help

What the program says about itself: its version, its commands, the options of each, and completion
scripts for shells.
-/

namespace Formulary.CommandLine

def programName : String := "kettle"

def versionText : String := programName ++ " 0.1.0\n"

def programSummary : String := "Build, install and smoke-test a binary from a formula"

/-! ### Tables -/

/-- An entry of a table: what is explained and its explanation. -/
structure Entry where
  head : String
  text : String

def lineWidth : Nat := 100

def padded (width : Nat) (s : String) : String :=
  s ++ String.ofList (List.replicate (width - s.length) ' ')

def widest (entries : List Entry) : Nat := (entries.map fun e => e.head.length).foldl max 0

/-- Some explanation would leave its line, so that all stand on lines of their own. `margin` is
what a line has besides the head and the explanation. -/
def overflows (entries : List Entry) (margin : Nat) : Bool :=
  let taken := widest entries + margin
  40 < taken && taken ≤ lineWidth && entries.any fun e => lineWidth - taken < e.text.length

def table (title : String) (entries : List Entry) (margin : Nat) : String :=
  let line (e : Entry) :=
    if overflows entries margin then "  " ++ e.head ++ "\n          " ++ e.text ++ "\n"
    else "  " ++ padded (widest entries) e.head ++ "  " ++ e.text ++ "\n"
  title ++ ":\n" ++ String.join (entries.map line)

/-! ### Help texts -/

/-- The name a value has in help: that of its option in capitals. -/
def valueName (long : String) : String :=
  String.ofList (long.toList.map fun c => if c = '-' then '_' else c.toUpper)

def OptionRule.usage (o : OptionRule) : String :=
  match o.kind with
  | .switch => "--" ++ o.long
  | .value _ _ _ => "--" ++ o.long ++ " <" ++ valueName o.long ++ ">"

def OptionRule.entry (o : OptionRule) : Entry where
  head := (match o.letter with
    | some c => String.ofList ['-', c] ++ ", "
    | none => "    ") ++ o.usage
  text := match o.kind with
    | .value _ _ (some absent) => o.help ++ " [default: " ++ absent ++ "]"
    | _ => o.help

def helpRule : OptionRule := { long := "help", letter := some 'h', help := "Print help" }

def versionRule : OptionRule := { long := "version", letter := some 'V', help := "Print version" }

/-- An option that must be given. -/
def OptionRule.isNeeded (o : OptionRule) : Bool :=
  match o.kind with
  | .value _ needed _ => needed
  | .switch => false

def CommandRule.operandEntry (r : CommandRule) : Entry where
  head := "<" ++ r.operand ++ ">"
  text := match r.operandForm with
    | .word choices => r.operandHelp ++ " [possible values: " ++ ", ".intercalate choices ++ "]"
    | _ => r.operandHelp

def Verb.usage (v : Verb) : String :=
  let r := v.rule
  "Usage: " ++ programName ++ " " ++ v.name ++
    (if r.options.all OptionRule.isNeeded then "" else " [OPTIONS]") ++
    String.join ((r.options.filter OptionRule.isNeeded).map fun o => " " ++ o.usage) ++
    " <" ++ r.operand ++ ">\n"

def Verb.help (v : Verb) : String :=
  v.rule.summary ++ "\n\n" ++ v.usage ++ "\n" ++
    table "Arguments" [v.rule.operandEntry] 12 ++ "\n" ++
    table "Options" ((v.rule.options ++ [helpRule]).map OptionRule.entry) 8

def overview : String :=
  programSummary ++ "\n\nUsage: " ++ programName ++ " [COMMAND]\n\n" ++
    table "Commands"
      (Verb.all.map (fun v => ⟨v.name, v.rule.summary⟩) ++
        [⟨"help", "Print this message or the help of the given subcommand(s)"⟩]) 12 ++ "\n" ++
    table "Options" ([helpRule, versionRule].map OptionRule.entry) 8

/-- What is said to arguments that do not follow the rules. -/
def misuseText : String :=
  "error: the arguments were not understood\n\n" ++
    "Usage: " ++ programName ++ " [COMMAND]\n\nFor more information, try '--help'.\n"

/-! ### Completion scripts -/

/-- The words that may follow the program's name. -/
def firstWords : List String := Verb.all.map Verb.name ++ ["help"]

/-- A script that completes the program's name in a shell with its commands. -/
def completionScript (shell : String) : String :=
  let words := " ".intercalate firstWords
  let quoted := ", ".intercalate (firstWords.map fun w => "'" ++ w ++ "'")
  match shell with
  | "bash" => "complete -W \"" ++ words ++ "\" " ++ programName ++ "\n"
  | "zsh" => "#compdef " ++ programName ++ "\n_arguments '1: :(" ++ words ++ ")' '*: :_files'\n"
  | "fish" => "complete -c " ++ programName ++ " -n __fish_use_subcommand -a \"" ++ words ++ "\"\n"
  | "elvish" => "set edit:completion:arg-completer[" ++ programName ++ "] = \x7b|@words| put " ++
      words ++ " \x7d\n"
  | _ => "Register-ArgumentCompleter -Native -CommandName " ++ programName ++
      " -ScriptBlock \x7b " ++ quoted ++ " \x7d\n"

end Formulary.CommandLine
