import Formulary.Data.Json
import Formulary.Formula.Load
import Formulary.Invocation
import Formulary.Report
import Formulary.Text.Blank
import Formulary.Text.Search

/-!
# Presentation

Results as lines for a reader, and the values that are shown to programs instead.
-/

namespace Formulary.CommandLine

/-! ### Formulas -/

/-- A formula with its version and the source that is used. -/
def describe (d : Descriptor) : String :=
  d.name ++ " version " ++ d.version ++ " (" ++ d.mode.name ++ ")"

/-- A formula with the whole of one source. -/
def describeSource (d : Descriptor) : String :=
  "Formula: " ++ d.name ++ " version " ++ d.version ++
    " (" ++ d.mode.name ++ " from " ++ d.source.display ++ ")"

def warningLine (w : Warning) : String := "Warning: " ++ w.message

/-! ### Resolutions -/

def resolutionLines (d : Descriptor) (r : Resolution) (i : Invocation) : List String :=
  [describe d, "\nVariables:"] ++
    r.bindings.entries.map (fun (key, value) => "  " ++ key ++ " = " ++ value) ++
    ["\nFlags:"] ++ r.flags.map ("  " ++ ·) ++
    ["\nCommand:\n  " ++ i.display, "\nArtifact: " ++ r.artifact.text]

def resolutionValue (d : Descriptor) (r : Resolution) (i : Invocation) : Value := .table [
  ("artifact", .string r.artifact.text),
  ("command", .string i.display),
  ("expectations", .ofStrings r.expectations),
  ("flags", .ofStrings r.flags),
  ("mode", .string d.mode.name),
  ("package", .string d.name),
  ("variables", r.bindings.toValue),
  ("version", .string d.version)]

/-! ### Results of assertions -/

def resultLine (r : AssertionResult) : String :=
  match r.message with
  | none => "  [PASS] " ++ r.id
  | some message => "  [FAIL] " ++ r.id ++ ": " ++ message

/-- The lines of an output, each but the first set in like the first. -/
def indentedSnippet (snippet : String) : String :=
  let margin := "         "
  margin ++ Text.replace (Text.trimEnd snippet) "\n" ("\n" ++ margin)

/-- The lines of a result with the start of the output. -/
def resultLines (r : AssertionResult) : List String :=
  match r.message, r.snippet with
  | some _, some snippet => [resultLine r, indentedSnippet snippet]
  | _, _ => [resultLine r]

/-! ### Reports -/

def stageLine (r : StageRecord) : String :=
  "  [" ++ (if r.succeeded then "OK" else "FAILED") ++ "] " ++ r.stage.display ++
    " (" ++ toString r.duration ++ " ms)"

/-- A list under its title; nothing at all if it is empty. -/
def titled (title : String) (lines : List String) : List String :=
  if lines.isEmpty then [] else ("\n" ++ title) :: lines

/-- What a run came through with, line by line. -/
def courseLines (r : Report) : List String :=
  "" :: r.stages.map stageLine ++
    (if r.flags.isEmpty then [] else ["\nBuild flags: " ++ " ".intercalate r.flags]) ++
    titled "Installed files:" (r.installed.map fun p => "  - " ++ p.text) ++
    match r.smoke with
    | some smoke => "\nSmoke tests:" :: smoke.results.map resultLine
    | none => []

def completionLine (r : Report) : String :=
  "\n[COMPLETE] " ++ r.package ++ " " ++ r.version ++ " verified: " ++
    ((r.artifact.map Path.text).getD "")

/-- What is said of a run that did not. -/
def failureLines (r : Report) : List String :=
  ("\n[FAILED] " ++ r.state.display) ::
    match r.output with
    | some output => ["\nCaptured output:\n" ++ Text.trimEnd output]
    | none => []

end Formulary.CommandLine
