import Formulary.Data.Value
import Formulary.Descriptor
import Formulary.Path
import Formulary.Pipeline
import Formulary.Smoke.Report

/-!
# Run reports

What a run leaves for its reader, and reports as values.
-/

namespace Formulary

/-- What a run produced. -/
structure Report where
  package : String
  version : String
  mode : Option Mode
  state : RunState
  stages : List StageRecord
  /-- The resolved flags. -/
  flags : List String
  /-- The built program. -/
  artifact : Option Path
  /-- The files written after the installation. -/
  installed : List Path
  smoke : Option SmokeReport
  /-- The output kept with the failure. -/
  output : Option String
  failure : Option Failure
  deriving DecidableEq

namespace Report

/-- The report of a run whose formula could not be loaded. -/
def loadFailure (package : String) (e : Failure) : Report where
  package := package
  version := ""
  mode := none
  state := .ofFailure .load e
  stages := [⟨.load, false, 0⟩]
  flags := []
  artifact := none
  installed := []
  smoke := none
  output := none
  failure := some e

def exitCode (r : Report) : Nat := r.state.exitCode

def verified (r : Report) : Bool := r.state = .verified

end Report

/-! ### As values -/

def RunState.toValue : RunState → Value
  | .loaded => .table [("state", .string "loaded")]
  | .resolved => .table [("state", .string "resolved")]
  | .built => .table [("state", .string "built")]
  | .postInstalled => .table [("state", .string "post_installed")]
  | .verified => .table [("state", .string "verified")]
  | .failed stage reason code => .table [
      ("state", .string "failed"),
      ("stage", .string stage.key),
      ("reason", .string reason),
      ("code", .int code)]

def StageRecord.toValue (r : StageRecord) : Value := .table [
  ("stage", .string r.stage.key),
  ("succeeded", .bool r.succeeded),
  ("duration_ms", .int r.duration)]

def exitCodeValue : Option Int → Value
  | none => .null
  | some code => .int code

def AssertionResult.toValue (r : AssertionResult) : Value := .table [
  ("id", .string r.id),
  ("args", .ofStrings r.args),
  ("passed", .bool r.passed),
  ("exit_code", exitCodeValue r.exitCode),
  ("snippet", .ofOption r.snippet),
  ("message", .ofOption r.message)]

def SmokeReport.toValue (r : SmokeReport) : Value :=
  .table [("results", .array (r.results.map AssertionResult.toValue))]

def Report.toValue (r : Report) : Value := .table [
  ("package", .string r.package),
  ("version", .string r.version),
  ("mode", .ofOption (r.mode.map Mode.name)),
  ("state", r.state.toValue),
  ("stages", .array (r.stages.map StageRecord.toValue)),
  ("flags", .ofStrings r.flags),
  ("artifact", .ofOption (r.artifact.map Path.text)),
  ("installed", .ofStrings (r.installed.map Path.text)),
  ("smoke", (r.smoke.map SmokeReport.toValue).getD .null),
  ("output", .ofOption r.output)]

end Formulary
