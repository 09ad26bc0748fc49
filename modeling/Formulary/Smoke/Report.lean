import Formulary.Failure

/-!
# Results of assertions

What became of every assertion about the installed program, and the verdict over all of them.
-/

namespace Formulary

/-- The outcome of one assertion. -/
structure AssertionResult where
  id : String
  args : List String
  passed : Bool
  exitCode : Option Int
  /-- The start of the output, after a failure. -/
  snippet : Option String
  /-- What a failure says. -/
  message : Option String
  failure : Option Failure
  deriving DecidableEq

namespace AssertionResult

def pass (id : String) (args : List String) (exitCode : Option Int) : AssertionResult :=
  ⟨id, args, true, exitCode, none, none, none⟩

def fail (id : String) (args : List String) (exitCode : Option Int) (e : Failure) :
    AssertionResult :=
  ⟨id, args, false, exitCode, e.capturedOutput, some e.message, some e⟩

/-- The program could not be started, or not be waited for. -/
def isLaunchError (r : AssertionResult) : Bool :=
  match r.failure with
  | some (.assertionLaunch _ _ _) => true
  | _ => false

end AssertionResult

/-- The outcomes of all assertions of a run, in order. -/
structure SmokeReport where
  results : List AssertionResult := []
  deriving DecidableEq

namespace SmokeReport

def passed (r : SmokeReport) : Bool := r.results.all AssertionResult.passed

def failed (r : SmokeReport) : Nat := (r.results.filter fun x => !x.passed).length

/-- The verdict over all assertions. -/
def verdict (r : SmokeReport) : Except Failure Unit :=
  if r.passed then .ok () else .error (.verificationFailed r.failed r.results.length)

end SmokeReport

end Formulary
