/-!
# Failures

The causes for which a run stops, the text each is shown with, the digit it adds to the exit code,
and the output that is kept with it.
-/

namespace Formulary

/-- Why a formula could not be loaded, resolved, built, installed or verified. -/
inductive Failure where
  /-- The formula contradicts itself or lacks something. -/
  | malformedDescriptor (detail : String)
  /-- A placeholder names a variable without a value. -/
  | unresolvedVariable (key template : String)
  /-- A release archive has no checksum that could be verified. -/
  | unverifiedChecksum (url checksum : String)
  /-- A program the build needs was not found. -/
  | missingBuildDependency (name : String)
  /-- The source could not be fetched or unpacked. -/
  | downloadFailed (detail : String)
  /-- The fetched bytes have another digest than the declared one. -/
  | checksumMismatch (expected actual : String)
  /-- The toolchain failed, or left no program behind. -/
  | buildFailed (reason : String) (exitCode : Option Int) (output : String)
  /-- The built program lacks what a step after the installation needs. -/
  | unsupportedStep (step capability : String)
  /-- The built program could not be started for an assertion. -/
  | assertionLaunch (id program message : String)
  /-- The built program ran, but not as an assertion expects. -/
  | assertionMismatch (id message snippet : String)
  /-- Some assertions did not hold. -/
  | verificationFailed (failed total : Nat)
  /-- The run was interrupted. -/
  | cancelled (activity : String)
  /-- A stage was asked for out of order. -/
  | invalidTransition (origin stage : String)
  /-- The formula is not written as a formula. -/
  | unreadable (detail : String)
  /-- The file system refused an operation. -/
  | io (detail : String)
  deriving DecidableEq, Repr, Inhabited

namespace Failure

/-- An exit code in words. -/
def describeExit : Option Int → String
  | some code => "exit code " ++ toString code
  | none => "no exit code"

def message : Failure → String
  | malformedDescriptor detail => "Malformed descriptor: " ++ detail
  | unresolvedVariable key template => "Unresolved variable '" ++ key ++ "' in '" ++ template ++ "'"
  | unverifiedChecksum url checksum => "Unverified checksum '" ++ checksum ++ "' for " ++ url
  | missingBuildDependency name => "Missing build dependency: " ++ name
  | downloadFailed detail => "Download failed: " ++ detail
  | checksumMismatch expected actual =>
    "Checksum mismatch: expected " ++ expected ++ ", got " ++ actual
  | buildFailed reason exitCode _ => "Build failed (" ++ describeExit exitCode ++ "): " ++ reason
  | unsupportedStep step capability =>
    "Unsupported post-install step '" ++ step ++ "': artifact lacks " ++ capability
  | assertionLaunch id program message =>
    "Assertion '" ++ id ++ "' could not launch " ++ program ++ ": " ++ message
  | assertionMismatch id message _ => "Assertion '" ++ id ++ "' failed: " ++ message
  | verificationFailed failed total =>
    "Verification failed: " ++ toString failed ++ " of " ++ toString total ++
      " assertion(s) failed"
  | cancelled activity => "Cancelled during " ++ activity
  | invalidTransition origin stage =>
    "Invalid transition: cannot run " ++ stage ++ " from " ++ origin
  | unreadable detail => "Parse error: " ++ detail
  | io detail => "I/O error: " ++ detail

/-- The last digit of the exit code. -/
def reasonCode : Failure → Nat
  | cancelled _ => 0
  | malformedDescriptor _ | unreadable _ => 1
  | unresolvedVariable _ _ => 2
  | unverifiedChecksum _ _ => 3
  | downloadFailed _ | checksumMismatch _ _ => 4
  | missingBuildDependency _ => 5
  | buildFailed _ _ _ => 6
  | unsupportedStep _ _ => 7
  | assertionLaunch _ _ _ | assertionMismatch _ _ _ | verificationFailed _ _ => 8
  | io _ | invalidTransition _ _ => 9

/-- A reason is a single digit. -/
theorem reasonCode_le (e : Failure) : e.reasonCode ≤ 9 := by
  cases e <;> simp [reasonCode]

/-- The output kept with a failure. -/
def capturedOutput : Failure → Option String
  | buildFailed _ _ output => some output
  | assertionMismatch _ _ snippet => some snippet
  | _ => none

end Failure

end Formulary
