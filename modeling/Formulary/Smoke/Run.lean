import Formulary.Formula.Basic
import Formulary.Machine.Disk
import Formulary.Machine.Supervise
import Formulary.Smoke.Report
import Formulary.Text.Boundary
import Formulary.Text.Search

/-!
# Running assertions

Every assertion is tried, also after one that does not hold. Each runs in an empty directory of its
own, which is its home directory as well and is removed afterwards.
-/

namespace Formulary.Smoke

/-! ### Snippets -/

/-- The most bytes of output that are kept with a failure. -/
def snippetLimit : Nat := 512

/-- An output if it is short enough, and else its start up to the last place between characters that
is. There is none if that place is not found, or if the bytes up to it are not a text. -/
def snippet? (output : String) : Option String :=
  let bytes := Text.encode output
  if bytes.length ≤ snippetLimit then some output
  else do
    let stop ← Text.boundaryFrom? bytes snippetLimit
    Text.decode? (bytes.take stop)

def snippet (output : String) : String := (snippet? output).getD ""

/-! ### Assertions -/

/-- What a status is called when something else was expected. -/
def describeCode : Option Int → String
  | some code => toString code
  | none => "a signal"

/-- What is wrong with an output, if anything; a stop is a failure of its own. -/
def complaint? (a : Assertion) (expected : String) (timeout : Millis) (o : Output) :
    Option String :=
  match o.outcome with
  | .cancelled => none
  | .timedOut => some ("timed out after " ++ toString (timeout / 1000) ++ " seconds")
  | .exited _ =>
    if o.exitCode ≠ some a.status.toInt then
      some ("expected exit status " ++ toString a.status.toInt ++ ", got " ++
        describeCode o.exitCode)
    else if !Text.holds o.combined expected then
      some ("output does not contain '" ++ expected ++ "'")
    else none

/-- The result of an assertion from what its program left. -/
def judge (id : String) (a : Assertion) (expected : String) (timeout : Millis) (o : Output) :
    AssertionResult :=
  match complaint? a expected timeout o with
  | some message =>
    .fail id a.args o.exitCode (.assertionMismatch id message (snippet o.combined))
  | none => .pass id a.args o.exitCode

def commandOf (program : Path) (a : Assertion) (scratch : Path) : Command where
  program := program.text
  args := a.args
  env := [("HOME", scratch.text)]
  dir := some scratch

/-- Tries one assertion. Only a stop keeps it from having a result. -/
def tryOne (launch : Launcher) (program : Path) (id : String) (a : Assertion) (expected : String)
    (timeout : Millis) : Attempt AssertionResult := do
  let scratch ← Attempt.io (Disk.makeTemporary ".tmp")
  let run ← (supervise launch (commandOf program a scratch) timeout : Act _)
  let _ ← (Disk.removeTree scratch : Act _)
  match run with
  | .error e => return .fail id a.args none (.assertionLaunch id program.text e.message)
  | .ok o =>
    if o.outcome = .cancelled then throw (.cancelled ("verify " ++ id))
    return judge id a expected timeout o

/-- What the assertion at a position is reported under. -/
def idOf (a : Assertion) (position : Nat) : String :=
  a.id.getD ("test-" ++ toString (position + 1))

def tryFrom (launch : Launcher) (program : Path) (timeout : Millis) :
    (position : Nat) → List (Assertion × String) → Attempt (List AssertionResult)
  | _, [] => return []
  | position, (a, expected) :: rest => do
    let result ← tryOne launch program (idOf a position) a expected timeout
    return result :: (← tryFrom launch program timeout (position + 1) rest)

/-- Tries all assertions about a program. `expectations` holds what each of them expects. -/
def run (launch : Launcher) (program : Path) (assertions : List Assertion)
    (expectations : List String) (timeout : Millis) : Attempt SmokeReport := do
  return ⟨← tryFrom launch program timeout 0 (assertions.zip expectations)⟩

end Formulary.Smoke
