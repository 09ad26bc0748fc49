import Formulary.Descriptor
import Formulary.Formula.Read
import Formulary.Formula.Validate
import Formulary.Machine.Disk

/-!
# Loading formulas

The first stage of a run: a file is read, the formula in it checked, and its descriptor made.
-/

namespace Formulary

/-- The failure of reading a formula's file. -/
def Formula.fileFailure (e : Fault) : Failure := .io ("Failed to read formula file: " ++ e.message)

def Formula.fromFile (p : Path) : Attempt Formula := do
  let bytes ← Attempt.orFail (Disk.read p) Formula.fileFailure
  match Text.decode? bytes with
  | some text => ExceptT.mk (pure (Formula.read text))
  | none => throw (Formula.fileFailure .notText)

/-- A formula that made it through the first stage. -/
structure Loaded where
  formula : Formula
  descriptor : Descriptor
  warnings : List Warning

/-- Loads a formula for a build of one of its sources. -/
def Loaded.fromFile (p : Path) (m : Mode) : Attempt Loaded := do
  let formula ← Formula.fromFile p
  let warnings ← ExceptT.mk (pure formula.validate)
  let descriptor ← ExceptT.mk (pure (formula.descriptor m))
  return { formula, descriptor, warnings }

end Formulary
