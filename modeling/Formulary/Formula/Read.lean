import Formulary.Failure
import Formulary.Formula.Decode
import Formulary.Toml.Document

/-!
# Formula files
-/

namespace Formulary

def Formula.read (text : String) : Except Failure Formula :=
  match (Toml.parse? text).bind Formula.ofValue? with
  | some f => .ok f
  | none => .error (.unreadable "Invalid formula: the text does not describe a formula")

end Formulary
