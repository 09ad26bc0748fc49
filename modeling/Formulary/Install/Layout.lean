import Formulary.Formula.Basic
import Formulary.Path

/-!
# Where things are installed

The places below the root of an installation.
-/

namespace Formulary

/-- Where a shell looks for the completion script of the program `base`. -/
def Shell.completionPath (shell : Shell) (root : Path) (base : String) : Path :=
  match shell with
  | .bash => (root.join "share/bash-completion/completions").join base
  | .zsh => (root.join "share/zsh/site-functions").join ("_" ++ base)
  | .fish => (root.join "share/fish/vendor_completions.d").join (base ++ ".fish")

end Formulary
