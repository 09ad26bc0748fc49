import Formulary.Data.StringMap
import Formulary.Failure
import Formulary.Text.Search

/-!
# Templates

A template is text with placeholders `%(key)s`. Reading one decomposes it (`Template.render_parse`
says that nothing is lost); expanding it puts the value of each key in its place, from left to
right, and never looks at a value again.
-/

namespace Formulary

/-- The marks a placeholder stands between. -/
def openMark : List Char := ['%', '(']

def closeMark : List Char := [')', 's']

/-- A template, decomposed at its placeholders. -/
inductive Template where
  /-- Text without a placeholder. -/
  | plain (text : List Char)
  /-- Text, and a placeholder that is never closed. -/
  | unclosed (text rest : List Char)
  /-- Text, a placeholder with its key, and what follows. -/
  | hole (text key : List Char) (next : Template)
  deriving DecidableEq

namespace Template

/-- Decomposes a text at its placeholders. -/
def parse (s : List Char) : Template :=
  match _ : Text.cut? openMark s with
  | none => plain s
  | some (text, rest) =>
    match _ : Text.cut? closeMark rest with
    | none => unclosed text rest
    | some (key, after) =>
      hole text key (parse after)
termination_by s.length
decreasing_by
  have opened := Text.cut?_length ‹Text.cut? openMark s = _›
  have closed := Text.cut?_length ‹Text.cut? closeMark _ = _›
  simp only [openMark, closeMark, List.length_cons, List.length_nil] at opened closed
  omega

def render : Template → List Char
  | plain text => text
  | unclosed text rest => text ++ openMark ++ rest
  | hole text key next => text ++ openMark ++ key ++ closeMark ++ next.render

/-- Reading a template loses nothing. -/
theorem render_parse (s : List Char) : (parse s).render = s := by
  fun_induction parse s with
  | case1 s h => rfl
  | case2 s text rest h h' => simpa [render] using (Text.cut?_eq_some h).symm
  | case3 s text rest h key after h' ih =>
    rw [render, ih, Text.cut?_eq_some h, Text.cut?_eq_some h']
    simp

/-- The text with every key's value in its place, or the first key that has none: the rest of the
template if a placeholder is never closed. -/
def expand (value? : List Char → Option (List Char)) : Template → Except (List Char) (List Char)
  | plain text => .ok text
  | unclosed _ rest => .error rest
  | hole text key next =>
    match value? key with
    | none => .error key
    | some value => (next.expand value?).map (text ++ value ++ ·)

/-- The keys of the placeholders, in order. -/
def keys : Template → List (List Char)
  | plain _ => []
  | unclosed _ _ => []
  | hole _ key next => key :: next.keys

end Template

/-- The values of a map, by the characters of their keys. -/
def StringMap.lookup (m : StringMap) (key : List Char) : Option (List Char) :=
  (m.get? (String.ofList key)).map String.toList

/-- A template's text with the variables' values in place of its placeholders. -/
def substitute (template : String) (bindings : StringMap) : Except Failure String :=
  match (Template.parse template.toList).expand bindings.lookup with
  | .ok text => .ok (String.ofList text)
  | .error key => .error (.unresolvedVariable (String.ofList key) template)

end Formulary
