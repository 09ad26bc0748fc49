import Formulary.Toml.Scalar
import Formulary.Toml.Tree

/-!
# TOML documents

Values, lines and whole documents of TOML 1.0. Lists and inline tables may stand in one another
up to a depth, which is also what the reader of values recurses on.
-/

namespace Formulary.Toml

/-- How deep lists and inline tables may stand in one another. -/
def maxDepth : Nat := 79

/-! ### Lists and inline tables -/

/-- The items of a list after its bracket, by a reader of items; `fuel` bounds their number. -/
def items? (item : List Char → Option (Value × List Char)) :
    (fuel : Nat) → (seen : List Value) → List Char → Option (List Value × List Char)
  | 0, _, _ => none
  | fuel + 1, seen, s =>
    match skipLines s.length s with
    | ']' :: s => some (seen.reverse, s)
    | s => do
      let (value, s) ← item s
      match skipLines s.length s with
      | ',' :: s => items? item fuel (value :: seen) s
      | ']' :: s => return ((value :: seen).reverse, s)
      | _ => none

/-- The entries of an inline table after its brace, by a reader of values. -/
def entries? (value : List Char → Option (Value × List Char)) :
    (fuel : Nat) → Node → List Char → Option (Node × List Char)
  | 0, _, _ => none
  | fuel + 1, table, s => do
    let (parts, s) ← key? s
    let '=' :: s := s | none
    let (v, s) ← value (skipSpace s)
    let table ← table.set parts v
    match skipSpace s with
    | ',' :: s => entries? value fuel table s
    | '\x7d' :: s => return (table, s)
    | _ => none

/-- An inline table after its brace. -/
def inlineTable? (value : List Char → Option (Value × List Char)) (s : List Char) :
    Option (Value × List Char) :=
  match skipSpace s with
  | '\x7d' :: s => some (.table [], s)
  | s => (entries? value (s.length + 1) (.emptyTable .defined) s).map fun (table, s) =>
      (table.toValue, s)

/-- A value, with lists and inline tables down to `depth`. -/
def value? : (depth : Nat) → List Char → Option (Value × List Char)
  | _, '"' :: s => (quoted? ('"' :: s)).map fun (text, s) => (.string text, s)
  | _, '\'' :: s => (quoted? ('\'' :: s)).map fun (text, s) => (.string text, s)
  | 0, '[' :: _ => none
  | depth + 1, '[' :: s =>
    (items? (value? depth) (s.length + 1) [] s).map fun (items, s) => (.array items, s)
  | 0, '\x7b' :: _ => none
  | depth + 1, '\x7b' :: s => inlineTable? (value? depth) s
  | _, s => word? s

/-! ### Lines -/

/-- A document under way: what it has built, and the path of the table that keys go to. -/
structure Draft where
  root : Node
  here : List String

def keyLine? (d : Draft) (s : List Char) : Option (Draft × List Char) := do
  let (parts, s) ← key? s
  let '=' :: s := s | none
  let (v, s) ← value? maxDepth (skipSpace s)
  let s ← restOfLine? s
  let root ← d.root.change .implied (Node.set parts v) d.here
  return (⟨root, d.here⟩, s)

/-- A line with a header, by what it does in the parent of its table and the brackets that close
it. -/
def headerLine? (opening : String → Node → Option Node) (close : List Char → Option (List Char))
    (d : Draft) (s : List Char) : Option (Draft × List Char) := do
  let (parts, s) ← key? s
  let s ← close s
  let s ← restOfLine? s
  let key ← parts.getLast?
  let root ← d.root.change .implied (opening key) parts.dropLast
  return (⟨root, parts⟩, s)

def closeOne? : List Char → Option (List Char)
  | ']' :: s => some s
  | _ => none

def closeTwo? : List Char → Option (List Char)
  | ']' :: ']' :: s => some s
  | _ => none

/-- One line with something on it. -/
def line? (d : Draft) : List Char → Option (Draft × List Char)
  | '[' :: '[' :: s => headerLine? Node.openItem closeTwo? d s
  | '[' :: s => headerLine? Node.openTable closeOne? d s
  | s => keyLine? d s

/-- The lines of a document; `fuel` bounds their number. -/
def lines? : (fuel : Nat) → Draft → List Char → Option Draft
  | 0, _, _ => none
  | fuel + 1, d, s =>
    match skipLines s.length s with
    | [] => some d
    | s => do
      let (d, s) ← line? d s
      lines? fuel d s

/-- Reads a document as a table. A byte order mark may stand in front of it. -/
def parse? (text : String) : Option Value :=
  let s := match text.toList with
    | '\ufeff' :: s => s
    | s => s
  (lines? (s.length + 1) ⟨.emptyTable .defined, []⟩ s).map fun d => d.root.toValue

end Formulary.Toml
