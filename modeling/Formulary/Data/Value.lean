/-!
# Values

The self-describing values that formula files are read from and that reports are written as:
scalars, lists and tables. A table keeps its entries in the order in which they were given. Floats
and dates are kept as text: nothing computes with them.
-/

namespace Formulary

/-- A self-describing value. -/
inductive Value where
  | null
  | bool (b : Bool)
  | int (i : Int)
  /-- A floating-point number, as written. -/
  | float (text : String)
  | string (s : String)
  /-- A date, a time or both, in normal form. -/
  | datetime (text : String)
  | array (items : List Value)
  | table (entries : List (String × Value))
  deriving Inhabited

namespace Value

def ofOption : Option String → Value
  | none => .null
  | some s => .string s

def ofStrings (texts : List String) : Value := .array (texts.map .string)

/-- The key under which a date's text is found when it is read as a table. -/
def datetimeKey : String := "$__toml_private_datetime"

/-- A value as a table: a date counts as a table with its text as the only entry. -/
def asTable? : Value → Option (List (String × Value))
  | .table entries => some entries
  | .datetime text => some [(datetimeKey, .string text)]
  | _ => none

end Value

end Formulary
