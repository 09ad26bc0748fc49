import Formulary.Data.Value

/-!
# JSON text

Values as JSON text, on one line or indented by two blanks. In a text, `"`, `\` and the characters
below U+0020 are escaped, everything else stands for itself; an empty list or table has nothing
between its brackets in either layout.
-/

namespace Formulary.Json

def escapeChar (c : Char) : String :=
  if c = '"' then "\\\""
  else if c = '\\' then "\\\\"
  else if c = '\n' then "\\n"
  else if c = '\r' then "\\r"
  else if c = '\t' then "\\t"
  else if c = '\x08' then "\\b"
  else if c = '\x0c' then "\\f"
  else if c.toNat < 0x20 then
    let digit (n : Nat) : Char := (Nat.digitChar n)
    String.ofList ['\\', 'u', '0', '0', digit (c.toNat / 16), digit (c.toNat % 16)]
  else c.toString

def quote (s : String) : String :=
  s.foldl (fun out c => out ++ escapeChar c) "\"" ++ "\""

/-- A value that holds no other. -/
def scalar : Value → String
  | .null => "null"
  | .bool true => "true"
  | .bool false => "false"
  | .int i => toString i
  | .float text => text
  | .string s => quote s
  | .datetime text => quote text
  | .array _ => "[]"
  | .table _ => "\x7b\x7d"

/-! ### On one line -/

mutual

/-- A value on one line, without blanks. -/
def compact : Value → String
  | .array items => "[" ++ compactItems items ++ "]"
  | .table entries => "\x7b" ++ compactEntries entries ++ "\x7d"
  | v => scalar v

def compactItems : List Value → String
  | [] => ""
  | [v] => compact v
  | v :: rest => compact v ++ "," ++ compactItems rest

def compactEntries : List (String × Value) → String
  | [] => ""
  | [(k, v)] => quote k ++ ":" ++ compact v
  | (k, v) :: rest => quote k ++ ":" ++ compact v ++ "," ++ compactEntries rest

end

/-! ### Indented -/

/-- The start of a line at a depth. -/
def newLine (depth : Nat) : String := "\n" ++ String.ofList (List.replicate (2 * depth) ' ')

mutual

/-- A value at a depth, each item and entry on a line of its own. -/
def indented (depth : Nat) : Value → String
  | .array [] => "[]"
  | .array items => "[" ++ indentedItems (depth + 1) items ++ newLine depth ++ "]"
  | .table [] => "\x7b\x7d"
  | .table entries => "\x7b" ++ indentedEntries (depth + 1) entries ++ newLine depth ++ "\x7d"
  | v => scalar v

def indentedItems (depth : Nat) : List Value → String
  | [] => ""
  | [v] => newLine depth ++ indented depth v
  | v :: rest => newLine depth ++ indented depth v ++ "," ++ indentedItems depth rest

def indentedEntries (depth : Nat) : List (String × Value) → String
  | [] => ""
  | [(k, v)] => newLine depth ++ quote k ++ ": " ++ indented depth v
  | (k, v) :: rest =>
    newLine depth ++ quote k ++ ": " ++ indented depth v ++ "," ++ indentedEntries depth rest

end

/-- A value with two blanks of indentation a level. -/
def pretty (v : Value) : String := indented 0 v

end Formulary.Json
