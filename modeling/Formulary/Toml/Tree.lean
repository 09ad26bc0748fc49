import Formulary.Data.Value

/-!
# The tables of a TOML document

A document builds its tables piece by piece. A table remembers how it came to be, for that decides
who may still add to it: a header may take over a table that was only implied by a longer header,
and a dotted key may enter only a table that no header and no value has defined.
-/

namespace Formulary.Toml

/-- How a table came to be. -/
inductive Origin where
  /-- By a header of its own, or as the document itself. -/
  | defined
  /-- By a header that goes through it. -/
  | implied
  /-- By a dotted key that goes through it. -/
  | dotted
  deriving DecidableEq

/-- What stands under a key while a document is read. -/
inductive Node where
  /-- A value, closed to any addition. -/
  | leaf (value : Value)
  | table (origin : Origin) (entries : List (String × Node))
  /-- The tables of a list that headers build, the latest first. -/
  | tables (items : List Node)

namespace Node

def emptyTable (origin : Origin) : Node := .table origin []

def replaceEntry (key : String) (node : Node) (entries : List (String × Node)) :
    List (String × Node) :=
  entries.map fun entry => if entry.1 = key then (key, node) else entry

/-- Changes the node that a path leads to, from a table on; tables missing on the way come to be
by `via`. The path enters the latest table of a list. A dotted path enters no defined table. -/
def change (via : Origin) (edit : Node → Option Node) : (path : List String) → Node → Option Node
  | [], node => edit node
  | key :: path, .table origin entries =>
    match entries.lookup key with
    | none => do
      let child ← change via edit path (emptyTable via)
      return .table origin (entries ++ [(key, child)])
    | some (.table childOrigin children) =>
      if via = .dotted && childOrigin = .defined then none
      else do
        let child ← change via edit path (.table childOrigin children)
        return .table origin (replaceEntry key child entries)
    | some (.tables (latest :: earlier)) => do
      let child ← change via edit path latest
      return .table origin (replaceEntry key (.tables (child :: earlier)) entries)
    | some _ => none
  | _ :: _, _ => none

/-- Gives a table a new key. A key that was reached through dots may only go into a dotted table,
any other key only into a table that is none. -/
def addKey (throughDots : Bool) (key : String) (value : Value) : Node → Option Node
  | .table origin entries =>
    if (origin = .dotted : Bool) != throughDots then none
    else if (entries.lookup key).isSome then none
    else some (.table origin (entries ++ [(key, .leaf value)]))
  | _ => none

/-- Sets a key, given by its parts, below a table. -/
def set (parts : List String) (value : Value) (node : Node) : Option Node :=
  match parts.getLast? with
  | some key =>
    node.change .dotted (addKey (parts.length > 1) key value) parts.dropLast
  | none => none

/-- Opens the table of a header in its parent: a new one, or one that was only implied. -/
def openTable (key : String) : Node → Option Node
  | .table origin entries =>
    match entries.lookup key with
    | none => some (.table origin (entries ++ [(key, emptyTable .defined)]))
    | some (.table .implied children) =>
      some (.table origin (replaceEntry key (.table .defined children) entries))
    | some _ => none
  | _ => none

/-- Opens another table of the list of a header in its parent. -/
def openItem (key : String) : Node → Option Node
  | .table origin entries =>
    match entries.lookup key with
    | none => some (.table origin (entries ++ [(key, .tables [emptyTable .defined])]))
    | some (.tables items) =>
      some (.table origin (replaceEntry key (.tables (emptyTable .defined :: items)) entries))
    | some _ => none
  | _ => none

mutual

def toValue : Node → Value
  | .leaf value => value
  | .table _ entries => .table (entryValues entries)
  | .tables items => .array (itemValues items).reverse

def entryValues : List (String × Node) → List (String × Value)
  | [] => []
  | (key, node) :: rest => (key, node.toValue) :: entryValues rest

def itemValues : List Node → List Value
  | [] => []
  | node :: rest => node.toValue :: itemValues rest

end

end Node

end Formulary.Toml
