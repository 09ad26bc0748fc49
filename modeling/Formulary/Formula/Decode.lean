import Formulary.Data.Value
import Formulary.Formula.Basic

/-!
# Reading a formula from a value

A record is read from a table by the names of its fields, or from a list by their positions; names
and positions that the record does not know are passed over. A choice is read from its name, or
from a table whose only key is its name. Nothing is said about a value that cannot be read but
that it cannot.
-/

namespace Formulary

namespace Value

/-! ### Scalars and containers -/

def asString? : Value → Option String
  | .string s => some s
  | _ => none

def asBool? : Value → Option Bool
  | .bool b => some b
  | _ => none

def asInt32? : Value → Option Int32
  | .int i =>
    if Int32.minValue.toInt ≤ i ∧ i ≤ Int32.maxValue.toInt then some (Int32.ofInt i) else none
  | _ => none

/-- A value that may be null. -/
def asOptional? {α : Type} (read : Value → Option α) : Value → Option (Option α)
  | .null => some none
  | v => (read v).map some

/-- A list, every item of which can be read. -/
def asList? {α : Type} (read : Value → Option α) : Value → Option (List α)
  | .array items => items.mapM read
  | _ => none

def asStringMap? (v : Value) : Option StringMap := do
  let entries ← v.asTable?
  let pairs ← entries.mapM fun (key, value) => value.asString?.map (key, ·)
  return StringMap.ofList pairs

/-! ### Records and choices -/

/-- What a record's value says of a field with a position and one or more names: nothing can be
said if the value is no record, or if it names the field twice. -/
def field? (v : Value) (position : Nat) (names : List String) : Option (Option Value) :=
  match v with
  | .array items => some items[position]?
  | _ =>
    v.asTable?.bind fun entries =>
      match entries.filter fun entry => names.contains entry.1 with
      | [] => some none
      | [entry] => some (some entry.2)
      | _ => none

/-- A field that must be there. -/
def required? {α : Type} (v : Value) (position : Nat) (name : String)
    (read : Value → Option α) : Option α := do
  match ← v.field? position [name] with
  | some value => read value
  | none => none

/-- A field with a default. -/
def defaulted? {α : Type} (v : Value) (position : Nat) (names : List String)
    (read : Value → Option α) (absent : α) : Option α := do
  match ← v.field? position names with
  | some value => read value
  | none => return absent

/-- The name of a choice with the value that comes with it. -/
def choice? : Value → Option (String × Option Value)
  | .string name => some (name, none)
  | .table [(name, value)] => some (name, some value)
  | _ => none

/-- The name of a choice that comes with nothing. -/
def bareChoice? (v : Value) : Option String :=
  match v.choice? with
  | some (name, none) => some name
  | some (name, some (.table [])) => some name
  | some (name, some (.array [])) => some name
  | _ => none

end Value

/-! ### The parts of a formula -/

def Package.ofValue? (v : Value) : Option Package := do
  return {
    name := ← v.required? 0 "name" Value.asString?
    desc := ← v.defaulted? 1 ["desc"] (Value.asOptional? Value.asString?) none
    homepage := ← v.defaulted? 2 ["homepage"] (Value.asOptional? Value.asString?) none
    license := ← v.defaulted? 3 ["license"] (Value.asOptional? Value.asString?) none
    version := ← v.defaulted? 4 ["version"] (Value.asOptional? Value.asString?) none
    dependsOn := ← v.defaulted? 5 ["depends_on"] (Value.asList? Value.asString?) [] }

def Source.ofValue? (v : Value) : Option Source := do
  return {
    url := ← v.defaulted? 0 ["url"] (Value.asOptional? Value.asString?) none
    checksum := ← v.defaulted? 1 ["sha256", "checksum"] (Value.asOptional? Value.asString?) none
    vcs := ← v.defaulted? 2 ["vcs"] (Value.asOptional? Value.asString?) none
    branch := ← v.defaulted? 3 ["branch"] (Value.asOptional? Value.asString?) none }

def HeadSource.ofValue? (v : Value) : Option HeadSource := do
  return {
    vcs := ← v.required? 0 "vcs" Value.asString?
    branch := ← v.defaulted? 1 ["branch"] (Value.asOptional? Value.asString?) none }

/-- Reads a flag: a text, or a table with a symbol. -/
def Flag.ofValue? : Value → Option Flag
  | .string template => some (.text template)
  | .table entries => do
    let v := Value.table entries
    let name ← v.required? 0 "symbol" Value.asString?
    let value ← v.defaulted? 1 ["value"] (Value.asOptional? Value.asString?) none
    return .symbol name value
  | _ => none

def Build.ofValue? (v : Value) : Option Build := do
  return {
    toolchain := ← v.defaulted? 0 ["toolchain"] Value.asString? "go"
    verb := ← v.defaulted? 1 ["verb"] Value.asString? "build"
    target := ← v.required? 2 "target" Value.asString?
    binary := ← v.defaulted? 3 ["binary"] (Value.asOptional? Value.asString?) none
    stdArgs := ← v.defaulted? 4 ["std_args"] Value.asBool? true
    flagsArg := ← v.defaulted? 5 ["flags_arg"] Value.asString? "-ldflags"
    flags := ← v.defaulted? 6 ["flags"] (Value.asList? Flag.ofValue?) []
    args := ← v.defaulted? 7 ["args"] (Value.asList? Value.asString?) []
    environment := ← v.defaulted? 8 ["environment"] Value.asStringMap? ∅ }

def Shell.ofName? : String → Option Shell
  | "bash" => some .bash
  | "zsh" => some .zsh
  | "fish" => some .fish
  | _ => none

def ShellStyle.ofName? : String → Option ShellStyle
  | "plain" => some .plain
  | "flag" => some .flag
  | "arg" => some .option
  | "none" => some .silent
  | _ => none

def Completions.ofValue? (v : Value) : Option Completions := do
  return {
    executable := ← v.defaulted? 0 ["executable"] (Value.asOptional? Value.asString?) none
    subcommand := ← v.defaulted? 1 ["subcommand"] Value.asString? "completion"
    shells := ← v.defaulted? 2 ["shells"]
      (Value.asList? fun item => item.bareChoice?.bind Shell.ofName?) [.bash, .zsh, .fish]
    style := ← v.defaulted? 3 ["shell_parameter_format"]
      (fun item => item.bareChoice?.bind ShellStyle.ofName?) .plain
    baseName := ← v.defaulted? 4 ["base_name"] (Value.asOptional? Value.asString?) none }

def Step.ofValue? (v : Value) : Option Step :=
  match v.choice? with
  | some ("completions", some settings) => (Completions.ofValue? settings).map .completions
  | _ => none

def Assertion.ofValue? (v : Value) : Option Assertion := do
  return {
    id := ← v.defaulted? 0 ["id"] (Value.asOptional? Value.asString?) none
    args := ← v.defaulted? 1 ["args"] (Value.asList? Value.asString?) []
    expect := ← v.required? 2 "expect" Value.asString?
    status := ← v.defaulted? 3 ["status"] Value.asInt32? 0 }

def Formula.ofValue? (v : Value) : Option Formula := do
  return {
    package := ← v.required? 0 "package" Package.ofValue?
    source := ← v.required? 1 "source" Source.ofValue?
    head := ← v.defaulted? 2 ["head"] (Value.asOptional? HeadSource.ofValue?) none
    build := ← v.required? 3 "build" Build.ofValue?
    postInstall := ← v.defaulted? 4 ["post_install"] (Value.asList? Step.ofValue?) []
    tests := ← v.defaulted? 5 ["test"] (Value.asList? Assertion.ofValue?) []
    bindings := ← v.defaulted? 6 ["variables"] Value.asStringMap? ∅ }

end Formulary
