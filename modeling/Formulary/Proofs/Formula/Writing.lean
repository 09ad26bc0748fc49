import Formulary.Formula.Decode
import Formulary.Formula.Encode
import Formulary.Proofs.Maps
import Mathlib.Data.List.Forall2
import Mathlib.Tactic.Common

/-!
# Formulas written and read back

A formula can be written as a value in many ways: every field that holds its default may be left
out, at every depth, and a field with several names may have any of them. `Formula.Written` lists
these ways, `Formula.written_toValue` says that the value of a formula is one of them, and
`Formula.ofValue?_of_written` that each of them reads as the formula it was written for.
-/

namespace Formulary

/-! ### Fields of a record -/

/-- A field of a record as it is written. -/
structure Field where
  name : String
  /-- Other names it is read under. -/
  others : List String := []
  /-- The values that say what it holds. -/
  Says : Value → Prop
  /-- It holds its default. -/
  Default : Prop := False

namespace Field

def names (field : Field) : List String := field.name :: field.others

/-- No name is that of two fields. -/
def Apart (fields : List Field) : Prop := fields.Pairwise fun a b => a.names.Disjoint b.names

/-- The entries of a table say what fields hold, in their order: each of them is written under one
of its names, or it holds its default and is left out. -/
inductive Written : List Field → List (String × Value) → Prop
  | nil : Written [] []
  | entry {field : Field} {rest : List Field} {entries : List (String × Value)} {name : String}
    {v : Value} (hname : name ∈ field.names) (hv : field.Says v) (h : Written rest entries) :
    Written (field :: rest) ((name, v) :: entries)
  | leftOut {field : Field} {rest : List Field} {entries : List (String × Value)}
    (hdefault : field.Default) (h : Written rest entries) : Written (field :: rest) entries

/-- A value is a table of fields. -/
def Table (fields : List Field) (v : Value) : Prop :=
  ∃ entries, v = .table entries ∧ Written fields entries

/-- Fields may all be written, each under its own name. -/
theorem written_of_forall₂ {fields : List Field} {entries : List (String × Value)}
    (h : List.Forall₂ (fun field entry => entry.1 = field.name ∧ field.Says entry.2) fields
      entries) : Written fields entries := by
  induction h with
  | nil => exact .nil
  | cons hentry _ ih => exact .entry (hentry.1 ▸ List.mem_cons_self) hentry.2 ih

/-! ### What is read of a field -/

section Reading

variable {fields : List Field} {entries : List (String × Value)} {field : Field}

theorem Written.filter_eq_nil {names : List String} (h : Written fields entries)
    (hnone : ∀ field ∈ fields, names.Disjoint field.names) :
    entries.filter (fun entry => names.contains entry.1) = [] := by
  induction h with
  | nil => rfl
  | entry hname _ _ ih =>
    obtain ⟨hfirst, hrest⟩ := List.forall_mem_cons.1 hnone
    rw [List.filter_cons_of_neg, ih hrest]
    simpa using fun hmem => hfirst hmem hname
  | leftOut _ _ ih => exact ih (List.forall_mem_cons.1 hnone).2

theorem Written.filter_eq (h : Written fields entries) (hapart : Apart fields) {position : Nat}
    (hfield : fields[position]? = some field) :
    (∃ name v, field.Says v ∧
      entries.filter (fun entry => field.names.contains entry.1) = [(name, v)]) ∨
    (field.Default ∧ entries.filter (fun entry => field.names.contains entry.1) = []) := by
  induction h generalizing position with
  | nil => simp at hfield
  | @entry first rest entries name v hname hv h ih =>
    obtain ⟨hfirst, hrest⟩ := List.pairwise_cons.1 hapart
    cases position with
    | zero =>
      obtain rfl := Option.some.inj hfield
      refine .inl ⟨name, v, hv, ?_⟩
      rw [List.filter_cons_of_pos (by simpa using hname), h.filter_eq_nil hfirst]
    | succ position =>
      rw [List.filter_cons_of_neg]
      · exact ih hrest hfield
      · simpa using fun hother => hfirst field (List.mem_of_getElem? hfield) hname hother
  | @leftOut first rest entries hdefault h ih =>
    obtain ⟨hfirst, hrest⟩ := List.pairwise_cons.1 hapart
    cases position with
    | zero =>
      obtain rfl := Option.some.inj hfield
      exact .inr ⟨hdefault, h.filter_eq_nil hfirst⟩
    | succ position => exact ih hrest hfield

/-- What a table of fields says of one of them: what it holds, or nothing if it holds its
default. -/
theorem Written.field?_eq (h : Written fields entries) (hapart : Apart fields) {position : Nat}
    (hfield : fields[position]? = some field) :
    (∃ v, field.Says v ∧ (Value.table entries).field? position field.names = some (some v)) ∨
      (field.Default ∧ (Value.table entries).field? position field.names = some none) := by
  unfold Value.field?
  dsimp only [Value.asTable?, Option.bind_some]
  rcases h.filter_eq hapart hfield with ⟨name, v, hv, hfilter⟩ | ⟨hdefault, hfilter⟩
  · exact .inl ⟨v, hv, by rw [hfilter]⟩
  · exact .inr ⟨hdefault, by rw [hfilter]⟩

variable {α : Type} {read : Value → Option α} {a : α}

theorem Written.required?_eq (h : Written fields entries) (hapart : Apart fields) (position : Nat)
    {name : String} {Says : Value → Prop} (hfield : fields[position]? = some { name, Says })
    (hread : ∀ v, Says v → read v = some a) :
    (Value.table entries).required? position name read = some a := by
  unfold Value.required?
  rcases h.field?_eq hapart hfield with ⟨v, hv, hget⟩ | ⟨hdefault, -⟩
  · dsimp only [names] at hget
    rw [hget]
    exact hread v hv
  · exact hdefault.elim

theorem Written.defaulted?_eq (h : Written fields entries) (hapart : Apart fields)
    (position : Nat) {name : String} {others : List String} {Says : Value → Prop} {absent : α}
    (hfield : fields[position]? = some { name, others, Says, Default := a = absent })
    (hread : ∀ v, Says v → read v = some a) :
    (Value.table entries).defaulted? position (name :: others) read absent = some a := by
  unfold Value.defaulted?
  rcases h.field?_eq hapart hfield with ⟨v, hv, hget⟩ | ⟨hdefault, hget⟩ <;>
    dsimp only [names] at hget <;> rw [hget]
  · exact hread v hv
  · exact congrArg some hdefault.symm

end Reading

end Field

/-! ### What is read of the values of fields -/

namespace Value

theorem read_only {α : Type} {read : Value → Option α} {a : α} {w : Value}
    (h : read w = some a) : ∀ v, v = w → read v = some a := by
  rintro _ rfl
  exact h

theorem asOptional?_ofOption (s : Option String) :
    (ofOption s).asOptional? asString? = some s := by
  cases s <;> rfl

theorem asList?_of_forall₂ {α : Type} {read : Value → Option α} {Says : α → Value → Prop}
    {l : List α} {items : List Value} (h : List.Forall₂ Says l items)
    (hread : ∀ a ∈ l, ∀ v, Says a v → read v = some a) :
    (array items).asList? read = some l := by
  change items.mapM read = some l
  induction h with
  | nil => rfl
  | cons hfirst _ ih =>
    obtain ⟨ha, hl⟩ := List.forall_mem_cons.1 hread
    rw [List.mapM_cons, ha _ hfirst, ih hl]
    rfl

theorem asList?_map {α : Type} {read : Value → Option α} {write : α → Value}
    (hread : ∀ a, read (write a) = some a) (l : List α) :
    (array (l.map write)).asList? read = some l := by
  have hsays : List.Forall₂ (fun a v => v = write a) l (l.map write) := by
    rw [List.forall₂_map_right_iff, List.forall₂_same]
    exact fun _ _ => rfl
  exact asList?_of_forall₂ hsays fun a _ v hv => hv ▸ hread a

theorem asList?_ofStrings (l : List String) : (ofStrings l).asList? asString? = some l := by
  have hread : ∀ s, asString? (string s) = some s := fun _ => rfl
  exact asList?_map hread l

theorem asStringMap?_toValue (m : StringMap) : m.toValue.asStringMap? = some m := by
  have hpairs : (m.entries.map fun entry => (entry.1, string entry.2)).mapM
      (fun entry : String × Value => entry.2.asString?.map (entry.1, ·)) = some m.entries := by
    generalize m.entries = entries
    induction entries with
    | nil => rfl
    | cons entry rest ih =>
      rw [List.map_cons, List.mapM_cons, ih]
      rfl
  change ((m.entries.map fun entry => (entry.1, string entry.2)).mapM
    (fun entry : String × Value => entry.2.asString?.map (entry.1, ·))).bind
      (fun pairs => some (StringMap.ofList pairs)) = some m
  rw [hpairs, Option.bind_some, StringMap.ofList_entries]

end Value

/-! ### The parts of a formula -/

def Package.fields (p : Package) : List Field :=
  let bare : Package := { name := p.name }
  [{ name := "name", Says := (· = .string p.name) },
    { name := "desc", Says := (· = .ofOption p.desc), Default := p.desc = bare.desc },
    { name := "homepage", Says := (· = .ofOption p.homepage)
      Default := p.homepage = bare.homepage },
    { name := "license", Says := (· = .ofOption p.license), Default := p.license = bare.license },
    { name := "version", Says := (· = .ofOption p.version), Default := p.version = bare.version },
    { name := "depends_on", Says := (· = .ofStrings p.dependsOn)
      Default := p.dependsOn = bare.dependsOn }]

/-- A value is a way to write a package. -/
def Package.Written (p : Package) : Value → Prop := Field.Table p.fields

theorem Package.written_toValue (p : Package) : p.Written p.toValue :=
  ⟨_, rfl, Field.written_of_forall₂ (by simp [Package.fields])⟩

theorem Package.ofValue?_of_written {p : Package} {v : Value} (h : p.Written v) :
    Package.ofValue? v = some p := by
  obtain ⟨entries, rfl, h⟩ := h
  have apart : Field.Apart p.fields := by
    simp [Field.Apart, Package.fields, Field.names]
  have option (s : Option String) := Value.read_only (Value.asOptional?_ofOption s)
  unfold Package.ofValue?
  rw [h.required?_eq apart 0 rfl (Value.read_only (a := p.name) rfl),
    h.defaulted?_eq apart 1 rfl (option p.desc), h.defaulted?_eq apart 2 rfl (option p.homepage),
    h.defaulted?_eq apart 3 rfl (option p.license), h.defaulted?_eq apart 4 rfl (option p.version),
    h.defaulted?_eq apart 5 rfl (Value.read_only (Value.asList?_ofStrings p.dependsOn))]
  rfl

def Source.fields (s : Source) : List Field :=
  let bare : Source := {}
  [{ name := "url", Says := (· = .ofOption s.url), Default := s.url = bare.url },
    { name := "sha256", others := ["checksum"], Says := (· = .ofOption s.checksum)
      Default := s.checksum = bare.checksum },
    { name := "vcs", Says := (· = .ofOption s.vcs), Default := s.vcs = bare.vcs },
    { name := "branch", Says := (· = .ofOption s.branch), Default := s.branch = bare.branch }]

def Source.Written (s : Source) : Value → Prop := Field.Table s.fields

theorem Source.written_toValue (s : Source) : s.Written s.toValue :=
  ⟨_, rfl, Field.written_of_forall₂ (by simp [Source.fields])⟩

theorem Source.ofValue?_of_written {s : Source} {v : Value} (h : s.Written v) :
    Source.ofValue? v = some s := by
  obtain ⟨entries, rfl, h⟩ := h
  have apart : Field.Apart s.fields := by
    simp [Field.Apart, Source.fields, Field.names]
  have option (o : Option String) := Value.read_only (Value.asOptional?_ofOption o)
  unfold Source.ofValue?
  rw [h.defaulted?_eq apart 0 rfl (option s.url), h.defaulted?_eq apart 1 rfl (option s.checksum),
    h.defaulted?_eq apart 2 rfl (option s.vcs), h.defaulted?_eq apart 3 rfl (option s.branch)]
  rfl

def HeadSource.fields (s : HeadSource) : List Field :=
  let bare : HeadSource := { vcs := s.vcs }
  [{ name := "vcs", Says := (· = .string s.vcs) },
    { name := "branch", Says := (· = .ofOption s.branch), Default := s.branch = bare.branch }]

def HeadSource.Written (s : HeadSource) : Value → Prop := Field.Table s.fields

theorem HeadSource.written_toValue (s : HeadSource) : s.Written s.toValue :=
  ⟨_, rfl, Field.written_of_forall₂ (by simp [HeadSource.fields])⟩

theorem HeadSource.ofValue?_of_written {s : HeadSource} {v : Value} (h : s.Written v) :
    HeadSource.ofValue? v = some s := by
  obtain ⟨entries, rfl, h⟩ := h
  have apart : Field.Apart s.fields := by
    simp [Field.Apart, HeadSource.fields, Field.names]
  unfold HeadSource.ofValue?
  rw [h.required?_eq apart 0 rfl (Value.read_only (a := s.vcs) rfl),
    h.defaulted?_eq apart 1 rfl (Value.read_only (Value.asOptional?_ofOption s.branch))]
  rfl

def Flag.symbolFields (name : String) (value : Option String) : List Field :=
  [{ name := "symbol", Says := (· = .string name) },
    { name := "value", Says := (· = .ofOption value), Default := value = none }]

/-- A value is a way to write a flag: its text, or a table for a symbol. -/
def Flag.Written : Flag → Value → Prop
  | .text template, v => v = .string template
  | .symbol name value, v => Field.Table (symbolFields name value) v

theorem Flag.written_toValue (flag : Flag) : flag.Written flag.toValue := by
  cases flag with
  | text template => rfl
  | symbol name value => exact ⟨_, rfl, Field.written_of_forall₂ (by simp [symbolFields])⟩

theorem Flag.ofValue?_of_written {flag : Flag} {v : Value} (h : flag.Written v) :
    Flag.ofValue? v = some flag := by
  cases flag with
  | text template =>
    cases h
    rfl
  | symbol name value =>
    obtain ⟨entries, rfl, h⟩ := h
    have apart : Field.Apart (symbolFields name value) := by
      simp [Field.Apart, symbolFields, Field.names]
    unfold Flag.ofValue?
    dsimp only
    rw [h.required?_eq apart 0 rfl (Value.read_only (a := name) rfl),
      h.defaulted?_eq apart 1 rfl (Value.read_only (Value.asOptional?_ofOption value))]
    rfl

/-- A value is a list of ways to write the items of a list. -/
def Value.ListOf {α : Type} (Written : α → Value → Prop) (l : List α) (v : Value) : Prop :=
  ∃ items, v = .array items ∧ List.Forall₂ Written l items

theorem Value.listOf_map {α : Type} {Written : α → Value → Prop} {write : α → Value}
    (h : ∀ a, Written a (write a)) (l : List α) : ListOf Written l (.array (l.map write)) := by
  refine ⟨_, rfl, ?_⟩
  rw [List.forall₂_map_right_iff, List.forall₂_same]
  exact fun a _ => h a

def Build.fields (b : Build) : List Field :=
  let bare : Build := { target := b.target }
  [{ name := "toolchain", Says := (· = .string b.toolchain)
     Default := b.toolchain = bare.toolchain },
    { name := "verb", Says := (· = .string b.verb), Default := b.verb = bare.verb },
    { name := "target", Says := (· = .string b.target) },
    { name := "binary", Says := (· = .ofOption b.binary), Default := b.binary = bare.binary },
    { name := "std_args", Says := (· = .bool b.stdArgs), Default := b.stdArgs = bare.stdArgs },
    { name := "flags_arg", Says := (· = .string b.flagsArg)
      Default := b.flagsArg = bare.flagsArg },
    { name := "flags", Says := Value.ListOf Flag.Written b.flags
      Default := b.flags = bare.flags },
    { name := "args", Says := (· = .ofStrings b.args), Default := b.args = bare.args },
    { name := "environment", Says := (· = b.environment.toValue)
      Default := b.environment = bare.environment }]

/-- A value is a way to write how a package is built. -/
def Build.Written (b : Build) : Value → Prop := Field.Table b.fields

theorem Build.written_toValue (b : Build) : b.Written b.toValue :=
  ⟨_, rfl, Field.written_of_forall₂ (by
    simp [Build.fields, Value.listOf_map Flag.written_toValue])⟩

theorem Build.ofValue?_of_written {b : Build} {v : Value} (h : b.Written v) :
    Build.ofValue? v = some b := by
  obtain ⟨entries, rfl, h⟩ := h
  have apart : Field.Apart b.fields := by
    simp [Field.Apart, Build.fields, Field.names]
  have text (s : String) : ∀ v, v = Value.string s → v.asString? = some s := Value.read_only rfl
  have flags : ∀ v, Value.ListOf Flag.Written b.flags v →
      v.asList? Flag.ofValue? = some b.flags := by
    rintro _ ⟨items, rfl, hitems⟩
    exact Value.asList?_of_forall₂ hitems fun _ _ _ => Flag.ofValue?_of_written
  unfold Build.ofValue?
  rw [h.defaulted?_eq apart 0 rfl (text b.toolchain), h.defaulted?_eq apart 1 rfl (text b.verb),
    h.required?_eq apart 2 rfl (text b.target),
    h.defaulted?_eq apart 3 rfl (Value.read_only (Value.asOptional?_ofOption b.binary)),
    h.defaulted?_eq apart 4 rfl (Value.read_only (a := b.stdArgs) rfl),
    h.defaulted?_eq apart 5 rfl (text b.flagsArg), h.defaulted?_eq apart 6 rfl flags,
    h.defaulted?_eq apart 7 rfl (Value.read_only (Value.asList?_ofStrings b.args)),
    h.defaulted?_eq apart 8 rfl (Value.read_only (Value.asStringMap?_toValue b.environment))]
  rfl

def Completions.fields (c : Completions) : List Field :=
  let bare : Completions := {}
  [{ name := "executable", Says := (· = .ofOption c.executable)
     Default := c.executable = bare.executable },
    { name := "subcommand", Says := (· = .string c.subcommand)
      Default := c.subcommand = bare.subcommand },
    { name := "shells", Says := (· = .ofStrings (c.shells.map Shell.name))
      Default := c.shells = bare.shells },
    { name := "shell_parameter_format", Says := (· = .string c.style.name)
      Default := c.style = bare.style },
    { name := "base_name", Says := (· = .ofOption c.baseName)
      Default := c.baseName = bare.baseName }]

/-- A value is a way to write the settings of a completions step. -/
def Completions.Written (c : Completions) : Value → Prop := Field.Table c.fields

theorem Completions.written_toValue (c : Completions) : c.Written c.toValue :=
  ⟨_, rfl, Field.written_of_forall₂ (by simp [Completions.fields])⟩

theorem Completions.ofValue?_of_written {c : Completions} {v : Value} (h : c.Written v) :
    Completions.ofValue? v = some c := by
  obtain ⟨entries, rfl, h⟩ := h
  have apart : Field.Apart c.fields := by
    simp [Field.Apart, Completions.fields, Field.names]
  have option (o : Option String) := Value.read_only (Value.asOptional?_ofOption o)
  have shells : (Value.ofStrings (c.shells.map Shell.name)).asList?
      (fun item => item.bareChoice?.bind Shell.ofName?) = some c.shells := by
    unfold Value.ofStrings
    rw [List.map_map]
    exact Value.asList?_map (fun shell => by cases shell <;> rfl) c.shells
  have style : (Value.string c.style.name).bareChoice?.bind ShellStyle.ofName? = some c.style := by
    cases c.style <;> rfl
  unfold Completions.ofValue?
  rw [h.defaulted?_eq apart 0 rfl (option c.executable),
    h.defaulted?_eq apart 1 rfl (Value.read_only (a := c.subcommand) rfl),
    h.defaulted?_eq apart 2 rfl (Value.read_only shells),
    h.defaulted?_eq apart 3 rfl (Value.read_only style),
    h.defaulted?_eq apart 4 rfl (option c.baseName)]
  rfl

/-- A value is a way to write a step: a table with its name as the only key. -/
def Step.Written : Step → Value → Prop
  | .completions c, v => ∃ settings, v = .table [("completions", settings)] ∧ c.Written settings

theorem Step.written_toValue (step : Step) : step.Written step.toValue := by
  obtain ⟨c⟩ := step
  exact ⟨_, rfl, c.written_toValue⟩

theorem Step.ofValue?_of_written {step : Step} {v : Value} (h : step.Written v) :
    Step.ofValue? v = some step := by
  obtain ⟨c⟩ := step
  obtain ⟨settings, rfl, h⟩ := h
  change (Completions.ofValue? settings).map Step.completions = _
  rw [Completions.ofValue?_of_written h]
  rfl

def Assertion.fields (a : Assertion) : List Field :=
  let bare : Assertion := { expect := a.expect }
  [{ name := "id", Says := (· = .ofOption a.id), Default := a.id = bare.id },
    { name := "args", Says := (· = .ofStrings a.args), Default := a.args = bare.args },
    { name := "expect", Says := (· = .string a.expect) },
    { name := "status", Says := (· = .int a.status.toInt), Default := a.status = bare.status }]

def Assertion.Written (a : Assertion) : Value → Prop := Field.Table a.fields

theorem Assertion.written_toValue (a : Assertion) : a.Written a.toValue :=
  ⟨_, rfl, Field.written_of_forall₂ (by simp [Assertion.fields])⟩

theorem Value.asInt32?_toInt (i : Int32) : (Value.int i.toInt).asInt32? = some i := by
  unfold asInt32?
  dsimp only
  rw [if_pos ⟨i.minValue_le_toInt, i.toInt_le⟩, Int32.ofInt_toInt]

theorem Assertion.ofValue?_of_written {a : Assertion} {v : Value} (h : a.Written v) :
    Assertion.ofValue? v = some a := by
  obtain ⟨entries, rfl, h⟩ := h
  have apart : Field.Apart a.fields := by
    simp [Field.Apart, Assertion.fields, Field.names]
  unfold Assertion.ofValue?
  rw [h.defaulted?_eq apart 0 rfl (Value.read_only (Value.asOptional?_ofOption a.id)),
    h.defaulted?_eq apart 1 rfl (Value.read_only (Value.asList?_ofStrings a.args)),
    h.required?_eq apart 2 rfl (Value.read_only (a := a.expect) rfl),
    h.defaulted?_eq apart 3 rfl (Value.read_only (Value.asInt32?_toInt a.status))]
  rfl

/-! ### Formulas -/

namespace Formula

/-- A value is a way to write a development source, or says that there is none. -/
def HeadWritten : Option HeadSource → Value → Prop
  | none, v => v = .null
  | some s, v => s.Written v

theorem headWritten_toValue (head : Option HeadSource) :
    HeadWritten head ((head.map HeadSource.toValue).getD .null) := by
  cases head with
  | none => rfl
  | some s => exact s.written_toValue

theorem asOptional?_of_headWritten {head : Option HeadSource} {v : Value}
    (h : HeadWritten head v) : v.asOptional? HeadSource.ofValue? = some head := by
  cases head with
  | none =>
    cases h
    rfl
  | some s =>
    have hread := HeadSource.ofValue?_of_written h
    obtain ⟨entries, rfl, -⟩ := h
    change (HeadSource.ofValue? _).map some = _
    rw [hread]
    rfl

def fields (f : Formula) : List Field :=
  let bare : Formula := { package := f.package, source := f.source, build := f.build }
  [{ name := "package", Says := f.package.Written },
    { name := "source", Says := f.source.Written },
    { name := "head", Says := HeadWritten f.head, Default := f.head = bare.head },
    { name := "build", Says := f.build.Written },
    { name := "post_install", Says := Value.ListOf Step.Written f.postInstall
      Default := f.postInstall = bare.postInstall },
    { name := "test", Says := Value.ListOf Assertion.Written f.tests
      Default := f.tests = bare.tests },
    { name := "variables", Says := (· = f.bindings.toValue)
      Default := f.bindings = bare.bindings }]

/-- A value is a way to write a formula. -/
def Written (f : Formula) : Value → Prop := Field.Table f.fields

/-- The value of a formula is a way to write it: the one that leaves nothing out. -/
theorem written_toValue (f : Formula) : f.Written f.toValue := by
  refine ⟨_, rfl, Field.written_of_forall₂ ?_⟩
  simp [fields, Package.written_toValue, Source.written_toValue, headWritten_toValue,
    Build.written_toValue, Value.listOf_map Step.written_toValue,
    Value.listOf_map Assertion.written_toValue]

theorem ofValue?_of_written {f : Formula} {v : Value} (h : f.Written v) :
    Formula.ofValue? v = some f := by
  obtain ⟨entries, rfl, h⟩ := h
  have apart : Field.Apart f.fields := by
    simp [Field.Apart, fields, Field.names]
  have steps : ∀ v, Value.ListOf Step.Written f.postInstall v →
      v.asList? Step.ofValue? = some f.postInstall := by
    rintro _ ⟨items, rfl, hitems⟩
    exact Value.asList?_of_forall₂ hitems fun _ _ _ => Step.ofValue?_of_written
  have tests : ∀ v, Value.ListOf Assertion.Written f.tests v →
      v.asList? Assertion.ofValue? = some f.tests := by
    rintro _ ⟨items, rfl, hitems⟩
    exact Value.asList?_of_forall₂ hitems fun _ _ _ => Assertion.ofValue?_of_written
  unfold Formula.ofValue?
  rw [h.required?_eq apart 0 rfl fun _ => Package.ofValue?_of_written,
    h.required?_eq apart 1 rfl fun _ => Source.ofValue?_of_written,
    h.defaulted?_eq apart 2 rfl fun _ => asOptional?_of_headWritten,
    h.required?_eq apart 3 rfl fun _ => Build.ofValue?_of_written,
    h.defaulted?_eq apart 4 rfl steps, h.defaulted?_eq apart 5 rfl tests,
    h.defaulted?_eq apart 6 rfl (Value.read_only (Value.asStringMap?_toValue f.bindings))]
  rfl

/-- **A formula is read back from the value it is written as**, and from every other way to write
it: fields that hold their defaults say nothing else when they are left out. -/
theorem read_back (f : Formula) :
    Formula.ofValue? f.toValue = some f ∧ ∀ v, f.Written v → Formula.ofValue? v = some f :=
  ⟨ofValue?_of_written f.written_toValue, fun _ => ofValue?_of_written⟩

/-- A formula with a symbol of no value, a step with nothing but defaults and an assertion. -/
def sparse : Formula where
  package := { name := "demo", dependsOn := ["go"] }
  source := { url := some "https://example.org/demo-1.0.tar", checksum := some "none yet" }
  build := { target := ".", flags := [.text "-s", .symbol "main.commit" none] }
  postInstall := [.completions {}]
  tests := [{ expect := "1.0", status := 3 }]

/-- A way to write it that leaves out what can be left out, with the checksum under its other
name. -/
def sparseValue : Value := .table [
  ("package", .table [("name", .string "demo"), ("depends_on", .array [.string "go"])]),
  ("source", .table [("url", .string "https://example.org/demo-1.0.tar"),
    ("checksum", .string "none yet")]),
  ("build", .table [("target", .string "."),
    ("flags", .array [.string "-s", .table [("symbol", .string "main.commit")]])]),
  ("post_install", .array [.table [("completions", .table [])]]),
  ("test", .array [.table [("expect", .string "1.0"), ("status", .int 3)]])]

theorem written_sparseValue : sparse.Written sparseValue := by
  have hpackage : sparse.package.Written
      (.table [("name", .string "demo"), ("depends_on", .array [.string "go"])]) :=
    ⟨_, rfl, .entry (.head _) rfl <| .leftOut rfl <| .leftOut rfl <| .leftOut rfl <|
      .leftOut rfl <| .entry (.head _) rfl .nil⟩
  have hsource : sparse.source.Written (.table [("url", .string "https://example.org/demo-1.0.tar"),
      ("checksum", .string "none yet")]) :=
    ⟨_, rfl, .entry (.head _) rfl <| .entry (.tail _ (.head _)) rfl <| .leftOut rfl <|
      .leftOut rfl .nil⟩
  have hflag : (Flag.symbol "main.commit" none).Written
      (.table [("symbol", .string "main.commit")]) :=
    ⟨_, rfl, .entry (.head _) rfl <| .leftOut rfl .nil⟩
  have hbuild : sparse.build.Written (.table [("target", .string "."),
      ("flags", .array [.string "-s", .table [("symbol", .string "main.commit")]])]) :=
    ⟨_, rfl, .leftOut rfl <| .leftOut rfl <| .entry (.head _) rfl <| .leftOut rfl <|
      .leftOut rfl <| .leftOut rfl <| .entry (.head _) ⟨_, rfl, .cons rfl (.cons hflag .nil)⟩ <|
      .leftOut rfl <| .leftOut rfl .nil⟩
  have hstep : (Step.completions {}).Written (.table [("completions", .table [])]) :=
    ⟨_, rfl, _, rfl, .leftOut rfl <| .leftOut rfl <| .leftOut rfl <| .leftOut rfl <|
      .leftOut rfl .nil⟩
  have htest : Assertion.Written { expect := "1.0", status := 3 }
      (.table [("expect", .string "1.0"), ("status", .int 3)]) :=
    ⟨_, rfl, .leftOut rfl <| .leftOut rfl <| .entry (.head _) rfl <| .entry (.head _) rfl .nil⟩
  exact ⟨_, rfl, .entry (.head _) hpackage <| .entry (.head _) hsource <| .leftOut rfl <|
    .entry (.head _) hbuild <| .entry (.head _) ⟨_, rfl, .cons hstep .nil⟩ <|
    .entry (.head _) ⟨_, rfl, .cons htest .nil⟩ <| .leftOut rfl .nil⟩

theorem read_back_sparse :
    Formula.ofValue? sparse.toValue = some sparse ∧ Formula.ofValue? sparseValue = some sparse :=
  ⟨sparse.read_back.1, sparse.read_back.2 _ written_sparseValue⟩

end Formula

end Formulary
