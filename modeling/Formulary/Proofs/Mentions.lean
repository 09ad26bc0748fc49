import Formulary.Proofs.Descriptor
import Formulary.Proofs.Results
import Formulary.Proofs.Variables

/-!
# What a resolution looks at

A template looks up the keys of its placeholders, a symbol without a value its short name, and a
resolution nothing else (`Formula.mentions`). Where the variables agree on these keys, a formula is
resolved to the same texts, or with the same failure; and since a build at another time differs in
one variable only, what does not mention that one is the same at any time:
`resolve_depends_on_mentions`.
-/

namespace Formulary

/-! ### Keys that are looked up -/

/-- The keys of a template's placeholders. -/
def templateKeys (template : String) : List String :=
  (Template.parse template.toList).keys.map String.ofList

def Flag.mentions : Flag → List String
  | .text template => templateKeys template
  | .symbol _ (some template) => templateKeys template
  | .symbol name none => [symbolShortName name]

def Formula.mentions (f : Formula) : List String :=
  f.build.flags.flatMap Flag.mentions ++ f.build.args.flatMap templateKeys ++
    f.build.environment.entries.flatMap (fun entry => templateKeys entry.2) ++
    f.tests.flatMap fun test => templateKeys test.expect

/-- Two maps have the same values, or none, under some keys. -/
def StringMap.AgreeOn (keys : List String) (m m' : StringMap) : Prop :=
  ∀ key ∈ keys, m.get? key = m'.get? key

instance (keys : List String) (m m' : StringMap) : Decidable (StringMap.AgreeOn keys m m') :=
  inferInstanceAs (Decidable (∀ key ∈ keys, m.get? key = m'.get? key))

/-! ### Templates under maps that agree -/

section Agree

variable {m m' : StringMap}

theorem StringMap.agreeOn_append {keys keys' : List String} :
    AgreeOn (keys ++ keys') m m' ↔ AgreeOn keys m m' ∧ AgreeOn keys' m m' :=
  List.forall_mem_append

theorem StringMap.agreeOn_flatMap {α : Type} {l : List α} {keysOf : α → List String} :
    AgreeOn (l.flatMap keysOf) m m' ↔ ∀ a ∈ l, AgreeOn (keysOf a) m m' := by
  simp only [AgreeOn, List.mem_flatMap]
  exact ⟨fun h a ha key hkey => h key ⟨a, ha, hkey⟩, fun h key ⟨a, ha, hkey⟩ => h a ha key hkey⟩

theorem Template.expand_congr {value? value?' : List Char → Option (List Char)} {t : Template}
    (h : ∀ key ∈ t.keys, value? key = value?' key) : t.expand value? = t.expand value?' := by
  induction t with
  | plain text => rfl
  | unclosed text rest => rfl
  | hole text key next ih =>
    obtain ⟨hkey, hnext⟩ := List.forall_mem_cons.1 h
    rw [expand, expand, hkey, ih hnext]

theorem substitute_of_agree {template : String}
    (h : StringMap.AgreeOn (templateKeys template) m m') :
    substitute template m = substitute template m' := by
  have hexpand : (Template.parse template.toList).expand m.lookup =
      (Template.parse template.toList).expand m'.lookup := by
    refine Template.expand_congr fun key hkey => ?_
    unfold StringMap.lookup
    rw [h _ (List.mem_map_of_mem hkey)]
  rw [substitute, substitute, hexpand]

theorem Flag.resolve_of_agree {flag : Flag} (h : StringMap.AgreeOn flag.mentions m m') :
    flag.resolve m = flag.resolve m' := by
  match flag with
  | .text template => exact substitute_of_agree h
  | .symbol name (some template) =>
    exact congrArg (Except.map (symbolFlag name)) (substitute_of_agree h)
  | .symbol name none =>
    have hkey := h _ (List.mem_singleton_self (symbolShortName name))
    simp only [Flag.resolve, hkey]

/-- What all templates of a formula come to: the flags, the arguments, the environment and what the
assertions expect. -/
def Formula.expandAll (f : Formula) (m : StringMap) :
    Except Failure (List String × List String × List (String × String) × List String) := do
  let flags ← resolveFlags f.build.flags m
  let args ← f.build.args.mapM (substitute · m)
  let environment ← f.build.environment.entries.mapM fun (key, value) =>
    (substitute value m).map (key, ·)
  let expectations ← f.tests.mapM fun test => substitute test.expect m
  return (flags, args, environment, expectations)

/-- **Where the variables that a formula mentions are bound alike, its templates come to the same,**
also when they fail. -/
theorem Formula.expandAll_of_agree {f : Formula} (h : StringMap.AgreeOn f.mentions m m') :
    f.expandAll m = f.expandAll m' := by
  simp only [mentions, StringMap.agreeOn_append, StringMap.agreeOn_flatMap] at h
  obtain ⟨⟨⟨hflags, hargs⟩, henvironment⟩, htests⟩ := h
  have hflags' : resolveFlags f.build.flags m = resolveFlags f.build.flags m' :=
    mapM_congr fun flag hflag => Flag.resolve_of_agree (hflags flag hflag)
  have hargs' : f.build.args.mapM (substitute · m) = f.build.args.mapM (substitute · m') :=
    mapM_congr fun arg harg => substitute_of_agree (hargs arg harg)
  have henvironment' :
      (f.build.environment.entries.mapM fun (key, value) => (substitute value m).map (key, ·)) =
        f.build.environment.entries.mapM fun (key, value) => (substitute value m').map (key, ·) :=
    mapM_congr fun entry hentry =>
      congrArg (Except.map (entry.1, ·)) (substitute_of_agree (henvironment entry hentry))
  have htests' : (f.tests.mapM fun test => substitute test.expect m) =
      f.tests.mapM fun test => substitute test.expect m' :=
    mapM_congr fun test htest => substitute_of_agree (htests test htest)
  rw [expandAll, expandAll, hflags', hargs', henvironment', htests']

end Agree

/-! ### Resolutions -/

namespace Resolution

/-- The texts that a resolution gives to the later stages. -/
def texts (r : Resolution) :
    List String × List String × List (String × String) × List String :=
  (r.flags, r.args, r.environment, r.expectations)

theorem map_texts_resolve (f : Formula) (d : Descriptor) (c : Context) :
    (resolve f d c).map texts = f.expandAll (bindVariables d f.bindings c) := by
  unfold resolve Formula.expandAll
  simp only [map_bind]
  rfl

end Resolution

/-! ### Builds at different times -/

/-- The same build at another time. -/
def Context.at (c : Context) (date : Int) : Context := { c with buildDate := date }

theorem get?_bindVariables_at {key : String} (h : key ≠ "build_date") (d : Descriptor)
    (custom : StringMap) (c : Context) (date : Int) :
    (bindVariables d custom (c.at date)).get? key = (bindVariables d custom c).get? key := by
  have hbuiltin : (builtinVariables d (c.at date)).reverse.lookup key =
      (builtinVariables d c).reverse.lookup key := by
    simp [builtinVariables, Context.at, Context.binDir, List.lookup_append, List.lookup_cons,
      beq_false_of_ne h]
  rw [get?_bindVariables_eq_or, get?_bindVariables_eq_or, hbuiltin]

theorem agreeOn_at {keys : List String} (h : "build_date" ∉ keys) (d : Descriptor)
    (custom : StringMap) (c : Context) (date : Int) :
    StringMap.AgreeOn keys (bindVariables d custom (c.at date)) (bindVariables d custom c) := by
  intro key hkey
  refine get?_bindVariables_at ?_ d custom c date
  rintro rfl
  exact h hkey

/-- **A resolution depends only on the variables that the formula mentions.** Where they are bound
alike, or alike not bound, the texts are the same, or the failure is. So at another time every
template and every flag that does not mention the time comes to the same, and the whole formula does
if it never mentions it. -/
theorem resolve_depends_on_mentions (f : Formula) (d : Descriptor) :
    (∀ custom custom' c c',
      StringMap.AgreeOn f.mentions (bindVariables d custom c) (bindVariables d custom' c') →
        (Resolution.resolve { f with bindings := custom } d c).map Resolution.texts =
          (Resolution.resolve { f with bindings := custom' } d c').map Resolution.texts) ∧
    ∀ c date,
      (∀ template, "build_date" ∉ templateKeys template →
        substitute template (bindVariables d f.bindings (c.at date)) =
          substitute template (bindVariables d f.bindings c)) ∧
      (∀ flag : Flag, "build_date" ∉ flag.mentions →
        flag.resolve (bindVariables d f.bindings (c.at date)) =
          flag.resolve (bindVariables d f.bindings c)) ∧
      ("build_date" ∉ f.mentions →
        (Resolution.resolve f d (c.at date)).map Resolution.texts =
          (Resolution.resolve f d c).map Resolution.texts) := by
  refine ⟨fun custom custom' c c' h => ?_, fun c date => ⟨fun template h => ?_, fun flag h => ?_,
    fun h => ?_⟩⟩
  · rw [Resolution.map_texts_resolve, Resolution.map_texts_resolve]
    exact Formula.expandAll_of_agree (f := f) h
  · exact substitute_of_agree (agreeOn_at h d f.bindings c date)
  · exact Flag.resolve_of_agree (agreeOn_at h d f.bindings c date)
  · rw [Resolution.map_texts_resolve, Resolution.map_texts_resolve]
    exact Formula.expandAll_of_agree (agreeOn_at h d f.bindings c date)

/-! ### A formula that mentions three variables -/

def tagged : StringMap := .ofList [("Tag", "beta")]

/-- A formula that mentions its version, who acts and one of its own variables. -/
def taggedFormula : Formula :=
  { Formula.cloned with
    build := {
      target := "."
      flags := [.text "-s", .symbol "main.Version" (some "%(version)s"), .symbol "demo/Tag" none]
      args := ["-by=%(tap_user)s"] }
    tests := [{ expect := "demo %(version)s" }]
    bindings := tagged }

/-- The same variable and another one, which the formula does not mention. -/
def taggedTwice : StringMap := .ofList [("Tag", "beta"), ("Other", "1")]

/-- A build of a known commit on the day after. -/
def nextDay : Context := ⟨"/p", 86400, "user", some "0a1b2c"⟩

theorem resolve_tagged :
    StringMap.AgreeOn taggedFormula.mentions (bindVariables .cloned tagged .first)
      (bindVariables .cloned taggedTwice nextDay) ∧
    "build_date" ∉ taggedFormula.mentions ∧
    ∀ r ∈ [Resolution.resolve { taggedFormula with bindings := taggedTwice } .cloned nextDay,
        Resolution.resolve taggedFormula .cloned (Context.first.at 86400)],
      r.map Resolution.texts = .ok (["-s", "-X main.Version=HEAD", "-X demo/Tag=beta"],
        ["-by=user"], [], ["demo HEAD"]) := by
  have hagree : StringMap.AgreeOn taggedFormula.mentions
      (bindVariables .cloned tagged .first)
      (bindVariables .cloned taggedTwice nextDay) := by decide +kernel
  have hdate : "build_date" ∉ taggedFormula.mentions := by decide +kernel
  have hfirst : (Resolution.resolve taggedFormula .cloned .first).map
        Resolution.texts =
      .ok (["-s", "-X main.Version=HEAD", "-X demo/Tag=beta"], ["-by=user"], [], ["demo HEAD"]) := by
    decide +kernel
  obtain ⟨hbound, htime⟩ := resolve_depends_on_mentions taggedFormula .cloned
  refine ⟨hagree, hdate, ?_⟩
  rw [List.forall_mem_cons, List.forall_mem_singleton, ← hfirst]
  exact ⟨(hbound _ _ _ _ hagree).symm, (htime .first 86400).2.2 hdate⟩

end Formulary
