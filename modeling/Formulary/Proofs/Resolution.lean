import Formulary.Proofs.Results
import Formulary.Resolution

/-!
# What a resolution can come to

The templates of a formula stand in four lists, and each of them is resolved by itself, under the
same variables (`Formula.outcomes`). A resolution has what all of them come to, each at the place of
its declaration (`Resolution.Declared`), or it is the failure of the first of them that fails, which is
a variable without a value: `resolve_all_or_first`, `unresolved_of_resolve`.
-/

namespace Formulary

/-- A failure that tells of a variable without a value. -/
def Failure.Unresolved (e : Failure) : Prop := ∃ key template, e = .unresolvedVariable key template

theorem unresolved_of_substitute {template : String} {bindings : StringMap} {e : Failure}
    (h : substitute template bindings = .error e) : e.Unresolved := by
  unfold substitute at h
  split at h
  · cases h
  · cases h
    exact ⟨_, _, rfl⟩

theorem unresolved_of_flag {bindings : StringMap} {flag : Flag} {e : Failure}
    (h : flag.resolve bindings = .error e) : e.Unresolved := by
  match flag with
  | .text template => exact unresolved_of_substitute h
  | .symbol name (some template) => exact unresolved_of_substitute (map_eq_error.1 h)
  | .symbol name none =>
    simp only [Flag.resolve] at h
    split at h
    · cases h
    · cases h
      exact ⟨_, _, rfl⟩

/-! ### Declarations -/

/-- What each template of a formula comes to under variables: those of its flags, of its arguments,
of its environment in the order of the names, and of its expectations. -/
def Formula.outcomes (f : Formula) (bindings : StringMap) : List (Except Failure String) :=
  f.build.flags.map (Flag.resolve bindings) ++
  (f.build.args.map (substitute · bindings) ++
  (f.build.environment.entries.map (fun entry => substitute entry.2 bindings) ++
    f.tests.map fun test => substitute test.expect bindings))

namespace Resolution

variable {f : Formula} {d : Descriptor} {c : Context}

/-- A resolution has, in the place of each declaration, what this one comes to. -/
structure Declared (f : Formula) (d : Descriptor) (c : Context) (r : Resolution) : Prop where
  bindings : r.bindings = bindVariables d f.bindings c
  flags : List.Forall₂ (fun flag text => flag.resolve r.bindings = .ok text) f.build.flags r.flags
  args : List.Forall₂ (fun arg text => substitute arg r.bindings = .ok text) f.build.args r.args
  environment : List.Forall₂ (fun declared resolved => resolved.1 = declared.1 ∧
    substitute declared.2 r.bindings = .ok resolved.2) f.build.environment.entries r.environment
  expectations : List.Forall₂ (fun test text => substitute test.expect r.bindings = .ok text)
    f.tests r.expectations
  root : r.root = c.root
  artifact : r.artifact = c.binDir.join f.binaryName

theorem mapM_environment_eq_ok_iff {bindings : StringMap} {entries environment : Environment} :
    (entries.mapM fun (key, value) => (substitute value bindings).map (key, ·)) =
        .ok environment ↔
      List.Forall₂ (fun declared resolved => resolved.1 = declared.1 ∧
        substitute declared.2 bindings = .ok resolved.2) entries environment := by
  rw [mapM_eq_ok_iff]
  refine iff_of_eq (congrArg (List.Forall₂ · entries environment) ?_)
  funext declared resolved
  obtain ⟨name, value⟩ := resolved
  refine propext (map_eq_ok.trans ⟨?_, ?_⟩)
  · rintro ⟨text, htext, h⟩
    cases h
    exact ⟨rfl, htext⟩
  · rintro ⟨rfl, htext⟩
    exact ⟨value, htext, rfl⟩

theorem resolve_eq_ok_iff {r : Resolution} : resolve f d c = .ok r ↔ Declared f d c r := by
  unfold resolve resolveFlags
  simp only [bind_eq_ok]
  constructor
  · rintro ⟨flags, hflags, args, hargs, environment, henv, expectations, hexp, h⟩
    cases h
    exact ⟨rfl, mapM_eq_ok_iff.1 hflags, mapM_eq_ok_iff.1 hargs,
      mapM_environment_eq_ok_iff.1 henv, mapM_eq_ok_iff.1 hexp, rfl, rfl⟩
  · obtain ⟨bindings, flags, args, environment, expectations, root, artifact⟩ := r
    rintro ⟨rfl, hflags, hargs, henv, hexp, rfl, rfl⟩
    exact ⟨flags, mapM_eq_ok_iff.2 hflags, args, mapM_eq_ok_iff.2 hargs,
      environment, mapM_environment_eq_ok_iff.2 henv, expectations, mapM_eq_ok_iff.2 hexp, rfl⟩

/-- The failure of a resolution is that of the first template that fails. -/
theorem resolve_eq_error_iff {e : Failure} :
    resolve f d c = .error e ↔ FirstFails id (f.outcomes (bindVariables d f.bindings c)) e := by
  simp only [Formula.outcomes, firstFails_append, firstFails_map, List.forall_mem_map, id_eq]
  -- One list after another, as the lists are resolved.
  refine mapM_bind_eq_error_iff fun flags => ?_
  refine mapM_bind_eq_error_iff fun args => ?_
  refine (mapM_bind_eq_error_iff fun environment => ?_).trans
    (or_congr firstFails_of_map (and_congr_left' (by simp only [exists_map_eq_ok])))
  rw [bind_eq_error, mapM_eq_error_iff]
  refine or_iff_left ?_
  rintro ⟨expectations, -, h⟩
  cases h

theorem exists_resolve_eq_ok :
    (∃ r, resolve f d c = .ok r) ↔
      ∀ item ∈ f.outcomes (bindVariables d f.bindings c), ∃ text, item = .ok text := by
  have hitems := exists_mapM_eq_ok (f := id) (l := f.outcomes (bindVariables d f.bindings c))
  rw [exists_eq_ok_iff] at hitems ⊢
  simp only [id_eq] at hitems
  rw [← hitems]
  simp only [ne_eq, resolve_eq_error_iff, mapM_eq_error_iff]

namespace Declared

variable {r : Resolution}

theorem map_fst_environment (h : Declared f d c r) :
    r.environment.map Prod.fst = f.build.environment.entries.map Prod.fst := by
  rw [eq_comm, ← List.forall₂_eq_eq_eq, List.forall₂_map_left_iff, List.forall₂_map_right_iff]
  exact h.environment.imp fun declared resolved hkey => hkey.1.symm

end Declared

theorem resolve_eq_ok {r : Resolution} (h : resolve f d c = .ok r) :
    (f.tests.mapM fun test => substitute test.expect (bindVariables d f.bindings c)) =
        .ok r.expectations ∧
      r.root = c.root ∧ r.artifact = c.binDir.join f.binaryName := by
  have hr := resolve_eq_ok_iff.1 h
  refine ⟨?_, hr.root, hr.artifact⟩
  rw [← hr.bindings]
  exact mapM_eq_ok_iff.2 hr.expectations

theorem length_expectations {r : Resolution} (h : resolve f d c = .ok r) :
    r.expectations.length = f.tests.length :=
  (resolve_eq_ok_iff.1 h).expectations.length_eq.symm

/-- The only failure of a resolution is a variable without a value. -/
theorem unresolved_of_resolve {e : Failure} (h : resolve f d c = .error e) : e.Unresolved := by
  obtain ⟨before, item, after, hparts, -, hitem⟩ := resolve_eq_error_iff.1 h
  have hmem : item ∈ f.outcomes (bindVariables d f.bindings c) := by simp [hparts]
  obtain rfl : item = .error e := hitem
  simp only [Formula.outcomes, List.mem_append, List.mem_map] at hmem
  obtain ⟨flag, -, hflag⟩ | ⟨arg, -, harg⟩ | ⟨entry, -, hvalue⟩ | ⟨test, -, htest⟩ := hmem
  · exact unresolved_of_flag hflag
  · exact unresolved_of_substitute harg
  · exact unresolved_of_substitute hvalue
  · exact unresolved_of_substitute htest

/-- Templates are resolved all or none. If each of them can be, then the resolution has what each
comes to in the place of its declaration, and the names of the environment are the declared ones.
Otherwise the failure is that of the first that fails: of the flags, then of the arguments, then of
the environment in the order of its names, then of the expectations. -/
theorem resolve_all_or_first (f : Formula) (d : Descriptor) (c : Context) :
    let bindings := bindVariables d f.bindings c
    ((∃ r, resolve f d c = .ok r) ↔
      (∀ flag ∈ f.build.flags, ∃ text, flag.resolve bindings = .ok text) ∧
      (∀ arg ∈ f.build.args, ∃ text, substitute arg bindings = .ok text) ∧
      (∀ entry ∈ f.build.environment.entries, ∃ text, substitute entry.2 bindings = .ok text) ∧
      (∀ test ∈ f.tests, ∃ text, substitute test.expect bindings = .ok text)) ∧
    (∀ r, resolve f d c = .ok r ↔ Declared f d c r) ∧
    (∀ r, resolve f d c = .ok r →
      r.flags.length = f.build.flags.length ∧ r.args.length = f.build.args.length ∧
      r.environment.map Prod.fst = f.build.environment.entries.map Prod.fst ∧
      r.expectations.length = f.tests.length) ∧
    Ascending f.build.environment.entries ∧
    ∀ e, resolve f d c = .error e ↔ FirstFails id (f.outcomes bindings) e := by
  refine ⟨?_, fun r => resolve_eq_ok_iff, fun r h => ?_, f.build.environment.keys_ascending,
    fun e => resolve_eq_error_iff⟩
  · rw [exists_resolve_eq_ok]
    simp only [Formula.outcomes, List.forall_mem_append, List.forall_mem_map]
  · have hr := resolve_eq_ok_iff.1 h
    exact ⟨hr.flags.length_eq.symm, hr.args.length_eq.symm, hr.map_fst_environment,
      hr.expectations.length_eq.symm⟩

end Resolution

end Formulary
