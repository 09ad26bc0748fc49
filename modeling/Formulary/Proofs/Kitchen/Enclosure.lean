import Formulary.Formula.Validate
import Formulary.Proofs.Install.Landing
import Formulary.Proofs.Kitchen.Artifact
import Formulary.Proofs.Kitchen.Report
import Formulary.Proofs.Settling

/-!
# Where a run writes

A run writes its program, the directory that leads to it, and the scripts of its steps, all at
places that are put together of the root, a directory below it and a name that the formula gives.
These places are within every root just if no name leads above the root from its directory:
`enclosed_cook`. Nothing checks the names, so those of a formula that passes every check may lead
anywhere: `strays_cook`.
-/

namespace Formulary

/-! ### The places of a formula -/

/-- The directory below the root where a shell looks for scripts. -/
def Shell.directory : Shell → String
  | .bash => "share/bash-completion/completions"
  | .zsh => "share/zsh/site-functions"
  | .fish => "share/fish/vendor_completions.d"

def Shell.fileName (base : String) : Shell → String
  | .bash => base
  | .zsh => "_" ++ base
  | .fish => base ++ ".fish"

theorem Shell.completionPath_eq (shell : Shell) (root : Path) (base : String) :
    shell.completionPath root base = (root.join shell.directory).join (shell.fileName base) := by
  cases shell <;> rfl

theorem Shell.relative_directory (shell : Shell) : Path.isAbsolute ⟨shell.directory⟩ = false := by
  cases shell <;> decide +kernel

namespace Formula

/-- The base of the file names a step of a formula writes. -/
def scriptBase (f : Formula) (c : Completions) : String :=
  c.baseName.getD (c.executable.getD f.binaryName)

def programPlace (f : Formula) (root : Path) : Path := (root.join "bin").join f.binaryName

def scriptPlaces (f : Formula) (root : Path) : List Path :=
  f.postInstall.flatMap fun (.completions c) =>
    c.shells.map (·.completionPath root (f.scriptBase c))

/-- Where the program goes, the directory that leads there, and where scripts go. -/
def places (f : Formula) (root : Path) : List Path :=
  f.programPlace root :: ((f.programPlace root).parent?.toList ++ f.scriptPlaces root)

/-- No name leads above the root from the directory that it is put in. -/
structure Enclosed (f : Formula) : Prop where
  program : Path.Stays "bin" f.binaryName
  scripts : ∀ c, .completions c ∈ f.postInstall → ∀ shell ∈ c.shells,
    Path.Stays shell.directory (shell.fileName (f.scriptBase c))

variable {f : Formula} {root p : Path}

theorem mem_scriptPlaces :
    p ∈ f.scriptPlaces root ↔ ∃ c, .completions c ∈ f.postInstall ∧ ∃ shell ∈ c.shells,
      (root.join shell.directory).join (shell.fileName (f.scriptBase c)) = p := by
  unfold scriptPlaces
  rw [List.mem_flatMap]
  constructor
  · rintro ⟨⟨c⟩, hc, hp⟩
    obtain ⟨shell, hshell, rfl⟩ := List.mem_map.1 hp
    exact ⟨c, hc, shell, hshell, (shell.completionPath_eq root _).symm⟩
  · rintro ⟨c, hc, shell, hshell, rfl⟩
    exact ⟨.completions c, hc, List.mem_map.2 ⟨shell, hshell, shell.completionPath_eq root _⟩⟩

/-- Names that stay below every root make places within every root, and no others do. -/
theorem enclosed_iff (f : Formula) :
    f.Enclosed ↔
      ∀ root : Path, root.isAbsolute = true → ∀ p ∈ f.places root, Path.Within root p := by
  have hbin : Path.isAbsolute ⟨"bin"⟩ = false := by decide +kernel
  constructor
  · intro h root hroot p hp
    rcases List.mem_cons.1 hp with rfl | hp
    · exact h.program.within hbin hroot
    rcases List.mem_append.1 hp with hp | hp
    · exact h.program.parent_within hbin (by decide +kernel) hroot (Option.mem_toList.1 hp)
    · obtain ⟨c, hc, shell, hshell, rfl⟩ := mem_scriptPlaces.1 hp
      exact (h.scripts c hc shell hshell).within shell.relative_directory hroot
  · intro h
    refine ⟨(Path.stays_iff hbin).2 fun root hroot => h root hroot _ List.mem_cons_self, ?_⟩
    intro c hc shell hshell
    refine (Path.stays_iff shell.relative_directory).2 fun root hroot => h root hroot _ ?_
    refine List.mem_cons_of_mem _ (List.mem_append_right _ (mem_scriptPlaces.2 ?_))
    exact ⟨c, hc, shell, hshell, rfl⟩

end Formula

/-! ### The places of a run -/

namespace Kitchen

variable (k : Kitchen) (f : Formula) (d : Descriptor) (r : Resolution)

theorem build_gives {s : Session} {w : World} {a : Path}
    (h : (outcomeWith (k.build f d r) s w).1 = .ok a) : a = r.artifact := by
  rw [outcomeWith_build, attempted_bind] at h
  split at h
  · next dir v _ => exact (k.compile_ends f r dir v).1 a h
  · cases h

/-- The scripts that were installed are among those of the formula, and all of them if nothing
failed. -/
theorem postInstall_installs (s : Session) (w : World) :
    (outcomeWith (k.postInstall f r) s w).2.1.installed ⊆ f.scriptPlaces r.root ∧
    ((outcomeWith (k.postInstall f r) s w).1 = .ok () →
      (outcomeWith (k.postInstall f r) s w).2.1.installed = f.scriptPlaces r.root) := by
  let setting : Install.Setting := {
    launch := k.launch, root := r.root, binary := f.binaryName
    timeout := k.settings.testTimeout }
  obtain ⟨added, hadded, hran⟩ := Install.ran_performAll setting f.postInstall [] w
  rw [List.nil_append] at hadded
  change (outcome (Install.performAll setting f.postInstall []) w).1.1 ⊆ _ ∧
    ((outcome (Install.performAll setting f.postInstall []) w).1.2 = .ok () →
      (outcome (Install.performAll setting f.postInstall []) w).1.1 = _)
  rw [hadded]
  exact ⟨hran.subset, hran.places_of_ok⟩

theorem verify_installed (s : Session) (w : World) :
    (outcomeWith (k.verify f r) s w).2.1.installed = s.installed := by
  unfold verify
  rw [outcomeWith_bind, outcomeWith_lift, outcome_run]
  rcases attempted (Smoke.run k.launch r.artifact f.tests r.expectations k.settings.testTimeout) w
    with ⟨e | report, v⟩ <;> rfl

/-- Where the program is and what was installed, as far as a run has come. -/
structure Placed (f : Formula) (c : Context) (course : Course) (s : Session) : Prop where
  program : ∀ a, course.artifact = some a → a = f.programPlace c.root
  scripts : s.installed ⊆ f.scriptPlaces c.root
  verified : course.pipeline.state = .verified →
    course.artifact = some (f.programPlace c.root) ∧ s.installed = f.scriptPlaces c.root

section Placed

variable {f : Formula} {c : Context} {p : Pipeline} {r : Option Resolution} {s : Session}

theorem Placed.unbuilt (hp : p.state ≠ .verified) (hs : s.installed = []) :
    Placed f c { pipeline := p, resolution := r } s := by
  refine ⟨by simp, ?_, fun h => absurd h hp⟩
  rw [hs]
  exact List.nil_subset _

theorem Placed.built (hs : s.installed ⊆ f.scriptPlaces c.root)
    (hp : p.state = .verified → s.installed = f.scriptPlaces c.root) :
    Placed f c { pipeline := p, resolution := r, artifact := some (f.programPlace c.root) } s :=
  ⟨fun _ ha => (Option.some.inj ha).symm, hs, fun h => ⟨rfl, hp h⟩⟩

end Placed

theorem placed_stages (c : Context) (w : World) :
    Placed f c (outcomeWith (k.stages f d c) {} w).1 (outcomeWith (k.stages f d c) {} w).2.1 := by
  let Q : Course × Session × World → Prop := fun x => Placed f c x.1 x.2.1
  have hfailed : ∀ {stage e}, RunState.ofFailure stage e ≠ .verified := ofFailure_ne_verified _ _
  change Q (outcomeWith (k.stages f d c) {} w)
  refine run_bind rfl (.unbuilt hfailed rfl) (fun e t s v h => ?_) fun r t₁ s v h => ?_
  · simp only [outcomeWith_pure, Prod.mk.injEq] at h
    obtain ⟨-, rfl, -⟩ := h
    exact .unbuilt hfailed rfl
  simp only [outcomeWith_pure, Prod.mk.injEq] at h
  obtain ⟨hr, rfl, rfl⟩ := h
  obtain ⟨-, hroot, hartifact⟩ := Resolution.resolve_eq_ok hr
  obtain ⟨-, hkept⟩ := k.build_ends f d r {} w.looked.looked
  refine run_bind rfl (.unbuilt hfailed rfl) (fun e t s v h => ?_) fun a t₂ s v h => ?_
  · rw [h] at hkept
    exact .unbuilt hfailed hkept.1
  have hgiven : a = r.artifact := k.build_gives f d r (by rw [h])
  obtain rfl : a = f.programPlace c.root := hgiven.trans hartifact
  rw [h] at hkept
  have hnone : s.installed ⊆ f.scriptPlaces c.root := by
    rw [show s.installed = [] from hkept.1]
    exact List.nil_subset _
  obtain ⟨hsome, hall⟩ := k.postInstall_installs f r s v.looked
  rw [hroot] at hsome hall
  refine run_bind rfl (.built hnone fun hp => absurd hp hfailed) (fun e t s' v' h => ?_)
    fun _ t₃ s' v' h => ?_
  · rw [h] at hsome
    exact .built hsome fun hp => absurd hp hfailed
  rw [h] at hsome hall
  specialize hall rfl
  have hverified := k.verify_installed f r s' v'.looked
  refine run_bind rfl (.built hsome fun hp => absurd hp hfailed) (fun e t₄ u x h => ?_)
    fun _ t₄ u x h => ?_
  all_goals
    rw [h] at hverified
    have hscripts : u.installed = f.scriptPlaces c.root := Eq.trans hverified hall
    exact .built (hscripts ▸ List.Subset.refl _) fun _ => hscripts

/-- **A run writes its program, the directory of it and its scripts to the places of the formula,
and these are within every root just if no name of the formula leads above it,** whatever the
fetcher and the programs do, and whenever a stop is asked for. A run that ends verified has its
program and all of its scripts there. -/
theorem enclosed_cook (f : Formula) :
    (∀ (k : Kitchen) (d : Descriptor) (c : Context) (w : World),
      (∀ a, (outcome (k.cook f d c) w).1.artifact = some a → a ∈ f.places c.root) ∧
      (∀ r, Resolution.resolve f d c = .ok r →
        ∀ dir, r.artifact.parent? = some dir → dir ∈ f.places c.root) ∧
      (∀ p ∈ (outcome (k.cook f d c) w).1.installed, p ∈ f.places c.root) ∧
      ((outcome (k.cook f d c) w).1.state = .verified →
        (outcome (k.cook f d c) w).1.artifact = some (f.programPlace c.root) ∧
        (outcome (k.cook f d c) w).1.installed = f.scriptPlaces c.root)) ∧
    (f.Enclosed ↔
      ∀ root : Path, root.isAbsolute = true → ∀ p ∈ f.places root, Path.Within root p) := by
  refine ⟨fun k d c w => ?_, f.enclosed_iff⟩
  have hplaced := k.placed_stages f d c w
  refine ⟨fun a ha => ?_, fun r hr dir hdir => ?_, fun p hp => ?_, hplaced.verified⟩
  · obtain rfl := hplaced.program a ha
    exact List.mem_cons_self
  · rw [(Resolution.resolve_eq_ok hr).2.2] at hdir
    exact List.mem_cons_of_mem _ (List.mem_append_left _ (Option.mem_toList.2 hdir))
  · exact List.mem_cons_of_mem _ (List.mem_append_right _ (hplaced.scripts hp))

/-! ### Names that lead out -/

/-- A formula whose program and whose script are to go elsewhere. -/
def strayFormula : Formula :=
  { Formula.cloned with
    build := { target := ".", binary := some "../../out/demo" }
    postInstall := [.completions { shells := [.bash], baseName := some "/out/demo.bash" }] }

/-- A kitchen whose programs have something to say, and whose sources are there at once. -/
def forthcoming : Kitchen where
  settings := { sourceCache := "/cache" }
  launch := .talkative
  fetcher := fun _ dir _ => pure dir

def beside : World where
  files := {
    entries := [(["tmp"], .directory), (["p"], .directory), (["p", "bin"], .directory),
      (["out"], .directory), (["out", "demo"], .file {})] }

/-- The formula passes every check, and its run ends verified with both outside the root. -/
theorem strays_cook :
    strayFormula.validate.isOk = true ∧
    strayFormula.descriptor .head = .ok .cloned ∧
    (outcome (forthcoming.cook strayFormula .cloned .first)
      beside).1.state = .verified ∧
    (outcome (forthcoming.cook strayFormula .cloned .first)
      beside).1.artifact = some "/p/bin/../../out/demo" ∧
    (outcome (forthcoming.cook strayFormula .cloned .first)
      beside).1.installed = [⟨"/out/demo.bash"⟩] ∧
    ¬ Path.Within "/p" "/p/bin/../../out/demo" ∧ ¬ Path.Within "/p" "/out/demo.bash" := by
  decide +kernel

end Kitchen

end Formulary
