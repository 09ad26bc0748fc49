import Formulary.Proofs.Kitchen.Sources

/-!
# The program a build leaves

A build looks for its program when the toolchain has reported success, and takes what is there:
`build_of_succeeds`. It does not look before, so a program that stood there already passes for the
toolchain's own: `stale_passes`.
-/

namespace Formulary

namespace Kitchen

variable {k : Kitchen} {f : Formula} {d : Descriptor} {r : Resolution} {w : World} {dir : Path}
  {o : Output}

def makeBinDir (r : Resolution) : Attempt Unit :=
  match r.artifact.parent? with
  | some parent => Attempt.io (Disk.makeAll parent)
  | none => pure ()

/-- All that a build does before its toolchain: its source is there, and so is the directory the
program goes to. -/
def prepare (k : Kitchen) (d : Descriptor) (r : Resolution) : Attempt Path := do
  let dir ← k.enterAndFetch d
  makeBinDir r
  return dir

def prepared (k : Kitchen) (d : Descriptor) (r : Resolution) (w : World) : World :=
  (attempted (k.prepare d r) w).2

def work (k : Kitchen) (f : Formula) (d : Descriptor) (r : Resolution) (w : World) (dir : Path) :
    Except Fault Output × World :=
  outcome (supervise k.launch (toolchain f r dir) k.settings.timeout) (k.prepared d r w)

/-- A build gets as far as its toolchain, which then reports success. -/
structure Succeeds (k : Kitchen) (f : Formula) (d : Descriptor) (r : Resolution) (w : World)
    (dir : Path) (o : Output) : Prop where
  prepared : (attempted (k.prepare d r) w).1 = .ok dir
  ran : (k.work f d r w dir).1 = .ok o
  success : o.success = true

theorem toolchainFailure?_of_success (program : String) (timeout : Millis)
    (h : o.success = true) : toolchainFailure? program timeout o = none := by
  unfold Output.success at h
  unfold toolchainFailure?
  split at h
  · next status hstatus =>
    rw [hstatus]
    exact if_pos h
  · cases h

/-- The verdict on a build whose toolchain reported success: what is there counts. -/
def verdict (f : Formula) (r : Resolution) (o : Output) (after : World) : Except Failure Path :=
  if after.files.isFile after.here r.artifact then .ok r.artifact
  else .error (missingArtifact (Invocation.ofBuild f.build r).program r.artifact o)

/-- What is left to do when the directory of the program is there. -/
def compileInto (k : Kitchen) (f : Formula) (r : Resolution) (dir : Path) : Attempt Path := do
  let i := Invocation.ofBuild f.build r
  let output ← Attempt.orFail (supervise k.launch (toolchain f r dir) k.settings.timeout)
    (launchFailure i.program)
  match toolchainFailure? i.program k.settings.timeout output with
  | some e => throw e
  | none =>
    if ← Disk.isFile r.artifact then return r.artifact
    else throw (missingArtifact i.program r.artifact output)

theorem compile_eq (k : Kitchen) (f : Formula) (r : Resolution) (dir : Path) :
    k.compile f r dir = makeBinDir r >>= fun _ => k.compileInto f r dir := by
  unfold compile makeBinDir
  cases r.artifact.parent? <;> rfl

theorem attempted_compileInto {u : World}
    (hran : outcome (supervise k.launch (toolchain f r dir) k.settings.timeout) w = (.ok o, u))
    (hsuccess : o.success = true) :
    attempted (k.compileInto f r dir) w = (verdict f r o u, u) := by
  unfold compileInto
  dsimp only
  rw [attempted_bind, attempted_orFail, hran]
  dsimp only [Except.mapError]
  rw [toolchainFailure?_of_success _ _ hsuccess]
  dsimp only
  rw [attempted_bind, attempted_lift]
  dsimp only
  unfold verdict
  change attempted (if u.files.isFile u.here r.artifact = true then _ else _) u = _
  split <;> rfl

theorem outcomeWith_build (k : Kitchen) (f : Formula) (d : Descriptor) (r : Resolution)
    (s : Session) (w : World) :
    (outcomeWith (k.build f d r) s w).1 =
      (attempted (k.enterAndFetch d >>= k.compile f r) w).1 := by
  unfold build enterAndFetch
  rw [bind_assoc, outcomeWith_bind, outcomeWith_lift, outcome_run, attempted_bind]
  rcases attempted (k.enterBuild d) w with ⟨e | dir, v⟩ <;> rfl

theorem enterAndCompile_eq (k : Kitchen) (f : Formula) (d : Descriptor) (r : Resolution) :
    (k.enterAndFetch d >>= k.compile f r) = k.prepare d r >>= k.compileInto f r := by
  unfold prepare
  rw [bind_assoc]
  refine congrArg _ (funext fun dir => ?_)
  rw [compile_eq, bind_assoc]
  rfl

theorem verdict_eq_ok {u : World} :
    verdict f r o u = .ok r.artifact ↔ u.files.isFile u.here r.artifact = true := by
  unfold verdict
  split
  · next hthere => exact iff_of_true rfl hthere
  · next hmissing => exact iff_of_false (fun h => by cases h) hmissing

/-- **Where the toolchain reported success, a build takes the program that is there, whoever put it
there, and fails only if there is none.** If the toolchain has not touched the program, the build
succeeds just if it was there before. -/
theorem build_of_succeeds (h : Succeeds k f d r w dir o) (s : Session) :
    (outcomeWith (k.build f d r) s w).2.2 = (k.work f d r w dir).2 ∧
    (outcomeWith (k.build f d r) s w).1 = verdict f r o (k.work f d r w dir).2 ∧
    ((k.work f d r w dir).2.files.find (k.work f d r w dir).2.here r.artifact =
        (k.prepared d r w).files.find (k.prepared d r w).here r.artifact →
      ((outcomeWith (k.build f d r) s w).1 = .ok r.artifact ↔
        (k.prepared d r w).files.isFile (k.prepared d r w).here r.artifact = true)) := by
  have hbuilt : attempted (k.enterAndFetch d >>= k.compile f r) w =
      (verdict f r o (k.work f d r w dir).2, (k.work f d r w dir).2) := by
    rw [enterAndCompile_eq, attempted_bind_of_ok h.prepared]
    exact attempted_compileInto (Prod.ext h.ran rfl) h.success
  have hresult : (outcomeWith (k.build f d r) s w).1 = verdict f r o (k.work f d r w dir).2 := by
    rw [outcomeWith_build, hbuilt]
  refine ⟨by rw [outcomeWith_build_world, hbuilt], hresult, fun hsame => ?_⟩
  rw [hresult, verdict_eq_ok]
  unfold Files.isFile
  rw [hsame]

/-! ### A program that was there before -/

/-- The archive in the cache, and an older program where the new one is to be. -/
def installedBefore : World where
  files := {
    entries := [(["tmp"], .directory), (["cache"], .directory), (["p"], .directory),
      (["p", "bin"], .directory), (["cache", "sha256_" ++ Formula.emptyDigest], .file {}),
      (["p", "bin", "demo"], .file { data := [1] })] }

def rebuiltResolution : Resolution where
  bindings := ∅
  flags := []
  args := []
  environment := []
  expectations := []
  root := "/p"
  artifact := "/p/bin/demo"

/-- A toolchain that does nothing leaves the older program, and the build takes it. -/
theorem build_of_idle :
    Succeeds idle .archived .archived rebuiltResolution installedBefore
      "/tmp/kettle-build-000000/source" ⟨.exited (.exited 0), "", ""⟩ ∧
    (outcomeWith (idle.build .archived .archived rebuiltResolution) {}
      installedBefore).1 = .ok "/p/bin/demo" := by
  -- one evaluation of the run for all that is asked of it
  have hrun : (attempted (idle.prepare .archived rebuiltResolution) installedBefore).1 =
        .ok "/tmp/kettle-build-000000/source" ∧
      (idle.work .archived .archived rebuiltResolution installedBefore
        "/tmp/kettle-build-000000/source").1 = .ok ⟨.exited (.exited 0), "", ""⟩ ∧
      (idle.prepared .archived rebuiltResolution installedBefore).files.isFile
        (idle.prepared .archived rebuiltResolution installedBefore).here
        rebuiltResolution.artifact = true := by decide +kernel
  obtain ⟨hprepared, hran, hthere⟩ := hrun
  have h : Succeeds idle .archived .archived rebuiltResolution installedBefore
      "/tmp/kettle-build-000000/source" ⟨.exited (.exited 0), "", ""⟩ := ⟨hprepared, hran, rfl⟩
  exact ⟨h, ((build_of_succeeds h {}).2.2 (by decide +kernel)).2 hthere⟩

/-- Where no program changes any file, a run ends verified with a program from before. -/
theorem stale_passes :
    Formula.archived.descriptor .release = .ok .archived ∧
    (∀ c site, ∃ process, idle.launch c site = .ok process ∧
      process.ending = some (0, .ok (.exited 0)) ∧ ∀ time, (process.after time).files = site.files) ∧
    (outcome (idle.cook .archived .archived .first) installedBefore).1.state =
      .verified ∧
    (outcome (idle.cook .archived .archived .first)
      installedBefore).1.artifact = some "/p/bin/demo" := by
  exact ⟨Formula.descriptor_archived, fun c site => ⟨_, rfl, rfl, fun _ => rfl⟩, by decide +kernel⟩

end Kitchen

end Formulary
