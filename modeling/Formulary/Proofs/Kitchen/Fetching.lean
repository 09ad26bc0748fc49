import Formulary.Proofs.CommandLine.Works
import Formulary.Proofs.Kitchen.Causes
import Formulary.Proofs.Machine.Temporary
import Formulary.Proofs.Smoke.Judging

/-!
# Fetching alone

A build gets its source behind the same policy and from the same fetcher as whoever only fetches it.
So as long as a fetcher answers for a source alike, wherever it is to go, what comes of the source is
the same (`enterAndFetch_agrees`): a fetch that fails fails a run in its build, with its failure, and
after a fetch that does not only the toolchain can fail it.
-/

namespace Formulary.Kitchen

variable {k : Kitchen} {f : Formula} {d : Descriptor} {c : Context} {r : Resolution} {w w' : World}

/-! ### What comes of a source -/

/-- What comes of a source, but for where it is then, depends on the source alone. -/
def AnswersAlike (k : Kitchen) : Prop :=
  ∀ source target target' w w',
    (attempted (k.fetcher source target k.settings.timeout) w).1.map (fun _ => ()) =
      (attempted (k.fetcher source target' k.settings.timeout) w').1.map fun _ => ()

/-- Nothing but its source and its toolchain can keep a run from its program: nobody asks it to stop,
what the build needs is found, and there is a temporary directory for it. -/
structure Unhindered (d : Descriptor) (w : World) : Prop where
  going : ∀ n, w.stopRequested n = false
  found : ∀ name ∈ d.buildDependencies, Found w name
  housed : ∃ dir, (outcome (Disk.makeTemporary "kettle-build-") w).1 = .ok dir

theorem Unhindered.looked (h : Unhindered d w) : Unhindered d w.looked where
  going := h.going
  found := h.found
  housed := by
    obtain ⟨dir, hmade⟩ := h.housed
    exact ⟨dir, (Disk.alike_makeTemporary "kettle-build-" 1 w w.looked rfl).1.symm.trans hmade⟩

theorem Unhindered.makes (h : Unhindered d w) :
    ∃ dir v, outcome (Disk.makeTemporary "kettle-build-") w = (.ok dir, v) := by
  obtain ⟨dir, hdir⟩ := h.housed
  exact ⟨dir, exists_outcome_eq hdir⟩

theorem attempted_fetch (k : Kitchen) (d : Descriptor) (target : Path) (w : World) :
    attempted (k.fetch d target) w =
      match k.settings.checkSource d with
      | .error e => (.error e, w)
      | .ok _ => attempted (k.fetcher d.source target k.settings.timeout) w := by
  unfold fetch
  rw [attempted_bind, attempted_mk, outcome_pure]
  cases k.settings.checkSource d with
  | error e => rfl
  | ok _ => rfl

theorem attempted_enterAndFetch {dir : Path} {v : World}
    (hfound : ∀ name ∈ d.buildDependencies, Found w name)
    (hmade : outcome (Disk.makeTemporary "kettle-build-") w = (.ok dir, v)) :
    attempted (k.enterAndFetch d) w =
      match k.settings.checkSource d with
      | .error e => (.error e, w)
      | .ok _ => attempted (k.fetcher d.source dir k.settings.timeout) v := by
  unfold enterAndFetch enterBuild
  rw [attempted_bind, attempted_bind, attempted_of_found hfound]
  dsimp only
  rw [attempted_bind, attempted_mk, outcome_pure]
  cases k.settings.checkSource d with
  | error e => rfl
  | ok _ =>
    dsimp only
    rw [attempted_makeBuildDir, hmade]
    rfl

/-- **What comes of a source is the same whether it is to be built or not.** -/
theorem enterAndFetch_agrees (halike : k.AnswersAlike) (hw : Unhindered d w) (target : Path)
    (w' : World) :
    (attempted (k.enterAndFetch d) w).1.map (fun _ => ()) =
      (attempted (k.fetch d target) w').1.map fun _ => () := by
  obtain ⟨dir, v, hmade⟩ := hw.makes
  rw [attempted_fetch, attempted_enterAndFetch hw.found hmade]
  cases k.settings.checkSource d with
  | error e => rfl
  | ok _ => exact halike _ _ _ _ _

/-! ### Builds with and without a source -/

theorem build_of_unsourced {e : Failure} (hw : Unhindered d w)
    (h : (attempted (k.enterAndFetch d) w).1 = .error e) (f : Formula) (r : Resolution)
    (s : Session) :
    (outcomeWith (k.build f d r) s w).1 = .error e ∧
    (outcomeWith (k.build f d r) s w).2.2 = (attempted (k.enterAndFetch d) w).2 ∧
    Gate.launch ∉ (k.gatedBuild f d r).gates w := by
  obtain ⟨dir, v, hmade⟩ := hw.makes
  have hsource := attempted_enterAndFetch (k := k) hw.found hmade
  cases hpolicy : k.settings.checkSource d with
  | error refusal =>
    rw [hpolicy] at hsource
    rw [hsource] at h ⊢
    obtain rfl : refusal = e := Except.error.inj h
    obtain ⟨hresult, hworld, hgates⟩ := build_of_decided (Decided.refused (f := f) (r := r)
      hw.found hpolicy) s
    exact ⟨hresult, hworld, hgates ▸ by decide⟩
  | ok _ =>
    rw [hpolicy] at hsource
    rw [hsource] at h ⊢
    obtain ⟨hresult, hworld, hgates⟩ := build_of_decided (Decided.unfetched (f := f) (r := r)
      ⟨hw.found, hpolicy, hmade⟩ (Prod.ext h rfl)) s
    exact ⟨hresult, hworld, hgates ▸ by decide⟩

theorem fetched_of_enterAndFetch {source : Path} (hw : Unhindered d w)
    (h : (attempted (k.enterAndFetch d) w).1 = .ok source) :
    Fetched k d w source (attempted (k.enterAndFetch d) w).2 := by
  obtain ⟨dir, v, hmade⟩ := hw.makes
  have hsource := attempted_enterAndFetch (k := k) hw.found hmade
  cases hpolicy : k.settings.checkSource d with
  | error refusal =>
    rw [hpolicy] at hsource
    rw [hsource] at h
    cases h
  | ok _ =>
    rw [hpolicy] at hsource
    rw [hsource] at h ⊢
    exact ⟨⟨hw.found, hpolicy, hmade⟩, Prod.ext h rfl⟩

/-! ### The two agree -/

/-- A run in a world fails in its build, with a failure and without its toolchain. -/
structure FailsBefore (k : Kitchen) (f : Formula) (d : Descriptor) (c : Context) (r : Resolution)
    (w : World) (e : Failure) : Prop where
  state : (outcome (k.cook f d c) w).1.state = .ofFailure .build e
  failure : (outcome (k.cook f d c) w).1.failure = some e
  /-- The build never comes to its toolchain. -/
  unlaunched : Gate.launch ∉ (k.gatedBuild f d r).gates w.looked.looked
  /-- Nothing was started but for the source. -/
  started : (outcome (k.cook f d c) w).2.started =
    (attempted (k.enterAndFetch d) w.looked.looked).2.started

/-- A run in a world has its source, and fails in its build only as the toolchain does with it. -/
inductive Sourced (k : Kitchen) (f : Formula) (d : Descriptor) (c : Context) (r : Resolution)
    (w : World) : Prop
  | intro {source : Path} {v : World} (fetched : Fetched k d w.looked.looked source v)
    (fails : (outcome (k.cook f d c) w).1.state.failedStage? = some .build →
      ∃ e, (outcome (k.cook f d c) w).1.failure = some e ∧
        (attempted (k.compile f r source) v).1 = .error e ∧ e.OfToolchain)

/-- **A source that cannot be fetched fails a run as it fails who only fetches it,** with the same
failure and the same exit code; a source that can does not fail it. -/
theorem fetched_alike (halike : k.AnswersAlike) (hr : Resolution.resolve f d c = .ok r)
    (hw : Unhindered d w) (target : Path) (w' : World) :
    (∀ e, (attempted (k.fetch d target) w').1 = .error e →
      FailsBefore k f d c r w e ∧
      ∀ said, (CommandLine.Work.told (CommandLine.Work.orRefuse .build (k.fetch d target)) said w').1 =
        .error (outcome (k.cook f d c) w).1.exitCode) ∧
    ∀ source, (attempted (k.fetch d target) w').1 = .ok source → Sourced k f d c r w := by
  have hcomes : Comes k f d c w r .build {} w.looked := .build (hw.going _) hr
  have hthere := hw.looked.looked
  have hagrees := enterAndFetch_agrees halike hthere target w'
  refine ⟨fun e he => ?_, fun source hsource => ?_⟩
  · rw [he, Except.map, map_eq_error] at hagrees
    obtain ⟨hresult, hworld, hgates⟩ := build_of_unsourced hthere hagrees f r {}
    obtain ⟨hstate, hfailure, hleft⟩ := cook_of_failed_build hcomes (hw.going _)
      (Prod.ext hresult rfl)
    refine ⟨⟨hstate, hfailure, hgates, ?_⟩, fun said => ?_⟩
    · rw [hleft, started_cleanUp]
      exact congrArg World.started hworld
    · obtain ⟨said', htold⟩ :=
        CommandLine.Work.told_orRefuse .build (k.fetch d target) said w'
      rcases hfetch : attempted (k.fetch d target) w' with ⟨result, v⟩
      rw [hfetch] at he htold
      obtain rfl : result = .error e := he
      rw [htold, Report.exitCode, hstate]
      rfl
  · rw [hsource] at hagrees
    obtain ⟨root, hroot, -⟩ := map_eq_ok.1 hagrees
    refine ⟨fetched_of_enterAndFetch hthere hroot, fun hfailed => ?_⟩
    obtain ⟨e, he, hfailure⟩ := build_of_failed_cook hcomes (hw.going _) hfailed
    rw [outcomeWith_build, attempted_bind_of_ok hroot] at he
    exact ⟨e, hfailure, he, (compile_fails k f r root _).2 e he⟩

/-! ### A kitchen without a network -/

/-- A kitchen that has all repositories and can download nothing. -/
def offline : Kitchen where
  settings := { sourceCache := "/cache" }
  launch := .idle
  fetcher := fun source target _ =>
    match source with
    | .archive _ => throw (.downloadFailed "no network")
    | .repository _ => return target.join "source"

/-- Without a network an archive fails a run as it fails who fetches it. A repository does not, but
the toolchain that does nothing leaves no program. -/
theorem fetched_offline :
    (∃ r, Resolution.resolve .archived .archived .first = .ok r ∧
      (attempted (offline.fetch .archived "/t") stocked).1 =
        .error (.downloadFailed "no network") ∧
      FailsBefore offline .archived .archived .first r stocked
        (.downloadFailed "no network") ∧
      (CommandLine.Work.told (CommandLine.Work.orRefuse .build
        (offline.fetch .archived "/t")) {} stocked).1 = .error 34) ∧
    ∃ r, Resolution.resolve Smoke.greeterFormula .cloned .first = .ok r ∧
      (attempted (offline.fetch .cloned "/t") stocked).1 = .ok "/t/source" ∧
      Sourced offline Smoke.greeterFormula .cloned .first r stocked ∧
      (outcome (offline.cook Smoke.greeterFormula .cloned .first)
        stocked).1.failure =
          some (.buildFailed "go reported success but /p/bin/demo does not exist" (some 0) "") := by
  have halike : offline.AnswersAlike := by
    intro source target target' w w'
    cases source with
    | archive a => rfl
    | repository r => rfl
  have hw : ∀ d : Descriptor, d.buildDependencies = [] → Unhindered d stocked := fun d hd =>
    { going := fun _ => rfl
      found := by simp [hd]
      housed := ⟨"/tmp/kettle-build-000000", by decide +kernel⟩ }
  have hresolved : ∀ f d, (Resolution.resolve f d .first).isOk = true →
      ∃ r, Resolution.resolve f d .first = .ok r := fun f d h => by
    cases hr : Resolution.resolve f d .first with
    | ok r => exact ⟨r, rfl⟩
    | error e =>
      rw [hr] at h
      cases h
  obtain ⟨r, hr⟩ := hresolved .archived .archived (by decide +kernel)
  obtain ⟨r', hr'⟩ := hresolved Smoke.greeterFormula .cloned (by decide +kernel)
  have hfails : (attempted (offline.fetch .archived "/t") stocked).1 =
      .error (.downloadFailed "no network") := rfl
  have hfetches : (attempted (offline.fetch .cloned "/t") stocked).1 =
      .ok "/t/source" := by decide +kernel
  refine ⟨⟨r, hr, hfails, ?_, by decide +kernel⟩, r', hr', hfetches, ?_, by decide +kernel⟩
  · exact ((fetched_alike halike hr (hw _ rfl) "/t" stocked).1 _ hfails).1
  · exact (fetched_alike halike hr' (hw _ rfl) "/t" stocked).2 _ hfetches

end Formulary.Kitchen
