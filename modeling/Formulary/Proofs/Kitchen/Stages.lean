import Formulary.Kitchen.Cook
import Formulary.Proofs.Endings
import Formulary.Proofs.Pipeline.Standing
import Formulary.Proofs.Resolution

/-!
# What the stages of a run come to

For each stage: which failures it can end with, and what it leaves in the session. None of them says
that a stage was asked for out of turn, unless the fetcher says so.
-/

namespace Formulary

/-- The failure does not say that a stage was asked for out of turn. -/
def Failure.InTurn (e : Failure) : Prop := ∀ origin stage, e ≠ .invalidTransition origin stage

theorem Failure.Unresolved.inTurn {e : Failure} (h : e.Unresolved) : e.InTurn := by
  obtain ⟨key, template, rfl⟩ := h
  simp [Failure.InTurn]

/-! ### Steps after the installation -/

namespace Install

theorem generate_ends (s : Setting) (c : Completions) (shell : Shell) :
    (generate s c shell).Ends (fun _ => True) Failure.InTurn := by
  unfold generate
  refine (Attempt.Ends.orFail _ fun e => by simp [Failure.InTurn, unlaunchable]).bind
    fun output _ => ?_
  split
  · exact .throw (by simp [Failure.InTurn])
  · exact .throw (by simp [Failure.InTurn, unsupported])
  · split
    · exact .throw (by simp [Failure.InTurn, unsupported])
    · exact .pure trivial

theorem scripts_ends (s : Setting) (c : Completions) :
    (scripts s c).Ends (fun _ => True) Failure.InTurn := by
  unfold scripts
  refine (Attempt.Ends.mapM (S := fun _ => True) (fun shell => ?_) _).mono (fun _ _ => trivial)
    fun _ h => h
  exact (generate_ends s c shell).bind fun _ _ => .pure trivial

theorem writeScripts_inTurn (list : List (Path × String)) (written : List Path) (w : World)
    {e : Failure} (h : (outcome (writeScripts list written) w).1.2 = .error e) : e.InTurn := by
  induction list generalizing written w with
  | nil => cases h
  | cons entry rest ih =>
    obtain ⟨p, script⟩ := entry
    rw [writeScripts] at h
    -- with or without directories to make first, the rest is the same
    split at h
    all_goals
      rw [outcome_bind] at h
      beta_reduce at h
      split at h
      · cases h
        simp [Failure.InTurn, Attempt.ioFailure]
      · rw [outcome_bind] at h
        split at h
        · cases h
          simp [Failure.InTurn, Attempt.ioFailure]
        · exact ih _ _ h

theorem perform_inTurn (s : Setting) (step : Step) (written : List Path) (w : World)
    {e : Failure} (h : (outcome (perform s step written) w).1.2 = .error e) : e.InTurn := by
  obtain ⟨c⟩ := step
  rw [perform, outcome_bind] at h
  split at h
  · next e' he =>
    cases h
    exact (scripts_ends s c w).2 _ he
  · exact writeScripts_inTurn _ _ _ h

theorem performAll_inTurn (s : Setting) (steps : List Step) (written : List Path) (w : World)
    {e : Failure} (h : (outcome (performAll s steps written) w).1.2 = .error e) : e.InTurn := by
  induction steps generalizing written w with
  | nil => cases h
  | cons step rest ih =>
    rw [performAll, outcome_bind] at h
    split at h
    · exact ih _ _ h
    · exact perform_inTurn s step written w h

end Install

/-! ### Assertions -/

namespace Smoke

variable (launch : Launcher) (program : Path) (timeout : Millis)

theorem judge_id (id : String) (a : Assertion) (expected : String) (o : Output) :
    (judge id a expected timeout o).id = id := by
  unfold judge
  split <;> rfl

theorem tryOne_ends (id : String) (a : Assertion) (expected : String) :
    (tryOne launch program id a expected timeout).Ends (fun r => r.id = id) Failure.InTurn := by
  unfold tryOne
  refine (Attempt.Ends.io _ fun _ => by simp [Failure.InTurn]).bind fun scratch _ => ?_
  refine (Attempt.Ends.lift _).bind fun run _ => (Attempt.Ends.lift _).bind fun _ _ => ?_
  split
  · exact .pure rfl
  · split
    · exact .throw (by simp [Failure.InTurn])
    · exact .pure (judge_id timeout id a expected _)

/-- What assertions are reported under, the first of them at a position. -/
def idsFrom (position : Nat) (assertions : List Assertion) : List String :=
  (assertions.zipIdx position).map fun (a, i) => idOf a i

theorem tryFrom_ends (position : Nat) (l : List (Assertion × String)) :
    (tryFrom launch program timeout position l).Ends
      (fun results => results.map AssertionResult.id = idsFrom position (l.map Prod.fst))
      Failure.InTurn := by
  induction l generalizing position with
  | nil => exact .pure rfl
  | cons entry rest ih =>
    obtain ⟨a, expected⟩ := entry
    rw [tryFrom]
    refine (tryOne_ends launch program timeout _ a expected).bind fun r hr => ?_
    refine (ih (position + 1)).bind fun results hresults => .pure ?_
    simp only [List.map_cons, hr, hresults, idsFrom, List.zipIdx_cons]

theorem run_ends {assertions : List Assertion} {expectations : List String}
    (h : expectations.length = assertions.length) :
    (run launch program assertions expectations timeout).Ends
      (fun report => report.results.map AssertionResult.id = idsFrom 0 assertions)
      Failure.InTurn := by
  unfold run
  refine (tryFrom_ends launch program timeout 0 _).bind fun results hresults => .pure ?_
  rw [hresults, List.map_fst_zip (by omega)]

end Smoke

namespace Kitchen

variable (k : Kitchen) (f : Formula) (d : Descriptor) (r : Resolution)

/-! ### The build -/

theorem checkDependencies_ends (names : List String) :
    Attempt.Ends (ExceptT.mk (checkDependencies names)) (fun _ => True) Failure.InTurn := by
  intro w
  refine ⟨fun _ _ => trivial, fun e he => ?_⟩
  rw [attempted_mk, checkDependencies, outcome_bind] at he
  split at he
  · cases he
    simp [Failure.InTurn]
  · cases he

theorem checkSource_ends :
    Attempt.Ends (ExceptT.mk (pure (k.settings.checkSource d))) (fun _ => True)
      Failure.InTurn := by
  intro w
  refine ⟨fun _ _ => trivial, fun e he => ?_⟩
  change k.settings.checkSource d = .error e at he
  unfold Settings.checkSource at he
  split at he
  · split at he
    · cases he
    · cases he
      simp [Failure.InTurn]
  · cases he

theorem enterBuild_ends : (k.enterBuild d).Ends (fun _ => True) Failure.InTurn := by
  unfold enterBuild
  refine (checkDependencies_ends _).bind fun _ _ => (k.checkSource_ends d).bind fun _ _ => ?_
  exact .orFail _ fun e => by simp [Failure.InTurn]

theorem toolchainFailure_inTurn {program : String} {timeout : Millis} {o : Output} {e : Failure}
    (h : toolchainFailure? program timeout o = some e) : e.InTurn := by
  unfold toolchainFailure? at h
  split at h
  · cases h
    simp [Failure.InTurn]
  · cases h
    simp [Failure.InTurn]
  · split at h
    · cases h
    · cases h
      simp [Failure.InTurn]

theorem compile_ends (dir : Path) :
    (k.compile f r dir).Ends (fun a => a = r.artifact) Failure.InTurn := by
  unfold compile
  split
  -- with or without a directory to make first, the rest is the same
  on_goal 1 => refine (Attempt.Ends.io _ fun _ => by simp [Failure.InTurn]).bind fun _ _ => ?_
  all_goals
    refine (Attempt.Ends.orFail _ fun e => by simp [Failure.InTurn, launchFailure]).bind
      fun output _ => ?_
    split
    · next e he => exact .throw (toolchainFailure_inTurn he)
    · refine (Attempt.Ends.lift _).bind fun there _ => ?_
      split
      · exact .pure rfl
      · exact .throw (by simp [Failure.InTurn, missingArtifact])

/-- The fetcher, asked after the gates of a build, answers with this failure. -/
def Refused (w : World) (e : Failure) : Prop :=
  ∃ dir v, attempted (k.enterBuild d) w = (.ok dir, v) ∧
    (attempted (k.fetcher d.source dir k.settings.timeout) v).1 = .error e

/-- A build leaves alone what later stages keep, and only the fetcher can say that a stage was asked
for out of turn. -/
theorem build_ends (s : Session) (w : World) :
    (∀ e, (outcomeWith (k.build f d r) s w).1 = .error e → e.InTurn ∨ k.Refused d w e) ∧
    (outcomeWith (k.build f d r) s w).2.1.installed = s.installed ∧
    (outcomeWith (k.build f d r) s w).2.1.smoke = s.smoke := by
  unfold build
  rw [outcomeWith_bind, outcomeWith_lift, outcome_run]
  rcases h : attempted (k.enterBuild d) w with ⟨e | dir, v⟩
  · refine ⟨fun e' he => ?_, rfl, rfl⟩
    cases he
    exact .inl ((k.enterBuild_ends d w).2 e (by rw [h]))
  · refine ⟨fun e he => ?_, rfl, rfl⟩
    change (attempted (k.fetchAndCompile f d r dir) v).1 = .error e at he
    unfold fetchAndCompile at he
    rw [attempted_bind] at he
    rcases hf : attempted (k.fetcher d.source dir k.settings.timeout) v with ⟨e' | source, u⟩
    · rw [hf] at he
      cases he
      exact .inr ⟨dir, v, h, by rw [hf]⟩
    · rw [hf] at he
      exact .inl ((k.compile_ends f r source u).2 e he)

/-! ### After the build -/

theorem postInstall_ends (s : Session) (w : World) :
    (∀ e, (outcomeWith (k.postInstall f r) s w).1 = .error e → e.InTurn) ∧
    (outcomeWith (k.postInstall f r) s w).2.1.smoke = s.smoke := by
  refine ⟨fun e he => ?_, rfl⟩
  exact Install.performAll_inTurn _ f.postInstall [] w he

/-- What trying out the result can come to: no report at all, or one that has a result for each
assertion and decides how the stage ends. -/
theorem verify_ends (hr : r.expectations.length = f.tests.length) (s : Session) (w : World) :
    (∃ e : Failure, e.InTurn ∧ (outcomeWith (k.verify f r) s w).1 = .error e ∧
      (outcomeWith (k.verify f r) s w).2.1 = s) ∨
    ∃ report : SmokeReport,
      report.results.map AssertionResult.id = Smoke.idsFrom 0 f.tests ∧
      (outcomeWith (k.verify f r) s w).1 = report.verdict ∧
      (outcomeWith (k.verify f r) s w).2.1 = { s with smoke := some report } := by
  have hends := Smoke.run_ends k.launch r.artifact k.settings.testTimeout hr w
  unfold verify
  rw [outcomeWith_bind, outcomeWith_lift, outcome_run]
  rcases h : attempted (Smoke.run k.launch r.artifact f.tests r.expectations
    k.settings.testTimeout) w with ⟨e | report, v⟩
  · exact .inl ⟨e, hends.2 e (by rw [h]), rfl, rfl⟩
  · exact .inr ⟨report, hends.1 report (by rw [h]), rfl, rfl⟩

end Kitchen

end Formulary
