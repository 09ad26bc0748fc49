import Formulary.Proofs.Smoke.Judging

/-!
# Assertions that abort a run

A run goes through its trials and gives their results, one by one (`tryFrom_eq`). So it has a report
just if each trial has a result, and otherwise it fails as the first trial that has none, whose
results before it are lost. `Aborts` says which trials have none: those whose program is stopped, and
those for which no directory of their own can be made.
-/

namespace Formulary.Smoke

variable (launch : Launcher) (program : Path) (timeout : Millis)

theorem run_eq (assertions : List Assertion) (expectations : List String) (w : World) :
    (attempted (run launch program assertions expectations timeout) w).1 =
      ((trials launch program timeout 0 (assertions.zip expectations) w).mapM
        (Trial.result launch program timeout)).map SmokeReport.mk := by
  unfold run
  rw [attempted_bind, ← tryFrom_eq]
  rcases attempted (tryFrom launch program timeout 0 (assertions.zip expectations)) w with
    ⟨e | results, v⟩
  · rfl
  · rfl

/-! ### Trials without a result -/

/-- A trial that has no result, and the failure that it gives instead. -/
inductive Aborts (t : Trial) : Failure → Prop
  /-- No directory of its own can be made for the program. -/
  | unhoused {fault : Fault}
    (h : (outcome (Disk.makeTemporary ".tmp") t.world).1 = .error fault) :
    Aborts t (Attempt.ioFailure fault)
  /-- The program is stopped. -/
  | stopped {scratch : Path} {v : World} {o : Output}
    (hscratch : outcome (Disk.makeTemporary ".tmp") t.world = (.ok scratch, v))
    (hseen : (outcome (supervise launch (commandOf program t.assertion scratch) timeout) v).1 =
      .ok o)
    (ho : o.outcome = .cancelled) :
    Aborts t (.cancelled ("verify " ++ idOf t.assertion t.position))

theorem result_eq_error_iff {t : Trial} {e : Failure} :
    t.result launch program timeout = .error e ↔ Aborts launch program timeout t e := by
  rw [result_eq]
  constructor
  · intro h
    rcases hscratch : outcome (Disk.makeTemporary ".tmp") t.world with ⟨fault | scratch, v⟩
    · rw [hscratch] at h
      cases h
      exact .unhoused (congrArg Prod.fst hscratch)
    rw [hscratch] at h
    dsimp only at h
    cases hseen : (outcome (supervise launch (commandOf program t.assertion scratch) timeout) v).1
      with
    | error fault =>
      rw [hseen] at h
      cases h
    | ok o =>
      rw [hseen] at h
      dsimp only at h
      split at h
      · next ho =>
        cases h
        exact .stopped hscratch hseen ho
      · cases h
  · intro h
    cases h with
    | unhoused h =>
      rcases hscratch : outcome (Disk.makeTemporary ".tmp") t.world with ⟨fault | scratch, v⟩
      · rw [hscratch] at h
        cases h
        rfl
      · rw [hscratch] at h
        cases h
    | stopped hscratch hseen ho =>
      rw [hscratch]
      dsimp only
      rw [hseen]
      exact if_pos ho

theorem Aborts.cancelled {t : Trial} {e : Failure} {scratch : Path}
    (h : Aborts launch program timeout t e)
    (hscratch : (outcome (Disk.makeTemporary ".tmp") t.world).1 = .ok scratch) :
    e = .cancelled ("verify " ++ idOf t.assertion t.position) := by
  cases h with
  | unhoused h =>
    rw [h] at hscratch
    cases hscratch
  | stopped => rfl

/-! ### Runs -/

/-- **A run reports on all assertions, or on none.** There is a trial for each of them, and its
report has the results of all of them; it fails just if a trial has none, as the first of these. Where
directories can be made, that is because a program is stopped. -/
theorem reported_or_aborted (launch : Launcher) (program : Path) (timeout : Millis)
    (assertions : List Assertion) (expectations : List String) (w : World) :
    let tried := trials launch program timeout 0 (assertions.zip expectations) w
    let result := (attempted (run launch program assertions expectations timeout) w).1
    tried.map (fun t => (t.position, t.assertion, t.expected)) =
      (List.range' 0 (assertions.zip expectations).length).zip (assertions.zip expectations) ∧
    (∀ t ∈ tried, ∀ e, t.result launch program timeout = .error e ↔
      Aborts launch program timeout t e) ∧
    (∀ report, result = .ok report ↔
      List.Forall₂ (fun t r => t.result launch program timeout = .ok r) tried report.results) ∧
    (∀ e, result = .error e ↔ FirstFails (Trial.result launch program timeout) tried e) ∧
    ((∃ report, result = .ok report) ↔ ∀ t ∈ tried, ∀ e, ¬ Aborts launch program timeout t e) ∧
    ((∀ t ∈ tried, ∃ scratch, (outcome (Disk.makeTemporary ".tmp") t.world).1 = .ok scratch) →
      ∀ e, result = .error e →
        ∃ t ∈ tried, e = .cancelled ("verify " ++ idOf t.assertion t.position)) := by
  intro tried result
  have hrun : result = (tried.mapM (Trial.result launch program timeout)).map SmokeReport.mk :=
    run_eq launch program timeout assertions expectations w
  have hfails : ∀ e, result = .error e ↔
      FirstFails (Trial.result launch program timeout) tried e := fun e => by
    rw [hrun, map_eq_error, mapM_eq_error_iff]
  refine ⟨map_trials launch program timeout 0 _ w,
    fun t _ e => result_eq_error_iff launch program timeout, fun report => ?_, hfails, ?_, ?_⟩
  · rw [hrun, map_eq_ok, ← mapM_eq_ok_iff]
    constructor
    · rintro ⟨results, hresults, rfl⟩
      exact hresults
    · exact fun h => ⟨report.results, h, rfl⟩
  · rw [hrun, exists_map_eq_ok, exists_mapM_eq_ok]
    simp only [exists_eq_ok_iff, ne_eq, result_eq_error_iff]
  · intro hhoused e he
    obtain ⟨before, t, after, hparts, -, ht⟩ := (hfails e).1 he
    have hmem : t ∈ tried := by
      rw [hparts]
      exact List.mem_append_right before List.mem_cons_self
    obtain ⟨scratch, hscratch⟩ := hhoused t hmem
    exact ⟨t, hmem, ((result_eq_error_iff launch program timeout).1 ht).cancelled launch program
      timeout hscratch⟩

/-! ### A run of which a result is lost -/

/-- A program that greets, and removes all files. -/
def sweeper : Launcher := fun _ _ =>
  .ok { ending := some (20, .ok (.exited 0)), after := fun _ => ⟨[104, 105], [33], {}⟩ }

/-- The sweeper says what it should, but leaves nowhere to ask it again, and nothing is known of it
in the end, though nobody asked for a stop. -/
theorem aborted_sweeper :
    let w : World := { files := { entries := [(["tmp"], .directory)] } }
    let assertions : List Assertion := [{ expect := "i!" }, { expect := "i!" }]
    (trials sweeper "/p/bin/sweep" 1000 0 (assertions.zip ["i!", "i!"]) w).map
        (Trial.result sweeper "/p/bin/sweep" 1000) =
      [.ok (.pass "test-1" [] (some 0)),
        .error (.io "No such file or directory (os error 2) at path \"/tmp/.tmp000001\"")] ∧
    (∀ n, w.stopRequested n = false) ∧
    (attempted (run sweeper "/p/bin/sweep" assertions ["i!", "i!"] 1000) w).1 =
      .error (.io "No such file or directory (os error 2) at path \"/tmp/.tmp000001\"") := by
  refine ⟨?_, fun n => rfl, ?_⟩
  · decide +kernel
  · decide +kernel

end Formulary.Smoke
