import Formulary.Proofs.Descriptor
import Formulary.Proofs.Machine.Supervising
import Formulary.Proofs.Resolution
import Formulary.Proofs.Text.Marks
import Formulary.Smoke.Run
import Mathlib.Data.List.Forall2

/-!
# How assertions are judged

An assertion is tried in the world that those before it have left (`trials`). What it comes to depends
on the program's process alone: `Passes` says which processes it takes, and `Judged` what its result
tells. Over a run, step by step, every assertion has its result (`judged_tryFrom`), and the verdict
follows from the results.
-/

namespace Formulary.Smoke

variable (launch : Launcher) (program : Path) (timeout : Millis)

/-! ### What is tried -/

/-- An assertion at its position, what it expects, and the world in which it is tried. -/
structure Trial where
  position : Nat
  assertion : Assertion
  expected : String
  world : World

def trials : Nat → List (Assertion × String) → World → List Trial
  | _, [], _ => []
  | position, (a, expected) :: rest, w =>
    ⟨position, a, expected, w⟩ :: trials (position + 1) rest
      (attempted (tryOne launch program (idOf a position) a expected timeout) w).2

theorem map_trials (position : Nat) (l : List (Assertion × String)) (w : World) :
    (trials launch program timeout position l w).map
      (fun t => (t.position, t.assertion, t.expected)) = (List.range' position l.length).zip l := by
  induction l generalizing position w with
  | nil => rfl
  | cons entry rest ih => exact congrArg _ (ih _ _)

def Trial.result (t : Trial) : Except Failure AssertionResult :=
  (attempted (tryOne launch program (idOf t.assertion t.position) t.assertion t.expected timeout)
    t.world).1

/-- Assertions that are tried one after another come to what their trials come to. -/
theorem tryFrom_eq (position : Nat) (l : List (Assertion × String)) (w : World) :
    (attempted (tryFrom launch program timeout position l) w).1 =
      (trials launch program timeout position l w).mapM (Trial.result launch program timeout) := by
  induction l generalizing position w with
  | nil => rfl
  | cons entry rest ih =>
    obtain ⟨a, expected⟩ := entry
    unfold tryFrom trials
    rw [attempted_bind, List.mapM_cons, ← ih]
    unfold Trial.result
    dsimp only
    rcases attempted (tryOne launch program (idOf a position) a expected timeout) w with ⟨e | r, v⟩
    · rfl
    dsimp only
    rw [attempted_bind]
    rcases attempted (tryFrom launch program timeout (position + 1) rest) v with ⟨e | rs, u⟩
    · rfl
    · rfl

/-- The result of a trial follows from what is seen of its program, if this has a directory. -/
theorem result_eq (t : Trial) :
    t.result launch program timeout =
      match outcome (Disk.makeTemporary ".tmp") t.world with
      | (.error fault, _) => .error (Attempt.ioFailure fault)
      | (.ok scratch, v) =>
        match (outcome (supervise launch (commandOf program t.assertion scratch) timeout) v).1 with
        | .error fault => .ok (.fail (idOf t.assertion t.position) t.assertion.args none
            (.assertionLaunch (idOf t.assertion t.position) program.text fault.message))
        | .ok o =>
          if o.outcome = .cancelled then
            .error (.cancelled ("verify " ++ idOf t.assertion t.position))
          else .ok (judge (idOf t.assertion t.position) t.assertion t.expected timeout o) := by
  unfold Trial.result tryOne
  rw [attempted_bind, Attempt.io, attempted_orFail]
  rcases outcome (Disk.makeTemporary ".tmp") t.world with ⟨fault | scratch, v⟩
  · rfl
  dsimp only [Except.mapError]
  rw [attempted_bind, attempted_lift]
  dsimp only
  rw [attempted_bind, attempted_lift]
  dsimp only
  cases (outcome (supervise launch (commandOf program t.assertion scratch) timeout) v).1 with
  | error fault => rfl
  | ok o =>
    dsimp only
    split
    · rfl
    · rfl

/-! ### What a process comes to -/

/-- A process that an assertion takes: it ends by itself in time, with the status that is expected,
and what it wrote by then, its complaints after its results, holds what is expected. -/
def Passes (a : Assertion) (expected : String) (p : Process) : Prop :=
  ∃ moment code, p.ending = some (moment, .ok (.exited code)) ∧ moment < timeout ∧
    (code : Int) = a.status.toInt ∧
    expected.toList <:+: (Text.decodeLossy (p.after (moment + 1)).stdout ++
      Text.decodeLossy (p.after (moment + 1)).stderr).toList

variable {timeout}

theorem not_passes_of_timedOut {a : Assertion} {expected : String} {p : Process}
    (h : p.endedBefore timeout = none) : ¬ Passes timeout a expected p := by
  rintro ⟨moment, code, hending, hmoment, -⟩
  exact Nat.not_le_of_lt hmoment (Process.endedBefore_eq_none.1 h moment _ hending)

/-- A process that cannot be waited for is taken by no assertion. -/
theorem not_passes_of_lost {a : Assertion} {expected : String} {p : Process} {e : Fault}
    (h : p.Lost timeout e) : ¬ Passes timeout a expected p := by
  rintro ⟨moment, code, hending, -⟩
  obtain ⟨moment', hlost, -⟩ := h
  cases hending.symm.trans hlost

theorem passes_iff_of_ended {a : Assertion} {expected : String} {p : Process} {moment : Millis}
    {status : ExitStatus} (h : p.endedBefore timeout = some (moment, .ok status)) :
    Passes timeout a expected p ↔ status.code? = some a.status.toInt ∧
      Text.holds (p.left (.exited status) (moment + 1)).combined expected = true := by
  obtain ⟨hending, hmoment⟩ := Process.endedBefore_eq_some.1 h
  rw [Text.holds_iff]
  constructor
  · rintro ⟨_, code, hsame, -, hstatus, hsaid⟩
    rw [hending] at hsame
    cases hsame
    exact ⟨congrArg some hstatus, hsaid⟩
  · rintro ⟨hstatus, hsaid⟩
    cases status with
    | signaled signal dumped => cases hstatus
    | exited code => exact ⟨moment, code, hending, hmoment, Option.some.inj hstatus, hsaid⟩

/-- Nothing is wrong with what is seen of a process just if the assertion takes it. -/
theorem complaint_eq_none_iff (a : Assertion) (expected : String) {p : Process} {o : Outcome}
    {time : Millis} (hseen : (.ok o, time) = p.seen timeout) :
    complaint? a expected timeout (p.left o time) = none ↔ Passes timeout a expected p := by
  unfold Process.seen at hseen
  cases hended : p.endedBefore timeout with
  | none =>
    rw [hended] at hseen
    obtain ⟨⟨⟩, rfl⟩ := Prod.mk.inj hseen
    refine iff_of_false ?_ (not_passes_of_timedOut hended)
    exact Option.some_ne_none _
  | some ended =>
    obtain ⟨moment, e | status⟩ := ended
    · rw [hended] at hseen
      cases hseen
    rw [hended] at hseen
    obtain ⟨⟨⟩, rfl⟩ := Prod.mk.inj hseen
    rw [passes_iff_of_ended hended]
    have hcode : (p.left (.exited status) (moment + 1)).exitCode = status.code? := rfl
    change (if _ then _ else _) = none ↔ _
    rw [hcode]
    by_cases hstatus : status.code? = some a.status.toInt
    · cases hholds : Text.holds (p.left (.exited status) (moment + 1)).combined expected <;>
        simp [hstatus]
    · simp [hstatus]

/-! ### What a result tells -/

variable (timeout)

/-- A program cannot be started, or its process cannot be waited for any longer before its time is
over. -/
def Unattended (c : Command) (site : Site) : Prop :=
  (∃ e, launch c site = .error e) ∨ ∃ p e, launch c site = .ok p ∧ p.Lost timeout e

/-- What the result of a trial tells, whose program is started in a directory of its own. -/
structure Judged (t : Trial) (r : AssertionResult) : Prop where
  id : r.id = t.assertion.id.getD ("test-" ++ toString (t.position + 1))
  args : r.args = t.assertion.args
  started : ∃ scratch v, outcome (Disk.makeTemporary ".tmp") t.world = (.ok scratch, v) ∧
    let command := commandOf program t.assertion scratch
    (r.passed = true ↔ ∃ p, launch command v.site = .ok p ∧
      Passes timeout t.assertion t.expected p) ∧
    (r.isLaunchError = true ↔ Unattended launch timeout command v.site)
  message : r.message.isSome = true ↔ r.passed = false

section Results

variable {launch program}

theorem Judged.launchError {t : Trial} {scratch : Path} {v : World} {e : Fault}
    (hscratch : outcome (Disk.makeTemporary ".tmp") t.world = (.ok scratch, v))
    (hfails : ∀ p, launch (commandOf program t.assertion scratch) v.site = .ok p →
      ¬ Passes timeout t.assertion t.expected p)
    (h : Unattended launch timeout (commandOf program t.assertion scratch) v.site) :
    Judged launch program timeout t (.fail (idOf t.assertion t.position) t.assertion.args none
      (.assertionLaunch (idOf t.assertion t.position) program.text e.message)) where
  id := rfl
  args := rfl
  started := by
    refine ⟨scratch, v, hscratch, iff_of_false Bool.false_ne_true ?_, iff_of_true rfl h⟩
    rintro ⟨p, hp, hpasses⟩
    exact hfails p hp hpasses
  message := iff_of_true rfl rfl

theorem judge_cases (id : String) (a : Assertion) (expected : String) (o : Output) :
    (complaint? a expected timeout o = none ∧
      judge id a expected timeout o = .pass id a.args o.exitCode) ∨
    ∃ message, complaint? a expected timeout o = some message ∧
      judge id a expected timeout o =
        .fail id a.args o.exitCode (.assertionMismatch id message (snippet o.combined)) := by
  unfold judge
  cases complaint? a expected timeout o with
  | none => exact .inl ⟨rfl, rfl⟩
  | some message => exact .inr ⟨message, rfl, rfl⟩

/-- What is said of a process that was watched to its end, or for all its time. -/
theorem Judged.judged {t : Trial} {scratch : Path} {v : World} {p : Process} {o : Outcome}
    {time : Millis} (hscratch : outcome (Disk.makeTemporary ".tmp") t.world = (.ok scratch, v))
    (hlaunch : launch (commandOf program t.assertion scratch) v.site = .ok p)
    (hseen : (.ok o, time) = p.seen timeout) :
    Judged launch program timeout t
      (judge (idOf t.assertion t.position) t.assertion t.expected timeout (p.left o time)) := by
  have hcomplaint := complaint_eq_none_iff t.assertion t.expected hseen
  have hpasses : (∃ p, launch (commandOf program t.assertion scratch) v.site = .ok p ∧
      Passes timeout t.assertion t.expected p) ↔
        complaint? t.assertion t.expected timeout (p.left o time) = none := by
    rw [hcomplaint]
    refine ⟨?_, fun h => ⟨p, hlaunch, h⟩⟩
    rintro ⟨p', hsame, h⟩
    rwa [Except.ok.inj (hlaunch.symm.trans hsame)]
  have hattended : ¬ Unattended launch timeout (commandOf program t.assertion scratch) v.site := by
    rintro (⟨e, he⟩ | ⟨p', e, hsame, hlost⟩)
    · cases hlaunch.symm.trans he
    · obtain rfl := Except.ok.inj (hlaunch.symm.trans hsame)
      rw [← Process.seen_eq_error_iff, ← hseen] at hlost
      cases hlost
  rcases judge_cases timeout (idOf t.assertion t.position) t.assertion t.expected
    (p.left o time) with ⟨hnone, hjudge⟩ | ⟨message, hsome, hjudge⟩
  · rw [hjudge]
    exact {
      id := rfl
      args := rfl
      started := ⟨scratch, v, hscratch, iff_of_true rfl (hpasses.2 hnone),
        iff_of_false Bool.false_ne_true hattended⟩
      message := iff_of_false Bool.false_ne_true (by simp [AssertionResult.pass]) }
  · rw [hjudge]
    have hfails : ¬ complaint? t.assertion t.expected timeout (p.left o time) = none := by
      rw [hsome]
      exact Option.some_ne_none message
    exact {
      id := rfl
      args := rfl
      started := ⟨scratch, v, hscratch, iff_of_false Bool.false_ne_true (hfails ∘ hpasses.1),
        iff_of_false Bool.false_ne_true hattended⟩
      message := iff_of_true rfl rfl }

end Results

/-- A trial that has a result has the result of its process, or of there being none that can be
started and waited for. -/
theorem judged_result {t : Trial} {r : AssertionResult}
    (h : t.result launch program timeout = .ok r) : Judged launch program timeout t r := by
  rw [result_eq] at h
  rcases hscratch : outcome (Disk.makeTemporary ".tmp") t.world with ⟨e | scratch, v⟩
  · rw [hscratch] at h
    cases h
  rw [hscratch] at h
  dsimp only at h
  cases hlaunch : launch (commandOf program t.assertion scratch) v.site with
  | error e =>
    rw [congrArg Prod.fst (supervise_refused hlaunch timeout)] at h
    cases h
    exact .launchError timeout hscratch (by simp [hlaunch]) (.inl ⟨e, hlaunch⟩)
  | ok p =>
    obtain ⟨o, time, hsupervise, -, -, hseen, -⟩ := supervise_seen hlaunch timeout
    rw [hsupervise] at h
    rcases o with e | o
    · have hlost : p.Lost timeout e := Process.lost_of_seen hseen
      cases h
      refine .launchError timeout hscratch (fun p' hsame => ?_) (.inr ⟨p, e, hlaunch, hlost⟩)
      rw [← Except.ok.inj (hlaunch.symm.trans hsame)]
      exact not_passes_of_lost hlost
    dsimp only [Except.map] at h
    by_cases hcancelled : o = .cancelled
    · rw [if_pos (show (p.left o time).outcome = .cancelled from hcancelled)] at h
      cases h
    rw [if_neg (show ¬ (p.left o time).outcome = .cancelled from hcancelled)] at h
    cases h
    exact .judged timeout hscratch hlaunch
      (hseen.resolve_left fun h => hcancelled (Except.ok.inj h))

/-! ### Runs -/

theorem judged_tryFrom {position : Nat} {l : List (Assertion × String)} {w : World}
    {results : List AssertionResult}
    (h : (attempted (tryFrom launch program timeout position l) w).1 = .ok results) :
    List.Forall₂ (Judged launch program timeout) (trials launch program timeout position l w)
      results := by
  rw [tryFrom_eq] at h
  exact (mapM_eq_ok_iff.1 h).imp fun t r => judged_result launch program timeout

theorem failed_eq (report : SmokeReport) :
    report.failed = report.results.countP fun r => !r.passed :=
  List.countP_eq_length_filter.symm

theorem passed_iff (report : SmokeReport) :
    report.passed = true ↔ ∀ r ∈ report.results, r.passed = true := List.all_eq_true

theorem failed_pos_iff (report : SmokeReport) : 0 < report.failed ↔ ¬ report.passed = true := by
  rw [failed_eq, passed_iff, List.countP_pos_iff]
  simp

theorem verdict_eq_ok_iff (report : SmokeReport) :
    report.verdict = .ok () ↔ ∀ r ∈ report.results, r.passed = true := by
  rw [← passed_iff]
  unfold SmokeReport.verdict
  split <;> simp_all

/-- What a report tells of all assertions, each with what it expects, that are tried from a world
on. -/
structure Reported (assertions : List Assertion) (expectations : List String) (w : World)
    (report : SmokeReport) : Prop where
  /-- There is a trial for each assertion, in order. -/
  tried : (trials launch program timeout 0 (assertions.zip expectations) w).map
    (fun t => (t.position, t.assertion, t.expected)) =
      (List.range assertions.length).zip (assertions.zip expectations)
  /-- There is a result for each of them. -/
  judged : List.Forall₂ (Judged launch program timeout)
    (trials launch program timeout 0 (assertions.zip expectations) w) report.results
  complete : report.results.length = assertions.length
  accepted : report.verdict = .ok () ↔ ∀ r ∈ report.results, r.passed = true
  rejected : report.verdict ≠ .ok () →
    1 ≤ report.results.countP (fun r => !r.passed) ∧
    report.verdict = .error (.verificationFailed (report.results.countP fun r => !r.passed)
      assertions.length)

/-- **The results are those of the assertions**, each of its own, and the verdict is over all of
them. There is an expectation for each assertion if they were resolved together. -/
theorem reported_run :
    (∀ (f : Formula) (d : Descriptor) (c : Context) (r : Resolution),
      Resolution.resolve f d c = .ok r → r.expectations.length = f.tests.length) ∧
    ∀ (launch : Launcher) (program : Path) (timeout : Millis) (assertions : List Assertion)
      (expectations : List String) (w : World) (report : SmokeReport),
      expectations.length = assertions.length →
      (attempted (run launch program assertions expectations timeout) w).1 = .ok report →
      Reported launch program timeout assertions expectations w report := by
  refine ⟨fun f d c r => Resolution.length_expectations, ?_⟩
  intro launch program timeout assertions expectations w report hlength h
  have hzip : (assertions.zip expectations).length = assertions.length := by
    rw [List.length_zip, hlength, Nat.min_self]
  unfold run at h
  rw [attempted_bind] at h
  rcases hall : attempted (tryFrom launch program timeout 0 (assertions.zip expectations)) w with
    ⟨e | results, v⟩
  · rw [hall] at h
    cases h
  rw [hall] at h
  cases h
  have hjudged := judged_tryFrom launch program timeout (congrArg Prod.fst hall)
  have hcomplete : results.length = assertions.length := by
    rw [← hjudged.length_eq, ← List.length_map, map_trials, List.length_zip, List.length_range', hzip,
      Nat.min_self]
  refine ⟨?_, hjudged, hcomplete, verdict_eq_ok_iff _, fun hverdict => ?_⟩
  · rw [map_trials, hzip, List.range_eq_range']
  · have hpassed : ¬ SmokeReport.passed ⟨results⟩ = true := by
      rwa [passed_iff, ← verdict_eq_ok_iff]
    refine ⟨?_, ?_⟩
    · rw [← failed_eq ⟨results⟩]
      exact (failed_pos_iff _).2 hpassed
    · unfold SmokeReport.verdict
      rw [if_neg hpassed, failed_eq, hcomplete]

/-! ### A run of which one assertion fails -/

/-- A program that greets. It is not there where it is asked for anything, and cannot be waited for
where it is asked to stay. -/
def greeter : Launcher := fun c site =>
  match c.args with
  | [] => .ok {
      ending := some (20, .ok (.exited 0))
      after := fun _ => ⟨[104, 105], [33], site.files⟩ }
  | ["--stay"] => .ok { ending := some (20, .error .noChild), after := fun _ => { files := site.files } }
  | _ => .error .noEntry

/-- What it should say, and what it should not be asked for. -/
def greetings : List Assertion := [{ id := some "greets", expect := "i!" },
  { args := ["--version"], expect := "1.0" }, { args := ["--stay"], expect := "i!" }]

def greeterFormula : Formula := { Formula.cloned with tests := greetings }

/-- The results of the greeter: it says what it should, is not started when it is asked for
anything, and is lost when it stays. -/
theorem reported_greeter :
    let w : World := { files := { entries := [(["tmp"], .directory)] } }
    let report : SmokeReport := ⟨[.pass "greets" [] (some 0),
      .fail "test-2" ["--version"] none
        (.assertionLaunch "test-2" "/p/bin/demo" "No such file or directory (os error 2)"),
      .fail "test-3" ["--stay"] none
        (.assertionLaunch "test-3" "/p/bin/demo" "No child processes (os error 10)")]⟩
    ∃ r, Resolution.resolve greeterFormula .cloned .first = .ok r ∧
      r.expectations.length = greetings.length ∧ r.expectations = ["i!", "1.0", "i!"] ∧
      (attempted (run greeter "/p/bin/demo" greetings r.expectations 1000) w).1 = .ok report ∧
      Reported greeter "/p/bin/demo" 1000 greetings r.expectations w report ∧
      report.verdict = .error (.verificationFailed 2 3) := by
  intro w report
  have hresolved : (Resolution.resolve greeterFormula .cloned .first).map
      Resolution.expectations = .ok ["i!", "1.0", "i!"] := by
    decide +kernel
  obtain ⟨r, hr, hexpectations⟩ := map_eq_ok.1 hresolved
  have hlength := reported_run.1 greeterFormula .cloned .first r hr
  have hrun : (attempted (run greeter "/p/bin/demo" greetings r.expectations 1000) w).1 =
      .ok report := by
    rw [hexpectations]
    decide +kernel
  exact ⟨r, hr, hlength, hexpectations, hrun,
    reported_run.2 greeter "/p/bin/demo" 1000 greetings _ w report hlength hrun, rfl⟩

end Formulary.Smoke
