import Formulary.Proofs.Kitchen.Keeping
import Formulary.Proofs.Smoke.Aborting

/-!
# What is seen of assertions

Where nobody asks for a stop, what an assertion comes to depends only on what there is to see of its
program (`Trial.shown`), wherever and whenever that is. A run goes on up to the first trial that has
no result (`tried`), and how it ends follows from what is seen in these: `tallied_run`.
-/

namespace Formulary

namespace Smoke

variable (launch : Launcher) (program : Path) (timeout : Millis)

/-! ### What a run comes to -/

/-- Of the trials of a run those that it comes to. -/
def tried (l : List (Assertion × String)) (w : World) : List Trial :=
  upToFailure (Trial.result launch program timeout) (trials launch program timeout 0 l w)

/-- What counts of a result: whether the assertion holds, or why it has no result. -/
def counted : Except Failure AssertionResult → Except Nat Bool
  | .ok r => .ok r.passed
  | .error e => .error e.reasonCode

/-- The verdict over what counts of results; it has a reason code of its own. -/
def tallied (l : List (Except Nat Bool)) : Except Nat Unit := do
  let passed ← l.mapM id
  if passed.all id then return () else throw 8

theorem mapM_counted (l : List (Except Failure AssertionResult)) :
    (l.map counted).mapM id =
      ((l.mapM id).mapError Failure.reasonCode).map (List.map AssertionResult.passed) := by
  induction l with
  | nil => rfl
  | cons x rest ih =>
    rw [List.map_cons, List.mapM_cons, List.mapM_cons, ih]
    cases x with
    | error e => rfl
    | ok r => cases rest.mapM id <;> rfl

theorem tallied_counted (l : List (Except Failure AssertionResult)) :
    tallied (l.map counted) =
      (((l.mapM id).map SmokeReport.mk) >>= SmokeReport.verdict).mapError Failure.reasonCode := by
  unfold tallied
  rw [mapM_counted]
  cases l.mapM id with
  | error e => rfl
  | ok results =>
    have hall : (results.map AssertionResult.passed).all id = SmokeReport.passed ⟨results⟩ := by
      rw [List.all_map]
      rfl
    change (if (results.map AssertionResult.passed).all id = true then _ else _) =
      (SmokeReport.verdict ⟨results⟩).mapError Failure.reasonCode
    rw [hall, SmokeReport.verdict]
    split <;> rfl

theorem tallied_eq_ok_iff {l : List (Except Nat Bool)} :
    tallied l = .ok () ↔ ∀ x ∈ l, x = .ok true := by
  unfold tallied
  rw [bind_eq_ok]
  have hitem : ∀ passed : List Bool, (if passed.all id = true then Except.ok () else .error 8) =
      (Except.ok () : Except Nat Unit) ↔ ∀ b ∈ passed, b = true := by
    intro passed
    rw [← List.all_eq_true]
    split <;> simp_all
  simp only [mapM_id_eq_ok_iff]
  constructor
  · rintro ⟨passed, rfl, hall⟩ x hx
    obtain ⟨b, hb, rfl⟩ := List.mem_map.1 hx
    rw [(hitem passed).1 hall b hb]
  · intro h
    refine ⟨List.replicate l.length true, ?_, (hitem _).2 fun b => List.eq_of_mem_replicate⟩
    rw [List.map_replicate]
    exact List.eq_replicate_of_mem h

theorem tallied_trials (l : List Trial) :
    tallied ((l.map (Trial.result launch program timeout)).map counted) =
      (((l.mapM (Trial.result launch program timeout)).map SmokeReport.mk) >>=
        SmokeReport.verdict).mapError Failure.reasonCode := by
  have hworked : (l.map (Trial.result launch program timeout)).mapM id =
      l.mapM (Trial.result launch program timeout) := List.mapM_map
  rw [tallied_counted, hworked]

/-- What a run does not come to does not matter for the verdict. -/
theorem tallied_tried (l : List (Assertion × String)) (w : World) :
    tallied (((tried launch program timeout l w).map
        (Trial.result launch program timeout)).map counted) =
      tallied (((trials launch program timeout 0 l w).map
        (Trial.result launch program timeout)).map counted) := by
  rw [tallied_trials, tallied_trials, tried, mapM_upToFailure]

/-- **How trying out a program ends is the verdict over what counts of its trials.** -/
theorem tallied_run (assertions : List Assertion) (expectations : List String) (w : World) :
    ((attempted (run launch program assertions expectations timeout) w).1 >>=
        SmokeReport.verdict).mapError Failure.reasonCode =
      tallied (((trials launch program timeout 0 (assertions.zip expectations) w).map
        (Trial.result launch program timeout)).map counted) := by
  rw [tallied_trials, run_eq]

/-! ### What is seen of a trial -/

/-- What there is to see of the program of a trial. -/
inductive Shown where
  /-- There is no directory for it. -/
  | unhoused
  /-- It cannot be started there, or not be waited for. -/
  | unlaunched
  /-- What it leaves if nothing stops it. -/
  | seen (o : Output)
  deriving DecidableEq

def Shown.ofProcess (p : Process) : Shown :=
  match p.seen timeout with
  | (.error _, _) => .unlaunched
  | (.ok o, time) => .seen (p.left o time)

/-- What there is to see of the program of a trial, in its world. -/
def Trial.shown (t : Trial) : Shown :=
  match outcome (Disk.makeTemporary ".tmp") t.world with
  | (.error _, _) => .unhoused
  | (.ok scratch, v) =>
    match launch (commandOf program t.assertion scratch) v.site with
    | .error _ => .unlaunched
    | .ok p => .ofProcess timeout p

/-- What counts of what is shown, for an assertion with what it expects. -/
def Shown.counted (a : Assertion) (expected : String) : Shown → Except Nat Bool
  | unhoused => .error 9
  | unlaunched => .ok false
  | seen o =>
    if o.outcome.interrupted then .error 0
    else .ok (complaint? a expected timeout o).isNone

variable {timeout} in
theorem Shown.ofProcess_of_seen {p : Process} {o : Outcome} {time : Millis}
    (h : p.seen timeout = (.ok o, time)) : ofProcess timeout p = .seen (p.left o time) := by
  unfold ofProcess
  rw [h]

variable {timeout} in
theorem Shown.ofProcess_of_lost {p : Process} {e : Fault} (h : (p.seen timeout).1 = .error e) :
    ofProcess timeout p = .unlaunched := by
  unfold ofProcess
  split
  · rfl
  · next hseen =>
    rw [hseen] at h
    cases h

theorem seen_ne_cancelled (p : Process) : (p.seen timeout).1 ≠ .ok .cancelled := by
  unfold Process.seen
  split
  · next moment ending _ => cases ending <;> simp [Except.map]
  · simp

theorem passed_judge (id : String) (a : Assertion) (expected : String) (o : Output) :
    (judge id a expected timeout o).passed = (complaint? a expected timeout o).isNone := by
  unfold judge
  cases complaint? a expected timeout o <;> rfl

/-- **Where nobody asks for a stop, what counts of a trial is what is seen in it.** -/
theorem counted_result {t : Trial} (hgoing : ∀ n, t.world.stopRequested n = false) :
    counted (t.result launch program timeout) =
      (t.shown launch program timeout).counted timeout t.assertion t.expected := by
  rw [result_eq]
  unfold Trial.shown
  have hkept : Abides t.world (outcome (Disk.makeTemporary ".tmp") t.world).2 :=
    keeps_makeTemporary Abides.onward abides_ticket (steady_abides launch).makes ".tmp" t.world
  generalize outcome (Disk.makeTemporary ".tmp") t.world = made at hkept
  obtain ⟨fault | scratch, v⟩ := made
  · rfl
  dsimp only at hkept ⊢
  cases hlaunch : launch (commandOf program t.assertion scratch) v.site with
  | error e =>
    rw [supervise_refused hlaunch]
    rfl
  | ok p =>
    obtain ⟨o, time, hleft, ⟨⟨o', ho', hinterrupted⟩, rfl⟩ | ⟨hnot, hseen⟩⟩ :=
      supervise_unasked hlaunch (hkept.going hgoing) timeout
    · rw [hleft]
      dsimp only
      rw [Shown.ofProcess_of_seen (Prod.ext ho' rfl)]
      exact (if_pos hinterrupted).symm
    · have ho : o ≠ .ok .cancelled := by
        rintro rfl
        exact seen_ne_cancelled timeout p (congrArg Prod.fst hseen).symm
      rw [hleft]
      dsimp only
      rcases o with e | o
      · rw [Shown.ofProcess_of_lost (congrArg Prod.fst hseen).symm]
        rfl
      rw [Shown.ofProcess_of_seen hseen.symm]
      have hkeep : ¬ (p.left o time).outcome.interrupted = true := fun h =>
        hnot ⟨o, (congrArg Prod.fst hseen).symm, h⟩
      have hcancelled : ¬ (p.left o time).outcome = .cancelled := fun h => ho (congrArg _ h)
      dsimp only [Except.map, Shown.counted]
      rw [if_neg hcancelled, if_neg hkeep]
      exact congrArg Except.ok (passed_judge timeout _ _ _ _)

/-- A trial whose program is started in a directory of its own, and is one that the assertion
takes. -/
def Trial.Holds (t : Trial) : Prop :=
  ∃ scratch v p, outcome (Disk.makeTemporary ".tmp") t.world = (.ok scratch, v) ∧
    launch (commandOf program t.assertion scratch) v.site = .ok p ∧
    Passes timeout t.assertion t.expected p

theorem seen_of_passes {a : Assertion} {expected : String} {p : Process}
    (h : Passes timeout a expected p) :
    ∃ code time, p.seen timeout = (.ok (.exited (.exited code)), time) := by
  obtain ⟨moment, code, hending, hmoment, -⟩ := h
  exact ⟨code, moment + 1,
    Process.seen_of_endedBefore (Process.endedBefore_eq_some.2 ⟨hending, hmoment⟩)⟩

theorem holds_iff_counted {t : Trial} :
    t.Holds launch program timeout ↔
      (t.shown launch program timeout).counted timeout t.assertion t.expected = .ok true := by
  unfold Trial.Holds Trial.shown
  rcases outcome (Disk.makeTemporary ".tmp") t.world with ⟨fault | scratch, v⟩
  · simp [Shown.counted]
  simp only [Prod.mk.injEq, Except.ok.injEq]
  cases hlaunch : launch (commandOf program t.assertion scratch) v.site with
  | error e =>
    refine iff_of_false ?_ (by simp [Shown.counted])
    rintro ⟨_, _, p, ⟨rfl, rfl⟩, hp, -⟩
    rw [hlaunch] at hp
    cases hp
  | ok p =>
    have hholds : (∃ scratch' v' p', (scratch = scratch' ∧ v = v') ∧
        launch (commandOf program t.assertion scratch') v'.site = .ok p' ∧
          Passes timeout t.assertion t.expected p') ↔
        Passes timeout t.assertion t.expected p := by
      constructor
      · rintro ⟨_, _, p', ⟨rfl, rfl⟩, hp, hpasses⟩
        rwa [Except.ok.inj (hlaunch.symm.trans hp)]
      · exact fun h => ⟨scratch, v, p, ⟨rfl, rfl⟩, hlaunch, h⟩
    rw [hholds]
    dsimp only
    rcases hseen : p.seen timeout with ⟨e | o, time⟩
    · have hlost := congrArg Prod.fst hseen
      rw [Shown.ofProcess_of_lost hlost]
      exact iff_of_false (not_passes_of_lost (Process.seen_eq_error_iff.1 hlost))
        (by simp [Shown.counted])
    rw [Shown.ofProcess_of_seen hseen]
    dsimp only [Shown.counted]
    rw [← complaint_eq_none_iff t.assertion t.expected hseen.symm]
    constructor
    · intro h
      obtain ⟨code, time', hended⟩ := seen_of_passes timeout
        ((complaint_eq_none_iff t.assertion t.expected hseen.symm).1 h)
      cases hseen.symm.trans hended
      rw [if_neg (show ¬ (p.left (.exited (.exited code)) time).outcome.interrupted = true from
        Bool.false_ne_true), h]
      rfl
    · intro h
      split at h
      · cases h
      · simpa using h

/-! ### Runs in which nobody asks for a stop -/

section Going

variable {w : World} (hgoing : ∀ n, w.stopRequested n = false)

include hgoing

theorem going_trials (position : Nat) (l : List (Assertion × String)) :
    ∀ t ∈ trials launch program timeout position l w, ∀ n, t.world.stopRequested n = false := by
  induction l generalizing position w with
  | nil => exact List.forall_mem_nil _
  | cons entry rest ih =>
    obtain ⟨a, expected⟩ := entry
    have hkept : Abides w (attempted (tryOne launch program (idOf a position) a expected timeout)
        w).2 := steady_tryOne (steady_abides launch) abides_ticket
      (fun _ w => (onFiles_change _ w).abides) _ _ _ w
    exact List.forall_mem_cons.2 ⟨hgoing, ih (hkept.going hgoing) (position + 1)⟩

theorem tallied_eq_ok_iff_holds (l : List (Assertion × String)) :
    tallied (((trials launch program timeout 0 l w).map
        (Trial.result launch program timeout)).map counted) = .ok () ↔
      ∀ t ∈ trials launch program timeout 0 l w, t.Holds launch program timeout := by
  rw [tallied_eq_ok_iff, List.forall_mem_map, List.forall_mem_map]
  refine forall₂_congr fun t ht => ?_
  rw [counted_result launch program timeout (going_trials launch program timeout hgoing 0 l t ht),
    holds_iff_counted]

/-- What counts of the trials that a run comes to is what is seen in them. -/
theorem counted_tried (l : List (Assertion × String)) :
    ((tried launch program timeout l w).map (Trial.result launch program timeout)).map counted =
      (((tried launch program timeout l w).map fun t => (t.position, t.assertion, t.expected)).zip
        ((tried launch program timeout l w).map (Trial.shown launch program timeout))).map
        fun seen => seen.2.counted timeout seen.1.2.1 seen.1.2.2 := by
  rw [List.zip_map', List.map_map, List.map_map]
  refine List.map_congr_left fun t ht => ?_
  have htried := (initial_upToFailure _ _).subset ht
  have hcounted := counted_result launch program timeout
    (going_trials launch program timeout hgoing 0 l t htried)
  simp only [Function.comp_apply, hcounted]

end Going

theorem map_tried (l : List (Assertion × String)) (w : World) :
    (tried launch program timeout l w).map (fun t => (t.position, t.assertion, t.expected)) =
      ((List.range' 0 l.length).zip l).take (tried launch program timeout l w).length := by
  have hprefix := (initial_upToFailure (Trial.result launch program timeout)
    (trials launch program timeout 0 l w)).map fun t => (t.position, t.assertion, t.expected)
  rw [map_trials, List.prefix_iff_eq_take, List.length_map] at hprefix
  exact hprefix

/-- **Two runs in which the same is seen have the same verdict**, wherever, whenever and with
whatever they are made. -/
theorem tallied_of_shown {launch' : Launcher} {program' : Path} {l : List (Assertion × String)}
    {w w' : World} (hgoing : ∀ n, w.stopRequested n = false)
    (hgoing' : ∀ n, w'.stopRequested n = false)
    (hshown : (tried launch program timeout l w).map (Trial.shown launch program timeout) =
      (tried launch' program' timeout l w').map (Trial.shown launch' program' timeout)) :
    tallied (((trials launch program timeout 0 l w).map
        (Trial.result launch program timeout)).map counted) =
      tallied (((trials launch' program' timeout 0 l w').map
        (Trial.result launch' program' timeout)).map counted) := by
  have hlength : (tried launch program timeout l w).length =
      (tried launch' program' timeout l w').length := by
    rw [← List.length_map, hshown, List.length_map]
  rw [← tallied_tried, ← tallied_tried, counted_tried _ _ _ hgoing, counted_tried _ _ _ hgoing',
    map_tried, map_tried, hshown, hlength]

end Smoke

end Formulary
