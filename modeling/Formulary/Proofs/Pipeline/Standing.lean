import Formulary.Pipeline
import Formulary.Proofs.Effects

/-!
# Where a run can stand

Whoever drives a run asks for stages one after another, in any order, with actions that may do
anything, also to the request to stop. What one request comes to is told once, by
`outcomeWith_run_of_ne`, `outcomeWith_run_of_stopped` and `outcomeWith_run_of_entered`.

`Standing` lists where a run can stand: on its way after some stages that succeeded, stopped there
by a failure that was not a stage's own, or ended by a stage that was entered and failed.
`standing_after` shows that no list of requests leads anywhere else.
-/

namespace Formulary

/-! ### Stages in order -/

namespace Stage

/-- The stages that can be asked for in a run that goes well, in order. -/
def order : List Stage := [resolve, build, postInstall, verify]

end Stage

namespace RunState

/-- Where a run stands after so many stages that succeeded. -/
def reached : Nat → RunState
  | 0 => loaded
  | 1 => resolved
  | 2 => built
  | 3 => postInstalled
  | _ => verified

theorem next?_reached (n : Nat) : (reached n).next? = Stage.order[n]? := by
  match n with
  | 0 | 1 | 2 | 3 => rfl
  | n + 4 => simp [reached, next?, Stage.order]

theorem after_eq_reached {n : Nat} {stage : Stage} (h : Stage.order[n]? = some stage) :
    after stage = reached (n + 1) := by
  obtain ⟨hn, rfl⟩ := List.getElem?_eq_some_iff.1 h
  match n, hn with
  | 0, _ | 1, _ | 2, _ | 3, _ => rfl

theorem reached_ne_failed (n : Nat) (stage : Stage) (reason : String) (code : Nat) :
    reached n ≠ failed stage reason code := by
  match n with
  | 0 | 1 | 2 | 3 => simp [reached]
  | n + 4 => simp [reached]

end RunState

/-! ### Requests -/

/-- A request for a stage: what happens before it, the stage, and the action it brings. -/
structure Request (m : Type → Type) where
  before : m Unit
  stage : Stage
  Result : Type
  action : m (Except Failure Result)

namespace Pipeline

def after {m : Type → Type} [Monad m] (watch : Watch m) : List (Request m) → Pipeline → m Pipeline
  | [], p => return p
  | r :: rest, p => do
    r.before
    let (_, p) ← p.run watch r.stage r.action
    after watch rest p

section Requests

variable {σ τ α : Type} {watch : Watch (StateT σ (StateM τ))} {p : Pipeline} {stage : Stage}
  {action : StateT σ (StateM τ) (Except Failure α)} {s : σ} {w : τ}

theorem outcomeWith_run_of_ne (h : p.state.next? ≠ some stage) :
    outcomeWith (p.run watch stage action) s w = ((none, p.refuse stage), s, w) := by
  unfold run
  rw [if_pos h]
  rfl

theorem outcomeWith_run_of_stopped (h : p.state.next? = some stage)
    (hc : (outcomeWith watch.cancelled s w).1 = true) :
    outcomeWith (p.run watch stage action) s w =
      ((none, p.fail stage (.cancelled stage.display)), (outcomeWith watch.cancelled s w).2) := by
  unfold run
  rw [if_neg (not_not.2 h), outcomeWith_bind, if_pos hc]
  rfl

/-- What the action of a stage comes to, entered after a look at the request to stop and one at the
clock. -/
def entered (watch : Watch (StateT σ (StateM τ))) (action : StateT σ (StateM τ) (Except Failure α))
    (s : σ) (w : τ) : Except Failure α × σ × τ :=
  outcomeWith (do let _ ← watch.cancelled; let _ ← watch.now; action) s w

theorem outcomeWith_run_of_entered (action : StateT σ (StateM τ) (Except Failure α))
    (h : p.state.next? = some stage) (hc : (outcomeWith watch.cancelled s w).1 = false) :
    ∃ duration,
      (outcomeWith (p.run watch stage action) s w).1 =
        p.settle stage (entered watch action s w).1 duration ∧
      (outcomeWith (p.run watch stage action) s w).2 =
        (outcomeWith watch.now (entered watch action s w).2.1
          (entered watch action s w).2.2).2 := by
  unfold run
  rw [if_neg (not_not.2 h), outcomeWith_bind, if_neg (by simp [hc])]
  exact ⟨_, rfl, rfl⟩

end Requests

/-! ### What one request comes to -/

/-- What a request can come to: the value given back, and the run after it. -/
inductive Answered {α : Type} (p : Pipeline) (stage : Stage) : Option α × Pipeline → Prop
  | refused (h : p.state.next? ≠ some stage) : Answered p stage (none, p.refuse stage)
  | stopped (h : p.state.next? = some stage) :
    Answered p stage (none, p.fail stage (.cancelled stage.display))
  | entered (h : p.state.next? = some stage) (result : Except Failure α) (duration : Nat) :
    Answered p stage (p.settle stage result duration)

theorem answered_run {σ τ α : Type} (watch : Watch (StateT σ (StateM τ))) (p : Pipeline)
    (stage : Stage) (action : StateT σ (StateM τ) (Except Failure α)) (s : σ) (w : τ) :
    Answered p stage (outcomeWith (p.run watch stage action) s w).1 := by
  by_cases h : p.state.next? = some stage
  · cases hc : (outcomeWith watch.cancelled s w).1 with
    | true =>
      rw [outcomeWith_run_of_stopped h hc]
      exact .stopped h
    | false =>
      obtain ⟨duration, hr, -⟩ := outcomeWith_run_of_entered action h hc
      rw [hr]
      exact .entered h _ duration
  · rw [outcomeWith_run_of_ne h]
    exact .refused h

/-! ### Where a run can stand -/

/-- The records of the first `n` stages, all of which succeeded. -/
structure Passed (n : Nat) (records : List StageRecord) : Prop where
  le : n ≤ Stage.order.length
  stages : records.map StageRecord.stage = Stage.order.take n
  succeeded : ∀ r ∈ records, r.succeeded = true

theorem Passed.length {n : Nat} {records : List StageRecord} (h : Passed n records) :
    records.length = n := by
  have := congrArg List.length h.stages
  rw [List.length_map, List.length_take_of_le h.le] at this
  exact this

theorem Passed.snoc {n duration : Nat} {records : List StageRecord} {stage : Stage}
    (h : Passed n records) (hs : Stage.order[n]? = some stage) :
    Passed (n + 1) (records ++ [⟨stage, true, duration⟩]) := by
  obtain ⟨hn, rfl⟩ := List.getElem?_eq_some_iff.1 hs
  refine ⟨hn, ?_, ?_⟩
  · rw [List.map_append, h.stages, List.take_succ_eq_append_getElem hn]
    rfl
  · intro r hr
    rcases List.mem_append.1 hr with hr | hr
    · exact h.succeeded r hr
    · rw [List.mem_singleton.1 hr]

/-- Where a run can stand. -/
inductive Standing : Pipeline → Prop
  /-- Some stages succeeded, and nothing failed. -/
  | going {n : Nat} {records : List StageRecord} (h : Passed n records) :
    Standing ⟨.reached n, records, none⟩
  /-- Some stages succeeded, and then a stage was not even entered. -/
  | halted {n : Nat} {records : List StageRecord} (h : Passed n records) (hn : n < 4)
    (stage : Stage) (e : Failure) :
    Standing ⟨.ofFailure stage e, records, some e⟩
  /-- Some stages succeeded, and the next one failed. -/
  | broken {n : Nat} {records : List StageRecord} (h : Passed n records) {stage : Stage}
    (hs : Stage.order[n]? = some stage) (duration : Nat) (e : Failure) :
    Standing ⟨.ofFailure stage e, records ++ [⟨stage, false, duration⟩], some e⟩

theorem standing_start : Standing {} := by
  exact .going (n := 0) ⟨Nat.zero_le _, rfl, by simp⟩

/-- A run that no stage leads on from stays as it is, whatever is asked for. -/
theorem refuse_of_next?_eq_none {p : Pipeline} (h : p.state.next? = none) (stage : Stage) :
    p.refuse stage = p := by
  unfold refuse
  rw [if_pos (by simp [RunState.isTerminal, h])]

/-- **One request leads from where a run can stand to where a run can stand.** -/
theorem Standing.answered {α : Type} {p : Pipeline} (hp : Standing p) {stage : Stage}
    {r : Option α × Pipeline} (hr : Answered p stage r) : Standing r.2 := by
  cases hp with
  | @going n records h =>
    cases hr with
    | refused hne =>
      unfold refuse
      split
      · exact .going h
      · next ht =>
        refine .halted h ?_ _ _
        by_contra hn
        rw [RunState.isTerminal, RunState.next?_reached,
          List.getElem?_eq_none (by simpa [Stage.order] using hn)] at ht
        exact ht rfl
    | stopped hs =>
      rw [RunState.next?_reached] at hs
      exact .halted h (List.getElem?_eq_some_iff.1 hs).1 _ _
    | entered hs result duration =>
      rw [RunState.next?_reached] at hs
      cases result with
      | ok value =>
        rw [settle, RunState.after_eq_reached hs]
        exact .going (h.snoc hs)
      | error e => exact .broken h hs duration e
  | halted h hn failedStage e =>
    cases hr with
    | refused => rw [refuse_of_next?_eq_none rfl]; exact .halted h hn failedStage e
    | stopped hs | entered hs => cases hs
  | broken h hs duration e =>
    cases hr with
    | refused => rw [refuse_of_next?_eq_none rfl]; exact .broken h hs duration e
    | stopped hs | entered hs => cases hs

/-- **No requests lead a run anywhere else than where it can stand.** -/
theorem standing_after {σ τ : Type} (watch : Watch (StateT σ (StateM τ)))
    (requests : List (Request (StateT σ (StateM τ)))) {p : Pipeline} (hp : Standing p) (s : σ)
    (w : τ) : Standing (outcomeWith (after watch requests p) s w).1 := by
  induction requests generalizing p s w with
  | nil => exact hp
  | cons r rest ih =>
    rw [after, outcomeWith_bind, outcomeWith_bind]
    exact ih (hp.answered (answered_run watch p r.stage r.action _ _)) _ _

/-! ### State, records and failure agree -/

/-- The state, the records and the failure of a run say the same. -/
structure Consistent (p : Pipeline) : Prop where
  /-- Stages are recorded in their order, each at most once. -/
  stages : p.records.map StageRecord.stage <+: Stage.order
  nodup : (p.records.map StageRecord.stage).Nodup
  succeeded : ∀ r ∈ p.records.dropLast, r.succeeded = true
  /-- A run that did not fail stands where its successes lead, and nothing speaks of a failure. -/
  going : (∀ stage reason code, p.state ≠ .failed stage reason code) →
    p.state = .reached (p.records.countP StageRecord.succeeded) ∧ p.failure = none ∧
      ∀ r ∈ p.records, r.succeeded = true
  isSome_failure : p.failure.isSome ↔ ∃ stage reason code, p.state = .failed stage reason code
  failure : ∀ e, p.failure = some e →
    ∃ stage, p.state = .failed stage e.message e.reasonCode ∧ e.reasonCode ≤ 9
  /-- A failed record is the last one and names the stage the run failed in. -/
  broken : ∀ before r rest, p.records = before ++ r :: rest → r.succeeded = false →
    rest = [] ∧ ∃ reason code, p.state = .failed r.stage reason code
  exitCode_eq_zero : p.state.exitCode = 0 ↔ p.state = .verified
  exitCode_failed : ∀ stage reason code, p.state = .failed stage reason code →
    p.state.exitCode / 10 = stage.index ∧ p.state.exitCode % 10 = code

theorem order_nodup : Stage.order.Nodup := by decide

theorem Passed.initial {n : Nat} {records : List StageRecord} (h : Passed n records) :
    records.map StageRecord.stage <+: Stage.order := by
  rw [h.stages]
  exact List.take_prefix _ _

theorem Passed.countP {n : Nat} {records : List StageRecord} (h : Passed n records) :
    records.countP StageRecord.succeeded = n := by
  rw [List.countP_eq_length.2 h.succeeded, h.length]

theorem Passed.not_broken {n : Nat} {records before rest : List StageRecord} {r : StageRecord}
    (h : Passed n records) (e : records = before ++ r :: rest) : r.succeeded = true :=
  h.succeeded r (by rw [e]; simp)

/-- The stage and the reason can be read off the exit code of a failed run. -/
theorem exitCode_ofFailure (stage : Stage) (e : Failure) :
    (RunState.ofFailure stage e).exitCode / 10 = stage.index ∧
      (RunState.ofFailure stage e).exitCode % 10 = e.reasonCode := by
  have := e.reasonCode_le
  simp only [RunState.ofFailure, RunState.exitCode, failureCode]
  omega

theorem exitCode_ofFailure_ne_zero (stage : Stage) (e : Failure) :
    (RunState.ofFailure stage e).exitCode ≠ 0 := by
  simp only [RunState.ofFailure, RunState.exitCode, failureCode]
  cases stage <;> simp [Stage.index]

theorem exitCode_reached (n : Nat) :
    (RunState.reached n).exitCode = 0 ↔ RunState.reached n = .verified := by
  match n with
  | 0 | 1 | 2 | 3 => decide
  | n + 4 => simp [RunState.reached, RunState.exitCode]

theorem consistent_failed {records : List StageRecord} {stage : Stage} {e : Failure}
    (stages : records.map StageRecord.stage <+: Stage.order)
    (succeeded : ∀ r ∈ records.dropLast, r.succeeded = true)
    (broken : ∀ before r rest, records = before ++ r :: rest → r.succeeded = false →
      rest = [] ∧ stage = r.stage) :
    Consistent ⟨.ofFailure stage e, records, some e⟩ where
  stages := stages
  nodup := order_nodup.sublist stages.sublist
  succeeded := succeeded
  going hs := absurd rfl (hs stage e.message e.reasonCode)
  isSome_failure := by simp [RunState.ofFailure]
  failure e' he := by
    obtain rfl := Option.some.inj he
    exact ⟨stage, rfl, e.reasonCode_le⟩
  broken before r rest heq hr := by
    obtain ⟨hrest, rfl⟩ := broken before r rest heq hr
    exact ⟨hrest, _, _, rfl⟩
  exitCode_eq_zero := by
    refine ⟨fun h => absurd h (exitCode_ofFailure_ne_zero stage e), fun h => ?_⟩
    cases h
  exitCode_failed := by
    intro stage' reason code hs
    cases hs
    exact exitCode_ofFailure stage e

/-- **Wherever a run can stand, its state, its records and its failure agree.** -/
theorem Standing.consistent {p : Pipeline} (hp : Standing p) : Consistent p := by
  cases hp with
  | @going n records h =>
    exact {
      stages := h.initial
      nodup := order_nodup.sublist h.initial.sublist
      succeeded := fun r hr => h.succeeded r (List.dropLast_subset records hr)
      going := fun _ => ⟨by rw [h.countP], rfl, h.succeeded⟩
      isSome_failure := by simp [RunState.reached_ne_failed]
      failure := by simp
      broken := fun before r rest e hr => by simp [h.not_broken e] at hr
      exitCode_eq_zero := exitCode_reached n
      exitCode_failed := fun _ _ _ hs => (RunState.reached_ne_failed _ _ _ _ hs).elim }
  | @halted n records h hn stage e =>
    refine consistent_failed h.initial ?_ ?_
    · exact fun r hr => h.succeeded r (List.dropLast_subset records hr)
    · intro before r rest heq hr
      simp [h.not_broken heq] at hr
  | @broken n records h stage hs duration e =>
    refine consistent_failed ?_ ?_ ?_
    · obtain ⟨hn, rfl⟩ := List.getElem?_eq_some_iff.1 hs
      rw [List.map_append, h.stages, List.map_singleton, ← List.take_succ_eq_append_getElem hn]
      exact List.take_prefix _ _
    · rw [List.dropLast_concat]
      exact h.succeeded
    · intro before r rest heq hr
      -- a record before the last one is that of a stage that succeeded
      rcases List.eq_nil_or_concat rest with rfl | ⟨init, last, rfl⟩
      · obtain ⟨-, hlast⟩ := List.append_inj' heq rfl
        obtain rfl := (List.cons.inj hlast).1
        exact ⟨rfl, rfl⟩
      · rw [List.concat_eq_append, ← List.cons_append, ← List.append_assoc] at heq
        obtain ⟨hinit, -⟩ := List.append_inj' heq rfl
        simp [h.not_broken hinit] at hr

/-- **After any requests, with any actions and the request to stop set or taken back at any time,
the state, the records and the failure of a run agree.** -/
theorem consistent_after {σ τ : Type} (watch : Watch (StateT σ (StateM τ)))
    (requests : List (Request (StateT σ (StateM τ)))) (s : σ) (w : τ) :
    Consistent (outcomeWith (after watch requests {}) s w).1 :=
  (standing_after watch requests standing_start s w).consistent

end Pipeline

end Formulary
