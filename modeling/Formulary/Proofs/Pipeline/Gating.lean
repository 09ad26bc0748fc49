import Formulary.Proofs.Pipeline.Standing

/-!
# Stages are gates

Which actions a run performs is seen by letting each of them note that it was performed, and whether
it succeeded, before it gives its result back. `gated_run` says what one request comes to in these
terms. Over a whole list of requests the notes are the records of the run (`notes_after`), so that
no stage is entered twice, and none before all stages that come earlier have succeeded.
-/

namespace Formulary

/-- A note that the action of a stage was performed, and whether it succeeded. -/
structure Note where
  stage : Stage
  succeeded : Bool
  deriving DecidableEq

abbrev Noting (τ : Type) := StateT (List Note) (StateM τ)

variable {τ α : Type}

def noting (stage : Stage) (action : StateM τ (Except Failure α)) :
    Noting τ (Except Failure α) := do
  let result ← (action : StateM τ _)
  modify fun notes => notes ++ [⟨stage, result.isOk⟩]
  return result

/-- A watch among actions that leave notes. It leaves none. -/
def Watch.noting (watch : Watch (StateM τ)) : Watch (Noting τ) where
  cancelled := (watch.cancelled : StateM τ _)
  now := (watch.now : StateM τ _)

/-- A request whose action leaves a note. -/
def Request.noting (r : Request (StateM τ)) : Request (Noting τ) where
  before := (r.before : StateM τ _)
  stage := r.stage
  Result := r.Result
  action := Formulary.noting r.stage r.action

namespace Pipeline

/-- What a request for a stage comes to: what is given back, the run after it, and the notes. -/
def requested (watch : Watch (StateM τ)) (p : Pipeline) (stage : Stage)
    (action : StateM τ (Except Failure α)) (notes : List Note) (w : τ) :
    (Option α × Pipeline) × List Note :=
  let out := outcomeWith (p.run watch.noting stage (noting stage action)) notes w
  (out.1, out.2.1)

/-- The stage leads on from where a run stands, and the run is not to stop. -/
def Admits (watch : Watch (StateM τ)) (p : Pipeline) (stage : Stage) (w : τ) : Prop :=
  p.state.next? = some stage ∧ (outcome watch.cancelled w).1 = false

section Request

variable {watch : Watch (StateM τ)} {p : Pipeline} {stage : Stage}
  (action : StateM τ (Except Failure α)) (notes : List Note) {w : τ}

theorem requested_of_not_admits (h : ¬ p.Admits watch stage w) :
    requested watch p stage action notes w =
      if p.state.next? = some stage then ((none, p.fail stage (.cancelled stage.display)), notes)
      else ((none, p.refuse stage), notes) := by
  unfold requested
  split
  · next hs =>
    have hc : (outcome watch.cancelled w).1 = true := by simpa [Admits, hs] using h
    replace hc : (outcomeWith watch.noting.cancelled notes w).1 = true := hc
    rw [outcomeWith_run_of_stopped hs hc]
    rfl
  · next hs => rw [outcomeWith_run_of_ne hs]

theorem requested_of_admits (h : p.Admits watch stage w) :
    ∃ (result : Except Failure α) (duration : Nat), requested watch p stage action notes w =
      (p.settle stage result duration, notes ++ [⟨stage, result.isOk⟩]) := by
  obtain ⟨hs, hc⟩ := h
  replace hc : (outcomeWith watch.noting.cancelled notes w).1 = false := hc
  obtain ⟨duration, hr, hn⟩ := outcomeWith_run_of_entered (noting stage action) hs hc
  refine ⟨_, duration, Prod.ext hr ?_⟩
  exact congrArg Prod.fst hn

end Request

/-- What one request comes to. -/
structure Gated (watch : Watch (StateM τ)) (p : Pipeline) (stage : Stage)
    (action : StateM τ (Except Failure α)) (notes : List Note) (w : τ) : Prop where
  /-- The action is performed exactly if its stage is admitted; otherwise there is no note. -/
  performed : (∃ note, (requested watch p stage action notes w).2 = notes ++ [note]) ↔
    p.Admits watch stage w
  skipped : ¬ p.Admits watch stage w → (requested watch p stage action notes w).2 = notes
  /-- Something is given back exactly if the action was performed and succeeded. -/
  isSome_given : (requested watch p stage action notes w).1.1.isSome ↔
    (requested watch p stage action notes w).2 = notes ++ [⟨stage, true⟩]
  /-- A run that is over stays as it is. -/
  absorbed : p.state = .verified ∨ (∃ failed reason code, p.state = .failed failed reason code) →
    (requested watch p stage action notes w).1 = (none, p)
  /-- Any other run fails when its stage is out of order, also if it is to stop. -/
  refused : p.state.next? ≠ none → p.state.next? ≠ some stage →
    (requested watch p stage action notes w).1.2 =
      p.fail stage (.invalidTransition p.state.display stage.display)
  /-- It fails as well when its stage is in order but it is to stop. -/
  stopped : p.state.next? = some stage → (outcome watch.cancelled w).1 = true →
    (requested watch p stage action notes w).1.2 = p.fail stage (.cancelled stage.display)

theorem next?_eq_none_iff {s : RunState} : s.next? = none ↔
    s = .verified ∨ ∃ stage reason code, s = .failed stage reason code := by
  cases s <;> simp [RunState.next?]

theorem append_ne_self (notes : List Note) (note : Note) : notes ≠ notes ++ [note] := by
  intro h
  simpa using congrArg List.length h

theorem gated_run (watch : Watch (StateM τ)) (p : Pipeline) (stage : Stage)
    (action : StateM τ (Except Failure α)) (notes : List Note) (w : τ) :
    Gated watch p stage action notes w := by
  by_cases h : p.Admits watch stage w
  · obtain ⟨result, duration, hr⟩ := requested_of_admits action notes h
    exact {
      performed := ⟨fun _ => h, fun _ => ⟨_, by rw [hr]⟩⟩
      skipped := fun hn => absurd h hn
      isSome_given := by rw [hr]; cases result <;> simp [settle, Except.isOk, Except.toBool]
      absorbed := fun hs => by cases (next?_eq_none_iff.2 hs).symm.trans h.1
      refused := fun _ hne => absurd h.1 hne
      stopped := fun _ hc => by rw [h.2] at hc; cases hc }
  · have hr := requested_of_not_admits action notes h
    have hn : (requested watch p stage action notes w).2 = notes := by rw [hr]; split <;> rfl
    exact {
      performed := by
        refine ⟨fun hperformed => ?_, fun ha => absurd ha h⟩
        obtain ⟨note, hnote⟩ := hperformed
        exact absurd (hn.symm.trans hnote) (append_ne_self notes note)
      skipped := fun _ => hn
      isSome_given := by
        rw [hn]
        refine ⟨fun hg => ?_, fun hnote => absurd hnote (append_ne_self notes _)⟩
        rw [hr] at hg
        split at hg <;> cases hg
      absorbed := fun hs => by
        have hnone := next?_eq_none_iff.2 hs
        rw [hr, if_neg (by simp [hnone]), refuse_of_next?_eq_none hnone]
      refused := fun hnext hne => by
        rw [hr, if_neg hne]
        unfold refuse outOfOrder
        rw [if_neg (by simpa [RunState.isTerminal] using hnext)]
      stopped := fun hs _ => by rw [hr, if_pos hs] }

/-! ### Whole runs -/

def noteOf (r : StageRecord) : Note := ⟨r.stage, r.succeeded⟩

theorem notes_requested (watch : Watch (StateM τ)) {p : Pipeline} (stage : Stage)
    (action : StateM τ (Except Failure α)) {notes : List Note} (w : τ)
    (h : notes = p.records.map noteOf) :
    (requested watch p stage action notes w).2 =
      (requested watch p stage action notes w).1.2.records.map noteOf := by
  by_cases ha : p.Admits watch stage w
  · obtain ⟨result, duration, hr⟩ := requested_of_admits action notes ha
    rw [hr, h]
    cases result <;> simp [settle, fail, noteOf, Except.isOk, Except.toBool]
  · rw [requested_of_not_admits action notes ha]
    split
    · exact h
    · unfold refuse
      split <;> exact h

/-- Over a list of requests the notes are the records of the run. -/
theorem notes_after (watch : Watch (StateM τ)) (requests : List (Request (StateM τ)))
    (p : Pipeline) (notes : List Note) (h : notes = p.records.map noteOf) (w : τ) :
    (outcomeWith (after watch.noting (requests.map Request.noting) p) notes w).2.1 =
      (outcomeWith (after watch.noting (requests.map Request.noting) p) notes w).1.records.map
        noteOf := by
  induction requests generalizing p notes w with
  | nil => exact h
  | cons r rest ih =>
    rw [List.map_cons, after, outcomeWith_bind, outcomeWith_bind]
    exact ih _ _ (notes_requested watch r.stage r.action _ h) _

def notesOf (watch : Watch (StateM τ)) (requests : List (Request (StateM τ))) (w : τ) :
    List Note :=
  (outcomeWith (after watch.noting (requests.map Request.noting) {}) [] w).2.1

def earlier (stage : Stage) : List Stage := Stage.order.takeWhile (· ≠ stage)

theorem earlier_of_getElem? {n : Nat} {stage : Stage} (h : Stage.order[n]? = some stage) :
    earlier stage = Stage.order.take n := by
  obtain ⟨hn, rfl⟩ := List.getElem?_eq_some_iff.1 h
  match n, hn with
  | 0, _ | 1, _ | 2, _ | 3, _ => rfl

/-- What stands before a record: the records of all earlier stages, which succeeded. -/
theorem Consistent.before_eq {p : Pipeline} (hp : Consistent p) {before rest : List StageRecord}
    {r : StageRecord} (h : p.records = before ++ r :: rest) :
    before.map noteOf = (earlier r.stage).map fun stage => ⟨stage, true⟩ := by
  have hstages : before.map StageRecord.stage ++ r.stage :: rest.map StageRecord.stage <+:
      Stage.order := by
    simpa [h] using hp.stages
  have hget : Stage.order[before.length]? = some r.stage := by
    obtain ⟨t, ht⟩ := hstages
    rw [← ht]
    simp
  have hbefore : before.map StageRecord.stage = earlier r.stage := by
    have hpre := (List.prefix_append _ _).trans hstages
    rw [earlier_of_getElem? hget]
    simpa using List.prefix_iff_eq_take.1 hpre
  have hsucc : ∀ x ∈ before, x.succeeded = true := by
    intro x hx
    refine hp.succeeded x ?_
    rw [h, List.dropLast_append_cons]
    exact List.mem_append_left _ hx
  rw [← hbefore, List.map_map]
  refine List.map_congr_left fun x hx => ?_
  simp [noteOf, hsucc x hx]

/-- **A stage is entered exactly if it leads on and the run is not to stop; what cannot be entered
changes nothing in a run that is over and stops any other. So over all requests no stage is entered
twice, and none before all earlier stages have succeeded.** -/
theorem gated_after (watch : Watch (StateM τ)) :
    (∀ {α : Type} (p : Pipeline) (stage : Stage) (action : StateM τ (Except Failure α))
      (notes : List Note) (w : τ), Gated watch p stage action notes w) ∧
    ∀ (requests : List (Request (StateM τ))) (w : τ),
      ((notesOf watch requests w).map Note.stage).Nodup ∧
      ∀ before note rest, notesOf watch requests w = before ++ note :: rest →
        before = (earlier note.stage).map fun stage => ⟨stage, true⟩ := by
  refine ⟨fun p stage action notes w => gated_run watch p stage action notes w,
    fun requests w => ?_⟩
  have hnotes := notes_after watch requests {} [] rfl w
  have hstands := standing_after watch.noting (requests.map Request.noting) standing_start [] w
  have hp := hstands.consistent
  change notesOf watch requests w = _ at hnotes
  refine ⟨?_, fun before note rest h => ?_⟩
  · rw [hnotes, List.map_map]
    exact hp.nodup
  · rw [hnotes] at h
    obtain ⟨before', tail, hrec, rfl, htail⟩ := List.map_eq_append_iff.1 h
    obtain ⟨r, rest', rfl, rfl, rfl⟩ := List.map_eq_cons_iff.1 htail
    exact hp.before_eq hrec

end Pipeline

end Formulary
