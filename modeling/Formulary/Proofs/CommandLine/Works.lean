import Formulary.CommandLine.Transcript
import Formulary.Proofs.Effects

/-!
# What commands come to

A command ends with a result or early with an exit code, and says something on its way. `told` is
how it ends, what has been said by then, and the world it leaves; the laws say what a sequence
comes to, and that saying something never ends a command.
-/

namespace Formulary.CommandLine.Work

variable {α β : Type}

/-- How a command ends, all that has been said by then, and the world it leaves. -/
def told (work : Work α) (said : Transcript) (w : World) : Except Nat α × Transcript × World :=
  outcomeWith work.run said w

@[simp] theorem told_pure (a : α) (said : Transcript) (w : World) :
    told (pure a) said w = (.ok a, said, w) := rfl

@[simp] theorem told_lift (x : Act α) (said : Transcript) (w : World) :
    told (liftM x) said w = (.ok (outcome x w).1, said, (outcome x w).2) := rfl

theorem told_bind (work : Work α) (next : α → Work β) (said : Transcript) (w : World) :
    told (work >>= next) said w =
      match told work said w with
      | (.ok a, said, v) => told (next a) said v
      | (.error code, said, v) => (.error code, said, v) := by
  change outcomeWith (ExceptT.bindCont next (told work said w).1) (told work said w).2.1
    (told work said w).2.2 = _
  rcases told work said w with ⟨_ | a, said, v⟩ <;> rfl

/-! ### Saying something -/

/-- A command that only says something: it does not end anything, and leaves the world alone. -/
def OnlySays (work : Work Unit) : Prop :=
  ∀ said w, ∃ said', told work said w = (.ok (), said', w)

theorem OnlySays.bind {work : Work Unit} (h : OnlySays work) (next : Unit → Work β)
    (said : Transcript) (w : World) :
    ∃ said', told (work >>= next) said w = told (next ()) said' w := by
  obtain ⟨said', h⟩ := h said w
  exact ⟨said', by rw [told_bind, h]⟩

theorem told_say (line : String) (said : Transcript) (w : World) :
    told (say line) said w =
      (.ok (), { said with stdout := said.stdout ++ (line ++ "\n") }, w) := rfl

theorem onlySays_say (line : String) : OnlySays (say line) :=
  fun said w => ⟨_, told_say line said w⟩

def linesText (lines : List String) : String := String.join (lines.map (· ++ "\n"))

theorem told_sayAll (lines : List String) (said : Transcript) (w : World) :
    told (sayAll lines) said w =
      (.ok (), { said with stdout := said.stdout ++ linesText lines }, w) := by
  induction lines generalizing said with
  | nil => simp [sayAll, linesText]
  | cons line rest ih =>
    unfold sayAll
    rw [told_bind, told_say]
    dsimp only
    rw [ih]
    simp [linesText, String.append_assoc]

theorem onlySays_sayAll (lines : List String) : OnlySays (sayAll lines) :=
  fun said w => ⟨_, told_sayAll lines said w⟩

/-! ### Ending early -/

/-- An attempt in a command: its failure ends the command with an exit code of the stage. -/
theorem told_orRefuse (stage : Stage) (attempt : Attempt α) (said : Transcript) (w : World) :
    ∃ said', told (orRefuse stage attempt) said w =
      match attempted attempt w with
      | (.ok a, v) => (.ok a, said, v)
      | (.error e, v) => (.error (e.exitCode stage), said', v) := by
  unfold orRefuse
  rw [told_bind, told_lift, outcome_run]
  rcases attempted attempt w with ⟨e | a, v⟩
  · exact ⟨_, rfl⟩
  · exact ⟨said, rfl⟩

/-! ### Exit codes -/

/-- The exit code of a command whose end is known, and all that was said by then. -/
theorem outcome_transcript (work : Work Nat) (w : World) :
    (outcome work.transcript w).1 =
      (match (told work {} w).1 with
        | .ok code => code
        | .error code => code,
      (told work {} w).2.1) := by
  unfold transcript
  rw [outcome_bind]
  change (outcome (match (told work {} w).1 with
    | .ok code => pure (code, (told work {} w).2.1)
    | .error code => pure (code, (told work {} w).2.1)) _).1 = _
  rcases (told work {} w).1 with code | code
  · rfl
  · rfl

theorem exitCode_transcript (work : Work Nat) (w : World) :
    (outcome work.transcript w).1.1 =
      match (told work {} w).1 with
      | .ok code => code
      | .error code => code := congrArg Prod.fst (outcome_transcript work w)

theorem said_transcript (work : Work Nat) (w : World) :
    (outcome work.transcript w).1.2 = (told work {} w).2.1 :=
  congrArg Prod.snd (outcome_transcript work w)

end Formulary.CommandLine.Work
