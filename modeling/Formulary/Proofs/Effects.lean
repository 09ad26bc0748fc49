import Formulary.Machine.World
import Mathlib.Tactic.Common

/-!
# What actions come to

An action on a world is a function of the world it starts in. `outcome` is that function for actions
on a world, `outcomeWith` for actions of a caller that has a state of its own besides, `attempted`
for actions that may fail. The laws of each say what a sequence of actions comes to.
-/

namespace Formulary

variable {σ τ ε α β : Type}

/-! ### Actions on a world -/

/-- What an action gives, and the world it leaves. -/
def outcome (x : StateM τ α) (w : τ) : α × τ := Id.run (x.run w)

@[simp] theorem outcome_pure (a : α) (w : τ) : outcome (pure a) w = (a, w) := rfl

@[simp] theorem outcome_bind (x : StateM τ α) (f : α → StateM τ β) (w : τ) :
    outcome (x >>= f) w = outcome (f (outcome x w).1) (outcome x w).2 := rfl

@[simp] theorem outcome_get (w : τ) : outcome (get : StateM τ τ) w = (w, w) := rfl

theorem exists_outcome_eq {x : StateM τ α} {w : τ} {a : α} (h : (outcome x w).1 = a) :
    ∃ v, outcome x w = (a, v) := ⟨(outcome x w).2, Prod.ext h rfl⟩

/-! ### Actions of a caller with a state of its own -/

/-- What an action gives, the caller's state after it, and the world it leaves. -/
def outcomeWith (x : StateT σ (StateM τ) α) (s : σ) (w : τ) : α × σ × τ :=
  let r := outcome (x.run s) w
  (r.1.1, r.1.2, r.2)

@[simp] theorem outcomeWith_pure (a : α) (s : σ) (w : τ) :
    outcomeWith (pure a) s w = (a, s, w) := rfl

@[simp] theorem outcomeWith_bind (x : StateT σ (StateM τ) α) (f : α → StateT σ (StateM τ) β)
    (s : σ) (w : τ) : outcomeWith (x >>= f) s w =
      outcomeWith (f (outcomeWith x s w).1) (outcomeWith x s w).2.1 (outcomeWith x s w).2.2 := rfl

@[simp] theorem outcomeWith_lift (x : StateM τ α) (s : σ) (w : τ) :
    outcomeWith (liftM x : StateT σ (StateM τ) α) s w = ((outcome x w).1, s, (outcome x w).2) := rfl

/-! ### Actions that may fail -/

/-- What an action that may fail gives, and the world it leaves. -/
def attempted (x : ExceptT ε (StateM τ) α) (w : τ) : Except ε α × τ := outcome x.run w

theorem outcome_run (x : ExceptT ε (StateM τ) α) (w : τ) : outcome x.run w = attempted x w := rfl

@[simp] theorem attempted_pure (a : α) (w : τ) :
    attempted (pure a : ExceptT ε (StateM τ) α) w = (.ok a, w) := rfl

@[simp] theorem attempted_mk (x : StateM τ (Except ε α)) (w : τ) :
    attempted (ExceptT.mk x) w = outcome x w := rfl

@[simp] theorem attempted_lift (x : StateM τ α) (w : τ) :
    attempted (liftM x : ExceptT ε (StateM τ) α) w = (.ok (outcome x w).1, (outcome x w).2) := rfl

theorem attempted_bind (x : ExceptT ε (StateM τ) α) (f : α → ExceptT ε (StateM τ) β) (w : τ) :
    attempted (x >>= f) w =
      match attempted x w with
      | (.ok a, v) => attempted (f a) v
      | (.error e, v) => (.error e, v) := by
  change outcome (ExceptT.bindCont f (outcome x.run w).1) (outcome x.run w).2 = _
  unfold attempted
  rcases outcome x.run w with ⟨_ | a, v⟩ <;> rfl

theorem attempted_bind_of_ok {x : ExceptT ε (StateM τ) α} {w : τ} {a : α}
    (h : (attempted x w).1 = .ok a) (f : α → ExceptT ε (StateM τ) β) :
    attempted (x >>= f) w = attempted (f a) (attempted x w).2 := by
  rw [attempted_bind]
  rcases hx : attempted x w with ⟨e | a', v⟩
  · rw [hx] at h
    cases h
  · rw [hx] at h
    cases h
    rfl

theorem attempted_bind_of_error {x : ExceptT ε (StateM τ) α} {w : τ} {e : ε}
    (h : (attempted x w).1 = .error e) (f : α → ExceptT ε (StateM τ) β) :
    (attempted (x >>= f) w).1 = .error e := by
  rw [attempted_bind]
  rcases hx : attempted x w with ⟨e' | a, v⟩
  · rw [hx] at h
    cases h
    rfl
  · rw [hx] at h
    cases h

theorem attempted_tryCatch (x : ExceptT ε (StateM τ) α) (f : ε → ExceptT ε (StateM τ) α) (w : τ) :
    attempted (tryCatch x f) w =
      match attempted x w with
      | (.ok a, v) => (.ok a, v)
      | (.error e, v) => attempted (f e) v := by
  change outcome (x.run >>= fun r => match r with
    | .ok a => pure (.ok a)
    | .error e => (f e).run) w = _
  rw [outcome_bind]
  unfold attempted
  rcases outcome x.run w with ⟨_ | a, v⟩ <;> rfl

theorem attempted_orFail (x : Act (Except Fault α)) (failure : Fault → Failure) (w : World) :
    attempted (Attempt.orFail x failure) w =
      ((outcome x w).1.mapError failure, (outcome x w).2) := by
  unfold Attempt.orFail
  rw [attempted_bind, attempted_lift]
  rcases outcome x w with ⟨_ | a, v⟩ <;> rfl

end Formulary
