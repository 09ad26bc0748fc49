import Formulary.Proofs.Effects

/-!
# How attempts can end

`Attempt.Ends x Q P` says that wherever `x` starts, what it gives is in `Q` if it succeeds, and its
failure is in `P` if it fails. It says nothing about the world, so it is proved by following the
shape of `x`: one law for each way of putting actions together.
-/

namespace Formulary.Attempt

variable {α β : Type} {Q R : α → Prop} {P : Failure → Prop}

/-- Every success of an action is in `Q`, and every failure in `P`. -/
def Ends (x : Attempt α) (Q : α → Prop) (P : Failure → Prop) : Prop :=
  ∀ w, (∀ a, (attempted x w).1 = .ok a → Q a) ∧ ∀ e, (attempted x w).1 = .error e → P e

theorem Ends.pure {a : α} (h : Q a) : Ends (Pure.pure a) Q P := by
  intro w
  refine ⟨fun b hb => ?_, fun e he => ?_⟩
  · cases hb
    exact h
  · cases he

theorem Ends.throw {e : Failure} (h : P e) : Ends (MonadExcept.throw e : Attempt α) Q P := by
  intro w
  refine ⟨fun a ha => ?_, fun e' he => ?_⟩
  · cases ha
  · cases he
    exact h

theorem Ends.lift (x : Act α) : Ends (liftM x : Attempt α) (fun _ => True) P := by
  intro w
  refine ⟨fun _ _ => trivial, fun e he => ?_⟩
  cases he

theorem Ends.bind {x : Attempt α} {f : α → Attempt β} {S : β → Prop} (hx : Ends x R P)
    (hf : ∀ a, R a → Ends (f a) S P) : Ends (x >>= f) S P := by
  intro w
  rw [attempted_bind]
  obtain ⟨hok, herr⟩ := hx w
  rcases h : attempted x w with ⟨e | a, v⟩
  · rw [h] at herr
    refine ⟨fun b hb => ?_, fun e' he => ?_⟩
    · cases hb
    · cases he
      exact herr e rfl
  · rw [h] at hok
    exact hf a (hok a rfl) v

theorem Ends.mono {P' : Failure → Prop} {x : Attempt α} (h : Ends x Q P) (hQ : ∀ a, Q a → R a)
    (hP : ∀ e, P e → P' e) : Ends x R P' := fun w =>
  ⟨fun a ha => hQ a ((h w).1 a ha), fun e he => hP e ((h w).2 e he)⟩

theorem Ends.tryCatch {x : Attempt α} {f : Failure → Attempt α} (hx : Ends x Q P)
    (hf : ∀ e, P e → Ends (f e) Q P) : Ends (MonadExcept.tryCatch x f) Q P := by
  intro w
  rw [attempted_tryCatch]
  obtain ⟨hok, herr⟩ := hx w
  rcases h : attempted x w with ⟨e | a, v⟩
  · rw [h] at herr
    exact hf e (herr e rfl) v
  · rw [h] at hok
    refine ⟨fun b hb => ?_, fun e he => ?_⟩
    · cases hb
      exact hok a rfl
    · cases he

theorem Ends.orFail (x : Act (Except Fault α)) {failure : Fault → Failure}
    (h : ∀ e, P (failure e)) : Ends (Attempt.orFail x failure) (fun _ => True) P := by
  intro w
  rw [attempted_orFail]
  refine ⟨fun _ _ => trivial, fun e he => ?_⟩
  rcases hx : (outcome x w).1 with fault | a
  · rw [hx] at he
    cases he
    exact h fault
  · rw [hx] at he
    cases he

theorem Ends.io (x : Act (Except Fault α)) (h : ∀ detail, P (.io detail)) :
    Ends (Attempt.io x) (fun _ => True) P := .orFail x fun e => h e.message

theorem Ends.mapM {f : α → Attempt β} {S : β → Prop} (hf : ∀ a, Ends (f a) S P) (l : List α) :
    Ends (l.mapM f) (fun bs => ∀ b ∈ bs, S b) P := by
  induction l with
  | nil =>
    rw [List.mapM_nil]
    exact .pure (by simp)
  | cons a rest ih =>
    rw [List.mapM_cons]
    refine (hf a).bind fun b hb => ih.bind fun bs hbs => .pure ?_
    intro x hx
    rcases List.mem_cons.1 hx with rfl | hx
    · exact hb
    · exact hbs x hx

end Formulary.Attempt
