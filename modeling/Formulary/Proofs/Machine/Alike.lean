import Formulary.Machine.Supervise
import Formulary.Proofs.Machine.Actions

/-!
# Actions that come to the same

Two actions are alike if they give the same wherever they start in related worlds, and leave related
worlds again. This is kept by every way of putting actions together, so it is enough to look at the
single steps. The longest of them is the watch over a program: it depends on how the program ends
and on whether a stop has been asked for, but not on the time when it starts (`alike_wait`).
-/

namespace Formulary

variable {α β : Type} {R : World → World → Prop}

/-! ### Actions put together -/

/-- Two actions that start in related worlds give the same and leave related worlds. -/
def Act.Alike (R : World → World → Prop) (x x' : Act α) : Prop :=
  ∀ w w', R w w' →
    (outcome x w).1 = (outcome x' w').1 ∧ R (outcome x w).2 (outcome x' w').2

namespace Act.Alike

theorem pure (a : α) : Alike R (Pure.pure a) (Pure.pure a) := fun _ _ h => ⟨rfl, h⟩

theorem bind {x x' : Act α} {f f' : α → Act β} (hx : Alike R x x')
    (hf : ∀ a, Alike R (f a) (f' a)) : Alike R (x >>= f) (x' >>= f') := by
  intro w w' h
  obtain ⟨hsame, hleft⟩ := hx w w' h
  rw [outcome_bind, outcome_bind, hsame]
  exact hf _ _ _ hleft

end Act.Alike

/-- Two attempts that start in related worlds come to the same and leave related worlds. -/
def Attempt.Alike (R : World → World → Prop) (x x' : Attempt α) : Prop := Act.Alike R x.run x'.run

namespace Attempt.Alike

theorem pure (a : α) : Alike R (Pure.pure a) (Pure.pure a) := fun _ _ h => ⟨rfl, h⟩

theorem throw (e : Failure) :
    Alike R (MonadExcept.throw e : Attempt α) (MonadExcept.throw e : Attempt α) :=
  fun _ _ h => ⟨rfl, h⟩

theorem lift {x x' : Act α} (hx : Act.Alike R x x') :
    Alike R (liftM x : Attempt α) (liftM x' : Attempt α) := by
  intro w w' h
  obtain ⟨hsame, hleft⟩ := hx w w' h
  exact ⟨congrArg Except.ok hsame, hleft⟩

theorem bind {x x' : Attempt α} {f f' : α → Attempt β} (hx : Alike R x x')
    (hf : ∀ a, Alike R (f a) (f' a)) : Alike R (x >>= f) (x' >>= f') := by
  intro w w' h
  obtain ⟨hsame, hleft⟩ := hx w w' h
  rw [outcome_run, outcome_run] at hsame hleft ⊢
  rw [attempted_bind, attempted_bind]
  rcases hr : attempted x w with ⟨r, v⟩
  rcases hr' : attempted x' w' with ⟨r', v'⟩
  rw [hr, hr'] at hsame hleft
  dsimp only at hsame hleft
  subst hsame
  cases r with
  | error e => exact ⟨rfl, hleft⟩
  | ok a => exact hf a v v' hleft

theorem tryCatch {x x' : Attempt α} {f f' : Failure → Attempt α} (hx : Alike R x x')
    (hf : ∀ e, Alike R (f e) (f' e)) :
    Alike R (MonadExcept.tryCatch x f) (MonadExcept.tryCatch x' f') := by
  intro w w' h
  obtain ⟨hsame, hleft⟩ := hx w w' h
  rw [outcome_run, outcome_run] at hsame hleft ⊢
  rw [attempted_tryCatch, attempted_tryCatch]
  rcases hr : attempted x w with ⟨r, v⟩
  rcases hr' : attempted x' w' with ⟨r', v'⟩
  rw [hr, hr'] at hsame hleft
  dsimp only at hsame hleft
  subst hsame
  cases r with
  | error e => exact hf e v v' hleft
  | ok a => exact ⟨rfl, hleft⟩

theorem orFail {x x' : Act (Except Fault α)} (hx : Act.Alike R x x') (failure : Fault → Failure) :
    Alike R (Attempt.orFail x failure) (Attempt.orFail x' failure) := by
  intro w w' h
  obtain ⟨hsame, hleft⟩ := hx w w' h
  rw [outcome_run, outcome_run, attempted_orFail, attempted_orFail, hsame]
  exact ⟨rfl, hleft⟩

theorem io {x x' : Act (Except Fault α)} (hx : Act.Alike R x x') :
    Alike R (Attempt.io x) (Attempt.io x') := .orFail hx _

end Attempt.Alike

/-! ### The watch over a program -/

/-- Whether a stop has been asked for looks the same from both worlds on, at every look. -/
def SameStop (w w' : World) : Prop :=
  ∀ k k', w.looks ≤ k → w'.looks ≤ k' → w.stopRequested k = w'.stopRequested k'

/-- Since two programs were started, each in its world, the same time has passed. -/
def Passing (v v' w w' : World) : Prop :=
  ∃ time looks looks', (v.looks ≤ looks ∧ v'.looks ≤ looks') ∧
    w = { v with clock := v.clock + time, looks } ∧
    w' = { v' with clock := v'.clock + time, looks := looks' }

section Watching

variable {v v' : World} {p p' : Process}

theorem alike_stopRequested (hstop : SameStop v v') :
    Act.Alike (Passing v v') Act.stopRequested Act.stopRequested := by
  rintro _ _ ⟨time, k, k', ⟨hk, hk'⟩, rfl, rfl⟩
  exact ⟨hstop k k' hk hk', time, k + 1, k' + 1, ⟨Nat.le_succ_of_le hk, Nat.le_succ_of_le hk'⟩,
    rfl, rfl⟩

theorem alike_elapsed :
    Act.Alike (Passing v v') (p.watched v.clock).elapsed (p'.watched v'.clock).elapsed := by
  rintro _ _ ⟨time, k, k', hk, rfl, rfl⟩
  refine ⟨?_, time, k, k', hk, rfl, rfl⟩
  change v.clock + time - v.clock = v'.clock + time - v'.clock
  rw [Nat.add_sub_cancel_left, Nat.add_sub_cancel_left]

theorem alike_waitFor (hending : p.ending = p'.ending) (span : Millis) :
    Act.Alike (Passing v v') (p.waitFor v.clock span) (p'.waitFor v'.clock span) := by
  rintro _ _ ⟨time, k, k', hk, rfl, rfl⟩
  have hnow : ∀ start : Millis, start + time + span - start = time + span := fun start => by
    rw [Nat.add_assoc, Nat.add_sub_cancel_left]
  have hended : p'.endedBefore (time + span) = p.endedBefore (time + span) := by
    rw [Process.endedBefore, Process.endedBefore, hending]
  unfold Process.waitFor Act.clock
  simp only [outcome_bind, outcome_get, bind_assoc, pure_bind]
  rw [hnow, hnow, hended]
  cases p.endedBefore (time + span) with
  | none =>
    refine ⟨rfl, time + span, k, k', hk, ?_, ?_⟩
    · change World.mk _ _ _ (v.clock + time + span) _ _ _ _ _ = _
      rw [Nat.add_assoc]
    · change World.mk _ _ _ (v'.clock + time + span) _ _ _ _ _ = _
      rw [Nat.add_assoc]
  | some e =>
    obtain ⟨moment, ending⟩ := e
    have hmax : ∀ start : Nat, max (start + time) (start + moment + 1) =
        start + max time (moment + 1) := by omega
    refine ⟨rfl, max time (moment + 1), k, k', hk, ?_, ?_⟩
    · change World.mk _ _ _ (max (v.clock + time) (v.clock + moment + 1)) _ _ _ _ _ = _
      rw [hmax]
    · change World.mk _ _ _ (max (v'.clock + time) (v'.clock + moment + 1)) _ _ _ _ _ = _
      rw [hmax]

/-- A program that ends alike is watched alike, whenever it was started. -/
theorem alike_wait (hending : p.ending = p'.ending)
    (hstop : SameStop v v') (timeout : Millis) (passes : Nat) :
    Act.Alike (Passing v v') ((p.watched v.clock).wait timeout passes)
      ((p'.watched v'.clock).wait timeout passes) := by
  have hlook := alike_stopRequested hstop
  induction passes with
  | zero => exact .pure _
  | succ passes ih =>
    unfold Watched.wait
    refine .bind hlook fun stop => ?_
    split
    · exact .pure _
    refine .bind alike_elapsed fun elapsed => ?_
    split
    · exact .pure _
    refine .bind (alike_waitFor hending _) fun ended => ?_
    cases ended with
    | error e => exact .pure _
    | ok ended =>
      cases ended with
      | none => exact ih
      | some status =>
        refine .bind ?_ fun outcome => .pure _
        unfold Watched.classify
        split
        · exact .pure _
        split
        · exact .pure _
        · refine .bind hlook fun stop => ?_
          split <;> exact .pure _

/-- What is left of a world by something that changes its files and takes its time. -/
structure Abides (w w' : World) : Prop where
  cwd : w'.cwd = w.cwd
  env : w'.env = w.env
  stopRequested : w'.stopRequested = w.stopRequested
  looks : w.looks ≤ w'.looks

theorem OnFiles.abides {w w' : World} (h : OnFiles w w') : Abides w w' := by
  obtain ⟨files, rfl⟩ := h
  exact ⟨rfl, rfl, rfl, Nat.le_refl _⟩

theorem Abides.refl (w : World) : Abides w w := (OnFiles.refl w).abides

theorem Abides.trans {u v w : World} (h : Abides u v) (h' : Abides v w) : Abides u w :=
  ⟨h'.cwd.trans h.cwd, h'.env.trans h.env, h'.stopRequested.trans h.stopRequested,
    Nat.le_trans h.looks h'.looks⟩

theorem SameStop.abides {v v' w w' : World} (h : SameStop v v') (hw : Abides v w)
    (hw' : Abides v' w') : SameStop w w' := by
  intro k k' hk hk'
  rw [hw.stopRequested, hw'.stopRequested]
  exact h k k' (Nat.le_trans hw.looks hk) (Nat.le_trans hw'.looks hk')

def World.begun (w : World) (c : Command) : World :=
  { w with started := w.started ++ [⟨c, w.site⟩] }

theorem supervise_eq {launch : Launcher} {c : Command} {w : World} (h : launch c w.site = .ok p)
    (timeout : Millis) :
    let watched := p.watched w.clock
    let r := outcome (watched.wait timeout (watched.enoughPasses timeout)) (w.begun c)
    let progress := p.after (r.2.clock - w.clock)
    outcome (supervise launch c timeout) w =
      (r.1.map fun ended => {
          outcome := ended.getD .timedOut
          stdout := Text.decodeLossy progress.stdout
          stderr := Text.decodeLossy progress.stderr },
        { r.2 with files := progress.files }) := by
  unfold supervise
  rw [outcome_bind, outcome_get]
  dsimp only
  rw [h]
  rfl

/-- Two processes that end alike and say the same are supervised alike, and each leaves what it has
done by the same time. -/
theorem supervise_alike {launch : Launcher} {c : Command} {w w' : World} (timeout : Millis)
    (hp : launch c w.site = .ok p) (hp' : launch c w'.site = .ok p')
    (hending : p.ending = p'.ending) (hstop : SameStop w w')
    (hsaid : ∀ time, (p.after time).stdout = (p'.after time).stdout ∧
      (p.after time).stderr = (p'.after time).stderr) :
    (outcome (supervise launch c timeout) w).1 = (outcome (supervise launch c timeout) w').1 ∧
    ∃ time,
      (Abides w (outcome (supervise launch c timeout) w).2 ∧
        (outcome (supervise launch c timeout) w).2.files = (p.after time).files) ∧
      Abides w' (outcome (supervise launch c timeout) w').2 ∧
        (outcome (supervise launch c timeout) w').2.files = (p'.after time).files := by
  have hbegun : SameStop (w.begun c) (w'.begun c) := hstop
  have hwait : Act.Alike (Passing (w.begun c) (w'.begun c))
      ((p.watched w.clock).wait timeout ((p.watched w.clock).enoughPasses timeout))
      ((p'.watched w'.clock).wait timeout ((p'.watched w'.clock).enoughPasses timeout)) :=
    alike_wait hending hbegun timeout _
  obtain ⟨hsame, time, looks, looks', ⟨hlooks, hlooks'⟩, hleft, hleft'⟩ :=
    hwait (w.begun c) (w'.begun c)
      ⟨0, w.looks, w'.looks, ⟨Nat.le_refl _, Nat.le_refl _⟩, rfl, rfl⟩
  have hw := supervise_eq hp timeout
  have hw' := supervise_eq hp' timeout
  dsimp only at hw hw'
  rw [hleft] at hw
  rw [hleft'] at hw'
  have htime : ∀ start : Millis, start + time - start = time :=
    fun start => Nat.add_sub_cancel_left ..
  rw [hw, hw']
  dsimp only [World.begun]
  rw [htime, htime]
  refine ⟨?_, time, ⟨⟨rfl, rfl, rfl, hlooks⟩, rfl⟩, ⟨rfl, rfl, rfl, hlooks'⟩, rfl⟩
  rw [(hsaid time).1, (hsaid time).2]
  exact congrArg _ hsame

end Watching

end Formulary
