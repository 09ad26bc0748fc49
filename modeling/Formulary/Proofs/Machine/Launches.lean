import Formulary.Machine.Supervise
import Formulary.Proofs.Machine.Actions

/-!
# Programs that are started

A program that is started is noted with what it saw, and may leave any files that it can leave; as
long as programs leave sound files (`Launcher.Sound`), files stay sound. `Starts` says of which kind
all programs are that were started between two worlds, `Attempt.Launches` says so of an attempt,
together with what it gives. At the end stand programs that do no more than print something.
-/

namespace Formulary

variable {w w' w'' : World} {P : Launch → Prop}

/-- Programs leave sound files where they found sound files, whenever they are stopped. -/
def Launcher.Sound (launch : Launcher) : Prop :=
  ∀ c site process, launch c site = .ok process → site.files.Sound →
    ∀ time, (process.after time).files.Sound

/-! ### Running programs -/

/-! Whoever waits for a program looks whether to stop, and lets time pass. -/

section Waiting

variable {R : World → World → Prop} (hR : Onward R) (hclock : ∀ w clock, R w { w with clock })
  (hlook : ∀ w looks, w.looks ≤ looks → R w { w with looks })

include hlook

theorem keeps_stopRequested : Act.stopRequested.Keeps R := fun w => hlook w _ (Nat.le_succ _)

include hR hclock

omit hlook in
theorem keeps_waitFor (process : Process) (start span : Millis) :
    (process.waitFor start span).Keeps R := by
  unfold Process.waitFor
  refine .bind hR hR.refl fun clock => ?_
  split
  · exact .bind hR (fun w => hclock w _) fun _ => .pure hR _
  · exact .bind hR (fun w => hclock w _) fun _ => .pure hR _

theorem keeps_wait (process : Process) (start timeout : Millis) (passes : Nat) :
    ((process.watched start).wait timeout passes).Keeps R := by
  have hstop := keeps_stopRequested hlook
  induction passes with
  | zero => exact .pure hR _
  | succ passes ih =>
    unfold Watched.wait
    refine .bind hR hstop fun stop => ?_
    split
    · exact .pure hR _
    refine .bind hR hR.refl fun elapsed => ?_
    split
    · exact .pure hR _
    refine .bind hR (keeps_waitFor hR hclock process start _) fun ending => ?_
    split
    · exact .pure hR _
    · exact ih
    · refine .bind hR ?_ fun outcome => .pure hR _
      unfold Watched.classify
      split
      · exact .pure hR _
      split
      · exact .pure hR _
      · refine .bind hR hstop fun stop => ?_
        split <;> exact .pure hR _

end Waiting

theorem grows_wait (process : Process) (start timeout : Millis) (passes : Nat) :
    ((process.watched start).wait timeout passes).Grows :=
  keeps_wait Grown.onward (fun _ _ => .of_files_eq rfl rfl rfl)
    (fun _ _ _ => .of_files_eq rfl rfl rfl) process start timeout passes

theorem supervise_refused {launch : Launcher} {c : Command} {w : World} {e : Fault}
    (h : launch c w.site = .error e) (timeout : Millis) :
    outcome (supervise launch c timeout) w = (.error e, w) := by
  unfold supervise
  rw [outcome_bind, outcome_get]
  dsimp only
  rw [h]
  rfl

/-- A supervised program either cannot be started, and nothing happens, or is noted with what it
saw and leaves the files as they are after some time. -/
theorem supervised (launch : Launcher) (c : Command) (timeout : Millis) (w : World) :
    ((outcome (supervise launch c timeout) w).2 = w ∧
      ∃ e, launch c w.site = .error e ∧ (outcome (supervise launch c timeout) w).1 = .error e) ∨
    ∃ process time, launch c w.site = .ok process ∧
      (outcome (supervise launch c timeout) w).2.started = w.started ++ [⟨c, w.site⟩] ∧
      (outcome (supervise launch c timeout) w).2.cwd = w.cwd ∧
      (outcome (supervise launch c timeout) w).2.files = (process.after time).files := by
  unfold supervise
  rw [outcome_bind, outcome_get]
  cases h : launch c w.site with
  | error e => exact .inl ⟨rfl, e, rfl, rfl⟩
  | ok process =>
    have hwait := grows_wait process w.clock timeout ((process.watched w.clock).enoughPasses timeout)
      { w with started := w.started ++ [⟨c, w.site⟩] }
    exact .inr ⟨process, _, rfl, hwait.started, hwait.cwd, rfl⟩

theorem sound_supervise {launch : Launcher} (hlaunch : launch.Sound) (c : Command)
    (timeout : Millis) (hw : w.files.Sound) :
    (outcome (supervise launch c timeout) w).2.files.Sound := by
  rcases supervised launch c timeout w with ⟨hsame, -⟩ | ⟨process, time, hc, -, -, hfiles⟩
  · rw [hsame]
    exact hw
  · rw [hfiles]
    exact hlaunch c w.site process hc hw time

/-! ### Programs that were started -/

/-- The programs that were started between two worlds, all of one kind. -/
structure Starts (P : Launch → Prop) (w w' : World) : Prop where
  cwd : w'.cwd = w.cwd
  news : ∃ news, w'.started = w.started ++ news ∧ ∀ launch ∈ news, P launch

theorem Quiet.starts (h : Quiet w w') : Starts P w w' :=
  ⟨h.cwd, [], by rw [List.append_nil, h.started], by simp⟩

theorem Starts.trans (h : Starts P w w') (h' : Starts P w' w'') : Starts P w w'' := by
  obtain ⟨news, hnews, hP⟩ := h.news
  obtain ⟨news', hnews', hP'⟩ := h'.news
  refine ⟨h'.cwd.trans h.cwd, news ++ news', ?_, fun launch hl => ?_⟩
  · rw [hnews', hnews, List.append_assoc]
  · rcases List.mem_append.1 hl with hl | hl
    · exact hP launch hl
    · exact hP' launch hl

theorem Starts.mono {Q : Launch → Prop} (h : Starts P w w') (hPQ : ∀ launch, P launch → Q launch) :
    Starts Q w w' := by
  obtain ⟨news, hnews, hP⟩ := h.news
  exact ⟨h.cwd, news, hnews, fun launch hl => hPQ launch (hP launch hl)⟩

theorem Starts.started_eq (h : Starts (fun _ => False) w w') : w'.started = w.started := by
  obtain ⟨news, hnews, hall⟩ := h.news
  rw [List.eq_nil_iff_forall_not_mem.2 hall, List.append_nil] at hnews
  exact hnews

theorem starts_change (f : Files → Location → Except Fault Files) (w : World) :
    Starts P w (outcome (Act.change f) w).2 := by
  rw [outcome_change]
  split
  · exact ⟨rfl, [], by simp, by simp⟩
  · exact (Quiet.refl w).starts

theorem starts_supervise (launch : Launcher) (c : Command) (timeout : Millis)
    (h : P ⟨c, w.site⟩) : Starts P w (outcome (supervise launch c timeout) w).2 := by
  rcases supervised launch c timeout w with ⟨hsame, -⟩ | ⟨process, time, -, hstarted, hcwd, -⟩
  · rw [hsame]
    exact (Quiet.refl w).starts
  · exact ⟨hcwd, _, hstarted, by simpa using h⟩

/-! ### Attempts -/

namespace Attempt

variable {α β : Type} {Q : Launch → Prop} {R S : α → World → Prop}

/-- From a world on, an attempt starts only programs of a kind, and what it gives fits the world it
leaves. -/
structure Launches (x : Attempt α) (P : Launch → Prop) (R : α → World → Prop) (w : World) :
    Prop where
  starts : Starts P w (attempted x w).2
  gives : ∀ a, (attempted x w).1 = .ok a → R a (attempted x w).2

theorem Launches.pure {a : α} (h : R a w) : Launches (Pure.pure a) P R w := by
  refine ⟨(Quiet.refl w).starts, fun b hb => ?_⟩
  cases hb
  exact h

theorem Launches.throw (e : Failure) : Launches (MonadExcept.throw e : Attempt α) P R w := by
  refine ⟨(Quiet.refl w).starts, fun b hb => ?_⟩
  cases hb

theorem Launches.lift {x : Act α} (hx : Starts P w (outcome x w).2)
    (h : R (outcome x w).1 (outcome x w).2) : Launches (liftM x : Attempt α) P R w := by
  refine ⟨hx, fun b hb => ?_⟩
  cases hb
  exact h

theorem Launches.orFail {x : Act (Except Fault α)} {failure : Fault → Failure}
    (hx : Starts P w (outcome x w).2) (h : ∀ a, (outcome x w).1 = .ok a → R a (outcome x w).2) :
    Launches (Attempt.orFail x failure) P R w := by
  refine ⟨?_, fun a ha => ?_⟩
  · rw [attempted_orFail]
    exact hx
  · rw [attempted_orFail] at ha ⊢
    refine h a ?_
    rcases hr : (outcome x w).1 with e | a'
    · rw [hr] at ha
      cases ha
    · rw [hr] at ha
      cases ha
      rfl

/-- What is started in the first part of a sequence, and then in the rest. -/
theorem Launches.parts {T : β → World → Prop} {x : Attempt α} {f : α → Attempt β}
    (hx : Launches x P R w) (hf : ∀ a v, R a v → Launches (f a) Q T v) :
    ∃ v, Starts P w v ∧ Starts Q v (attempted (x >>= f) w).2 := by
  obtain ⟨hstarts, hgives⟩ := hx
  rw [attempted_bind]
  rcases h : attempted x w with ⟨e | a, v⟩
  · rw [h] at hstarts
    exact ⟨v, hstarts, (Quiet.refl v).starts⟩
  · rw [h] at hstarts hgives
    exact ⟨v, hstarts, (hf a v (hgives a rfl)).starts⟩

theorem Launches.bind {T : β → World → Prop} {x : Attempt α} {f : α → Attempt β}
    (hx : Launches x P R w) (hf : ∀ a v, R a v → Launches (f a) P T v) :
    Launches (x >>= f) P T w := by
  obtain ⟨v, hfirst, hrest⟩ := hx.parts hf
  refine ⟨hfirst.trans hrest, fun b hb => ?_⟩
  have hbind := attempted_bind x f w
  rcases h : attempted x w with ⟨e | a, u⟩
  · rw [h] at hbind
    rw [hbind] at hb
    cases hb
  · rw [h] at hbind
    rw [hbind] at hb ⊢
    refine (hf a u ?_).gives b hb
    simpa [h] using hx.gives a

theorem Launches.tryCatch {x : Attempt α} {f : Failure → Attempt α} (hx : Launches x P R w)
    (hf : ∀ e v, Launches (f e) P R v) : Launches (MonadExcept.tryCatch x f) P R w := by
  obtain ⟨hstarts, hgives⟩ := hx
  have hcatch := attempted_tryCatch x f w
  rcases h : attempted x w with ⟨e | a, v⟩
  · rw [h] at hcatch hstarts
    have hrest := hf e v
    refine ⟨?_, fun b hb => ?_⟩
    · rw [hcatch]
      exact hstarts.trans hrest.starts
    · rw [hcatch] at hb ⊢
      exact hrest.gives b hb
  · rw [h] at hcatch hstarts hgives
    refine ⟨?_, fun b hb => ?_⟩
    · rw [hcatch]
      exact hstarts
    · rw [hcatch] at hb ⊢
      exact hgives b hb

theorem Launches.mono {x : Attempt α} (h : Launches x P R w) (hP : ∀ launch, P launch → Q launch)
    (hR : ∀ a v, R a v → S a v) : Launches x Q S w :=
  ⟨h.starts.mono hP, fun a ha => hR a _ (h.gives a ha)⟩

theorem Launches.of_grows {x : Act (Except Fault α)} {failure : Fault → Failure}
    (hx : x.Grows) : Launches (Attempt.orFail x failure) P (fun _ v => Grown w v) w :=
  .orFail (hx w).toQuiet.starts fun _ _ => hx w

end Attempt

/-! ### Programs that only print -/

/-- A process that ends at once, with a code. -/
def Process.instant (code : Nat) (progress : Progress) : Process where
  ending := some (0, .ok (.exited code))
  after := fun _ => progress

/-- All programs print something, touch no file and end at once with a code. -/
def Launcher.printing (code : Nat) (said : Command → Bytes) : Launcher := fun c site =>
  .ok (.instant code { stdout := said c, files := site.files })

/-- All programs do nothing, and do it well. -/
def Launcher.idle : Launcher := printing 0 fun _ => []

def Launcher.talkative : Launcher := printing 0 fun _ => Text.encode "# script\n"

theorem Launcher.files_of_printing {code : Nat} {said : Command → Bytes} {c : Command}
    {site : Site} {process : Process} (h : printing code said c site = .ok process)
    (time : Millis) : (process.after time).files = site.files := by
  cases h
  rfl

theorem Launcher.sound_printing (code : Nat) (said : Command → Bytes) :
    (printing code said).Sound :=
  fun _ _ _ h hsite time => files_of_printing h time ▸ hsite

end Formulary
