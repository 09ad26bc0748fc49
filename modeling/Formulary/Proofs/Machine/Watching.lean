import Formulary.Proofs.Machine.Alike

/-!
# What a watch looks at

A watch over a program looks, pass by pass, whether to stop, at the time, and at the program. Here
all its looks are noted in their order (`Watched.watch`), whatever they show and however finely time
is counted. `Watched.History` follows a watch pass by pass; what the noted looks say about the
verdict is read off it (`Watched.Accounted`), and so is the number of passes when time does not stand
still.

Over a process time passes while it is waited for, so its watch comes to an end:
`supervise_unstopped` says what is known of a program that was not stopped.
-/

namespace Formulary

/-- A look of a watch, with what it showed. -/
inductive Look where
  | stop (requested : Bool)
  | time (elapsed : Nat)
  | wait (span : Nat) (answer : Except Fault (Option ExitStatus))

/-- The program was waited for and did not end. -/
def Look.isExpired : Look → Bool
  | wait _ (.ok none) => true
  | _ => false

namespace Watched

variable {σ : Type}

/-! ### Noting what is looked at -/

def noting {α : Type} (x : StateM σ α) (look : α → Look) : StateM (σ × List Look) α := fun s =>
  let r := outcome x s.1
  (r.1, r.2, s.2 ++ [look r.1])

def noted (w : Watched (StateM σ)) : Watched (StateM (σ × List Look)) where
  stopRequested := noting w.stopRequested .stop
  elapsed := noting w.elapsed .time
  waitFor span := noting (w.waitFor span) (.wait span)
  perMilli := w.perMilli
  perMilli_pos := w.perMilli_pos

/-- What a watch comes to in so many passes, and all that it looked at. -/
def watch (w : Watched (StateM σ)) (timeout passes : Nat) (s : σ) :
    Except Fault (Option Outcome) × List Look :=
  let r := outcome (w.noted.wait timeout passes) (s, [])
  (r.1, r.2.2)

/-- What is looked at when a program has ended, and what its ending comes to. -/
inductive Ending (w : Watched (StateM σ)) (status : ExitStatus) :
    σ → List Look → Outcome → σ → Prop
  | interrupted {s : σ} (h : status.interrupted = true) : Ending w status s [] .cancelled s
  | success {s : σ} (hinterrupted : status.interrupted = false) (h : status.success = true) :
    Ending w status s [] (.exited status) s
  | felled {s s' : σ} (h : status.success = false)
    (hstop : outcome w.stopRequested s = (true, s')) : Ending w status s [.stop true] .cancelled s'
  | failed {s s' : σ} (hinterrupted : status.interrupted = false) (h : status.success = false)
    (hstop : outcome w.stopRequested s = (false, s')) :
    Ending w status s [.stop false] (.exited status) s'

/-- The looks of so many passes between two states, and what they come to. -/
inductive History (w : Watched (StateM σ)) (timeout : Nat) :
    Nat → σ → List Look → Except Fault (Option Outcome) → σ → Prop
  | usedUp {s : σ} : History w timeout 0 s [] (.ok none) s
  | stopped {s s₁ : σ} (hstop : outcome w.stopRequested s = (true, s₁)) :
    History w timeout 1 s [.stop true] (.ok (some .cancelled)) s₁
  | late {s s₁ s₂ : σ} {t : Nat} (hstop : outcome w.stopRequested s = (false, s₁))
    (htime : outcome w.elapsed s₁ = (t, s₂)) (h : timeout ≤ t) :
    History w timeout 1 s [.stop false, .time t] (.ok (some .timedOut)) s₂
  | unseen {s s₁ s₂ s₃ : σ} {t : Nat} {e : Fault} (hstop : outcome w.stopRequested s = (false, s₁))
    (htime : outcome w.elapsed s₁ = (t, s₂)) (h : t < timeout)
    (hwait : outcome (w.waitFor (w.slice timeout t)) s₂ = (.error e, s₃)) :
    History w timeout 1 s [.stop false, .time t, .wait (w.slice timeout t) (.error e)] (.error e) s₃
  | ended {s s₁ s₂ s₃ s₄ : σ} {t : Nat} {status : ExitStatus} {news : List Look}
    {verdict : Outcome} (hstop : outcome w.stopRequested s = (false, s₁))
    (htime : outcome w.elapsed s₁ = (t, s₂)) (h : t < timeout)
    (hwait : outcome (w.waitFor (w.slice timeout t)) s₂ = (.ok (some status), s₃))
    (hending : Ending w status s₃ news verdict s₄) :
    History w timeout 1 s
      (.stop false :: .time t :: .wait (w.slice timeout t) (.ok (some status)) :: news)
      (.ok (some verdict)) s₄
  | onward {s s₁ s₂ s₃ s₄ : σ} {t passes : Nat} {looks : List Look}
    {r : Except Fault (Option Outcome)} (hstop : outcome w.stopRequested s = (false, s₁))
    (htime : outcome w.elapsed s₁ = (t, s₂)) (h : t < timeout)
    (hwait : outcome (w.waitFor (w.slice timeout t)) s₂ = (.ok none, s₃))
    (rest : History w timeout passes s₃ looks r s₄) :
    History w timeout (passes + 1) s
      (.stop false :: .time t :: .wait (w.slice timeout t) (.ok none) :: looks) r s₄

section Noted

variable (w : Watched (StateM σ)) (s : σ) (looks : List Look)

theorem outcome_noted_stop : outcome w.noted.stopRequested (s, looks) =
    ((outcome w.stopRequested s).1, (outcome w.stopRequested s).2,
      looks ++ [.stop (outcome w.stopRequested s).1]) := rfl

theorem outcome_noted_time : outcome w.noted.elapsed (s, looks) =
    ((outcome w.elapsed s).1, (outcome w.elapsed s).2,
      looks ++ [.time (outcome w.elapsed s).1]) := rfl

theorem outcome_noted_wait (span : Nat) : outcome (w.noted.waitFor span) (s, looks) =
    ((outcome (w.waitFor span) s).1, (outcome (w.waitFor span) s).2,
      looks ++ [.wait span (outcome (w.waitFor span) s).1]) := rfl

end Noted

theorem ending_classify (w : Watched (StateM σ)) (status : ExitStatus) (s : σ) (looks : List Look) :
    ∃ news, outcome (w.noted.classify status) (s, looks) =
        ((outcome (w.classify status) s).1, (outcome (w.classify status) s).2, looks ++ news) ∧
      w.Ending status s news (outcome (w.classify status) s).1
        (outcome (w.classify status) s).2 := by
  unfold classify
  by_cases hinterrupted : status.interrupted = true
  · rw [if_pos hinterrupted, if_pos hinterrupted]
    refine ⟨[], ?_, .interrupted hinterrupted⟩
    rw [List.append_nil]
    rfl
  rw [if_neg hinterrupted, if_neg hinterrupted]
  rw [Bool.not_eq_true] at hinterrupted
  by_cases hsuccess : status.success = true
  · rw [if_pos hsuccess, if_pos hsuccess]
    refine ⟨[], ?_, .success hinterrupted hsuccess⟩
    rw [List.append_nil]
    rfl
  rw [if_neg hsuccess, if_neg hsuccess]
  rw [Bool.not_eq_true] at hsuccess
  rw [outcome_bind, outcome_bind, outcome_noted_stop]
  rcases hstop : outcome w.stopRequested s with ⟨stop, s'⟩
  cases stop with
  | true => exact ⟨[.stop true], rfl, .felled hsuccess hstop⟩
  | false => exact ⟨[.stop false], rfl, .failed hinterrupted hsuccess hstop⟩

/-- **The looks that are noted are the history of the watch**, and noting them changes nothing. If
it comes to nothing, all passes are used up. -/
theorem history_wait (w : Watched (StateM σ)) (timeout passes : Nat) (s : σ) (looks : List Look) :
    ∃ news count, outcome (w.noted.wait timeout passes) (s, looks) =
        ((outcome (w.wait timeout passes) s).1, (outcome (w.wait timeout passes) s).2,
          looks ++ news) ∧
      w.History timeout count s news (outcome (w.wait timeout passes) s).1
        (outcome (w.wait timeout passes) s).2 ∧
      ((outcome (w.wait timeout passes) s).1 = .ok none → count = passes) := by
  induction passes generalizing s looks with
  | zero =>
    refine ⟨[], 0, ?_, .usedUp, fun _ => rfl⟩
    rw [List.append_nil]
    rfl
  | succ passes ih =>
    unfold wait
    rw [outcome_bind, outcome_bind, outcome_noted_stop]
    rcases hstop : outcome w.stopRequested s with ⟨stop, s₁⟩
    cases stop with
    | true => exact ⟨[.stop true], 1, rfl, .stopped hstop, fun h => by cases h⟩
    | false =>
      dsimp only
      rw [if_neg Bool.false_ne_true, if_neg Bool.false_ne_true]
      rw [outcome_bind, outcome_bind, outcome_noted_time]
      rcases htime : outcome w.elapsed s₁ with ⟨t, s₂⟩
      dsimp only
      by_cases hlate : timeout ≤ t
      · rw [if_pos hlate, if_pos hlate]
        refine ⟨[.stop false, .time t], 1, ?_, .late hstop htime hlate, fun h => by cases h⟩
        rw [outcome_pure, outcome_pure, List.append_assoc]
        rfl
      rw [if_neg hlate, if_neg hlate]
      have htimely : t < timeout := Nat.lt_of_not_le hlate
      have hslice : w.noted.slice timeout t = w.slice timeout t := rfl
      rw [outcome_bind, outcome_bind, hslice, outcome_noted_wait]
      rcases hwait : outcome (w.waitFor (w.slice timeout t)) s₂ with ⟨answer, s₃⟩
      have happend : ∀ a b c : Look, ∀ rest, looks ++ [a] ++ [b] ++ [c] ++ rest =
          looks ++ a :: b :: c :: rest := by simp
      rcases answer with e | _ | status
      · refine ⟨[.stop false, .time t, .wait _ (.error e)], 1, ?_,
          .unseen hstop htime htimely hwait, fun h => by cases h⟩
        rw [← happend, List.append_nil]
        rfl
      · obtain ⟨news, count, hrun, hrest, hcount⟩ :=
          ih s₃ (looks ++ [.stop false] ++ [.time t] ++ [.wait _ (.ok none)])
        rw [happend] at hrun
        refine ⟨_, count + 1, hrun, .onward hstop htime htimely hwait hrest, fun h => ?_⟩
        rw [hcount h]
      · obtain ⟨news, hrun, hending⟩ := ending_classify w status s₃
          (looks ++ [.stop false] ++ [.time t] ++ [.wait _ (.ok (some status))])
        rw [happend] at hrun
        refine ⟨_, 1, ?_, .ended hstop htime htimely hwait hending, fun h => by cases h⟩
        dsimp only
        rw [outcome_bind, outcome_bind, hrun]
        rfl

/-! ### What the looks say -/

section Looks

variable {w : Watched (StateM σ)} {timeout count : Nat} {s s' : σ} {looks : List Look}
  {r : Except Fault (Option Outcome)}

/-- The next look is at the head of a pass. -/
def AtHead (before : List Look) : Prop :=
  before = [] ∨ ∃ earlier span, before = earlier ++ [.wait span (.ok none)]

/-- The last look of a watch, or the last two, and what it comes to. -/
inductive Closing (timeout : Nat) : List Look → Except Fault (Option Outcome) → Prop
  | usedUp : Closing timeout [] (.ok none)
  | stopped : Closing timeout [.stop true] (.ok (some .cancelled))
  | late {t : Nat} (h : timeout ≤ t) :
    Closing timeout [.stop false, .time t] (.ok (some .timedOut))
  | unseen {t span : Nat} {e : Fault} :
    Closing timeout [.stop false, .time t, .wait span (.error e)] (.error e)
  | interrupted {t span : Nat} {status : ExitStatus} (h : status.interrupted = true) :
    Closing timeout [.stop false, .time t, .wait span (.ok (some status))] (.ok (some .cancelled))
  | succeeded {t span : Nat} {status : ExitStatus} (h : status.success = true) :
    Closing timeout [.stop false, .time t, .wait span (.ok (some status))]
      (.ok (some (.exited status)))
  | failed {t span : Nat} {status : ExitStatus} (hinterrupted : status.interrupted = false)
    (hsuccess : status.success = false) :
    Closing timeout [.stop false, .time t, .wait span (.ok (some status)), .stop false]
      (.ok (some (.exited status)))
  | felled {t span : Nat} {status : ExitStatus} (hsuccess : status.success = false) :
    Closing timeout [.stop false, .time t, .wait span (.ok (some status)), .stop true]
      (.ok (some .cancelled))

/-- All passes but the last one ended with a wait that was too short. -/
theorem History.closing (h : w.History timeout count s looks r s') :
    ∃ before last, looks = before ++ last ∧ AtHead before ∧ Closing timeout last r := by
  induction h with
  | usedUp => exact ⟨[], _, rfl, .inl rfl, .usedUp⟩
  | stopped _ => exact ⟨[], _, rfl, .inl rfl, .stopped⟩
  | late _ _ ht => exact ⟨[], _, rfl, .inl rfl, .late ht⟩
  | unseen _ _ _ _ => exact ⟨[], _, rfl, .inl rfl, .unseen⟩
  | ended _ _ _ _ hending =>
    refine ⟨[], _, rfl, .inl rfl, ?_⟩
    cases hending with
    | interrupted hi => exact .interrupted hi
    | success _ hs => exact .succeeded hs
    | felled hs _ => exact .felled hs
    | failed hi hs _ => exact .failed hi hs
  | @onward _ _ _ _ _ t passes looks r _ _ _ _ _ ih =>
    obtain ⟨before, last, rfl, hbefore, hlast⟩ := ih
    refine ⟨.stop false :: .time t :: .wait (w.slice timeout t) (.ok none) :: before, last, rfl,
      .inr ?_, hlast⟩
    rcases hbefore with rfl | ⟨earlier, span, rfl⟩
    · exact ⟨[.stop false, .time t], _, rfl⟩
    · exact ⟨.stop false :: .time t :: .wait (w.slice timeout t) (.ok none) :: earlier, span, rfl⟩

/-- The verdict, read off the looks from the last one backwards. -/
def verdict : List Look → Except Fault (Option Outcome)
  | .stop true :: _ => .ok (some .cancelled)
  | .stop false :: .wait _ (.ok (some status)) :: _ => .ok (some (.exited status))
  | .time _ :: _ => .ok (some .timedOut)
  | .wait _ (.error e) :: _ => .error e
  | .wait _ (.ok (some status)) :: _ =>
    .ok (some (if status.interrupted then .cancelled else .exited status))
  | _ => .ok none

theorem not_interrupted_of_success {status : ExitStatus} (h : status.success = true) :
    status.interrupted = false := by
  cases status with
  | exited code => rfl
  | signaled signal dumped => cases h

theorem Closing.eq_verdict {before last : List Look} (hbefore : AtHead before)
    (h : Closing timeout last r) : r = verdict (before ++ last).reverse := by
  rw [List.reverse_append]
  cases h with
  | usedUp =>
    rcases hbefore with rfl | ⟨earlier, span, rfl⟩
    · rfl
    · rw [List.reverse_append]
      rfl
  | stopped => rfl
  | late h => rfl
  | unseen => rfl
  | interrupted h =>
    change _ = Except.ok (some (if _ then _ else _))
    rw [if_pos h]
  | succeeded h =>
    change _ = Except.ok (some (if _ then _ else _))
    rw [if_neg (by simp [not_interrupted_of_success h])]
  | failed hi hs => rfl
  | felled hs => rfl

theorem History.eq_verdict (h : w.History timeout count s looks r s') : r = verdict looks.reverse := by
  obtain ⟨before, last, rfl, hbefore, hlast⟩ := h.closing
  exact hlast.eq_verdict hbefore

/-- A stop was seen: at the head of a pass, or the program was interrupted, or it failed and the look
right after it showed a stop. -/
inductive SawStop : List Look → Prop
  | head {before : List Look} (h : AtHead before) : SawStop (before ++ [.stop true])
  | interrupted (before : List Look) (span : Nat) {status : ExitStatus}
    (h : status.interrupted = true) : SawStop (before ++ [.wait span (.ok (some status))])
  | failed (before : List Look) (span : Nat) {status : ExitStatus} (h : status.success = false) :
    SawStop (before ++ [.wait span (.ok (some status)), .stop true])

/-- No stop was seen at the head of a pass, and the time was over. -/
inductive SawLate (timeout : Nat) : List Look → Prop
  | intro {before : List Look} {t : Nat} (hhead : AtHead before) (h : timeout ≤ t) :
    SawLate timeout (before ++ [.stop false, .time t])

/-- The program was not interrupted, and it ended well or the look right after it showed no stop. -/
inductive SawEnd (status : ExitStatus) : List Look → Prop
  | success (before : List Look) (span : Nat) (h : status.success = true) :
    SawEnd status (before ++ [.wait span (.ok (some status))])
  | failed (before : List Look) (span : Nat) (hinterrupted : status.interrupted = false)
    (h : status.success = false) :
    SawEnd status (before ++ [.wait span (.ok (some status)), .stop false])

theorem History.cancelled_iff (h : w.History timeout count s looks r s') :
    r = .ok (some .cancelled) ↔ SawStop looks := by
  constructor
  · rintro rfl
    obtain ⟨before, last, rfl, hbefore, hlast⟩ := h.closing
    cases hlast with
    | stopped => exact .head hbefore
    | @interrupted t span status hi =>
      have hsaw := SawStop.interrupted (before ++ [.stop false, .time t]) span hi
      simpa using hsaw
    | @felled t span status hs =>
      have hsaw := SawStop.failed (before ++ [.stop false, .time t]) span hs
      simpa using hsaw
  · intro hsaw
    rw [h.eq_verdict]
    cases hsaw with
    | head hhead => simp [verdict]
    | interrupted before span hi => simp [verdict, hi]
    | failed before span hs => simp [verdict]

theorem History.timedOut_iff (h : w.History timeout count s looks r s') :
    r = .ok (some .timedOut) ↔ SawLate timeout looks := by
  constructor
  · rintro rfl
    obtain ⟨before, last, rfl, hbefore, hlast⟩ := h.closing
    cases hlast with
    | late hlate => exact .intro hbefore hlate
  · rintro ⟨hhead, hlate⟩
    rw [h.eq_verdict]
    simp [verdict]

theorem History.exited_iff (h : w.History timeout count s looks r s') (status : ExitStatus) :
    r = .ok (some (.exited status)) ↔ SawEnd status looks := by
  constructor
  · rintro rfl
    obtain ⟨before, last, rfl, hbefore, hlast⟩ := h.closing
    cases hlast with
    | @succeeded t span _ hs =>
      have hsaw := SawEnd.success (before ++ [.stop false, .time t]) span hs
      simpa using hsaw
    | @failed t span _ hi hs =>
      have hsaw := SawEnd.failed (before ++ [.stop false, .time t]) span hi hs
      simpa using hsaw
  · intro hsaw
    rw [h.eq_verdict]
    cases hsaw with
    | success before span hs => simp [verdict, not_interrupted_of_success hs]
    | failed before span hi hs => simp [verdict]

/-- A wait comes right after a look at the time that showed some left, and takes no longer. -/
structure Timely (w : Watched (StateM σ)) (timeout : Nat) (looks : List Look) (span : Nat)
    (answer : Except Fault (Option ExitStatus)) : Prop where
  positive : 0 < span
  short : span ≤ w.longestWait
  left : ∃ t, [.time t, .wait span answer] <:+: looks ∧ t < timeout ∧
    span = min w.longestWait (timeout - t)

theorem timely_slice {t : Nat} (ht : t < timeout) (answer : Except Fault (Option ExitStatus))
    (after : List Look) :
    w.Timely timeout (.stop false :: .time t :: .wait (w.slice timeout t) answer :: after)
      (w.slice timeout t) answer where
  positive := by
    have hmilli := w.perMilli_pos
    unfold slice longestWait
    omega
  short := Nat.min_le_left _ _
  left := ⟨t, ⟨[.stop false], after, rfl⟩, ht, rfl⟩

theorem History.timely (h : w.History timeout count s looks r s') {span : Nat}
    {answer : Except Fault (Option ExitStatus)} (hmem : .wait span answer ∈ looks) :
    w.Timely timeout looks span answer := by
  induction h with
  | usedUp | stopped _ | late _ _ _ => simp at hmem
  | unseen _ _ ht _ =>
    obtain ⟨rfl, rfl⟩ : span = _ ∧ answer = _ := by simpa using hmem
    exact timely_slice ht _ _
  | @ended _ _ _ _ _ t status news _ _ _ ht _ hending =>
    have hnews : Look.wait span answer ∉ news := by cases hending <;> simp
    obtain ⟨rfl, rfl⟩ : span = w.slice timeout t ∧ answer = .ok (some status) := by
      simpa [hnews] using hmem
    exact timely_slice ht _ _
  | @onward _ _ _ _ _ t passes looks r _ _ ht _ _ ih =>
    have hcases : (span = w.slice timeout t ∧ answer = .ok none) ∨ .wait span answer ∈ looks := by
      simpa using hmem
    rcases hcases with ⟨rfl, rfl⟩ | hrest
    · exact timely_slice ht _ _
    · obtain ⟨hpositive, hshort, t', hfollows, ht', hspan⟩ := ih hrest
      exact ⟨hpositive, hshort, t', hfollows.trans (List.suffix_append [_, _, _] looks).isInfix, ht',
        hspan⟩

/-! ### How many passes there are -/

/-- A wait that came to nothing took its time: the next look at the time shows it. -/
def Advances (looks : List Look) : Prop :=
  ∀ before t span stop t' after,
    looks = before ++ .time t :: .wait span (.ok none) :: .stop stop :: .time t' :: after →
    t + span ≤ t'

theorem Advances.of_append (before : List Look) {after : List Look}
    (h : Advances (before ++ after)) : Advances after := by
  rintro earlier t span stop t' rest rfl
  exact h (before ++ earlier) t span stop t' rest (List.append_assoc ..).symm

theorem History.count_le (h : w.History timeout count s looks r s') :
    count ≤ looks.countP Look.isExpired + 1 ∧ (r = .ok none → count = looks.countP Look.isExpired) := by
  induction h with
  | usedUp => exact ⟨Nat.zero_le _, fun _ => rfl⟩
  | stopped _ | late _ _ _ | unseen _ _ _ _ | ended _ _ _ _ _ =>
    exact ⟨Nat.le_add_left 1 _, fun h => by cases h⟩
  | onward _ _ _ _ _ ih =>
    rw [List.countP_cons, List.countP_cons, List.countP_cons]
    exact ⟨Nat.succ_le_succ ih.1, fun h => congrArg (· + 1) (ih.2 h)⟩

/-- Of the time that a watch has, the waits that came to nothing before a pass have taken their
share. -/
theorem History.expired_le (h : w.History timeout count s looks r s') (hadvances : Advances looks)
    {past : Nat} (hpast : past + 1 ≤ w.enoughPasses timeout)
    (hfirst : ∀ stop t after, looks = .stop stop :: .time t :: after →
      min timeout (past * w.longestWait) ≤ t) :
    past + looks.countP Look.isExpired + 1 ≤ w.enoughPasses timeout := by
  induction h generalizing past with
  | usedUp | stopped _ | late _ _ _ | unseen _ _ _ _ => exact hpast
  | ended _ _ _ _ hending => cases hending <;> exact hpast
  | @onward _ _ _ _ _ t passes looks r _ _ ht _ _ ih =>
    have hmilli := w.perMilli_pos
    have hpositive : 0 < w.longestWait := by unfold longestWait; omega
    have hleft : min timeout (past * w.longestWait) ≤ t := hfirst _ _ _ rfl
    have hshare : past * w.longestWait ≤ t := by omega
    have hmore : (past + 1) + 1 ≤ w.enoughPasses timeout := by
      unfold enoughPasses
      refine Nat.succ_le_succ ((Nat.le_div_iff_mul_le hpositive).2 ?_)
      rw [Nat.succ_mul]
      omega
    have htail : Advances looks := hadvances.of_append [_, _, _]
    have hnext := ih htail hmore fun stop t' after hlooks => by
      have hstep := hadvances [.stop false] t _ stop t' after (by rw [hlooks]; rfl)
      unfold slice at hstep
      rw [Nat.succ_mul]
      omega
    rw [List.countP_cons, List.countP_cons, List.countP_cons]
    change past + (looks.countP Look.isExpired + 0 + 0 + 1) + 1 ≤ _
    omega

/-- A watch takes as many passes as its time can last, and one more to see that it is over. -/
theorem History.count_le_enough (h : w.History timeout count s looks r s')
    (hadvances : Advances looks) :
    count ≤ w.enoughPasses timeout ∧ (r = .ok none → count < w.enoughPasses timeout) := by
  have hnone : 0 + 1 ≤ w.enoughPasses timeout := Nat.succ_le_succ (Nat.zero_le _)
  have hexpired := h.expired_le hadvances hnone fun stop t after _ => by simp
  obtain ⟨hcount, hall⟩ := h.count_le
  refine ⟨by omega, fun hr => ?_⟩
  have hcount := hall hr
  omega

/-! ### Looks in which time goes on -/

theorem Advances.of_not_expired (h : ∀ span, .wait span (.ok none) ∉ looks) : Advances looks := by
  rintro before t span stop t' after rfl
  exact absurd (by simp) (h span)

theorem Advances.cons {span : Nat} {t : Nat} (h : Advances looks)
    (hnext : ∀ stop t' after, looks = .stop stop :: .time t' :: after → t + span ≤ t') :
    Advances (.stop false :: .time t :: .wait span (.ok none) :: looks) := by
  intro before t₁ span₁ stop t' after heq
  rcases before with _ | ⟨a, _ | ⟨b, _ | ⟨c, before⟩⟩⟩
  · cases heq
  · cases heq
    exact hnext _ _ _ rfl
  · cases heq
  · obtain ⟨-, -, -, heq⟩ : _ ∧ _ ∧ _ ∧ looks = _ := by simpa using heq
    exact h before t₁ span₁ stop t' after heq

/-! ### All that is known of a watch -/

/-- What is known of a watch of at most so many passes from a state on, by what it looked at. -/
structure Accounted (w : Watched (StateM σ)) (timeout passes : Nat) (s : σ) (looks : List Look)
    (r : Except Fault (Option Outcome)) : Prop where
  /-- It looks as it should, pass by pass, and not for long if time does not stand still. -/
  history : ∃ count s', w.History timeout count s looks r s' ∧
    (Advances looks → count ≤ w.enoughPasses timeout)
  timely : ∀ span answer, .wait span answer ∈ looks → w.Timely timeout looks span answer
  cancelled : r = .ok (some .cancelled) ↔ SawStop looks
  timedOut : r = .ok (some .timedOut) ↔ SawLate timeout looks
  exited : ∀ status, r = .ok (some (.exited status)) ↔ SawEnd status looks
  /-- It comes to an end then, unless it is broken off before. -/
  ends : Advances looks → w.enoughPasses timeout ≤ passes → r ≠ .ok none

/-- A watch is known by its looks, whatever they show. -/
theorem accounted_watch (w : Watched (StateM σ)) (timeout passes : Nat) (s : σ) :
    (w.watch timeout passes s).1 = (outcome (w.wait timeout passes) s).1 ∧
      w.Accounted timeout passes s (w.watch timeout passes s).2 (w.watch timeout passes s).1 := by
  obtain ⟨news, count, hrun, h, hcount⟩ := history_wait w timeout passes s []
  have hwatch : w.watch timeout passes s = ((outcome (w.wait timeout passes) s).1, news) := by
    unfold watch
    rw [hrun]
    rfl
  rw [hwatch]
  refine ⟨rfl, ?_⟩
  exact {
    history := ⟨count, _, h, fun hadvances => (h.count_le_enough hadvances).1⟩
    timely := fun span answer => h.timely
    cancelled := h.cancelled_iff
    timedOut := h.timedOut_iff
    exited := h.exited_iff
    ends := fun hadvances henough hr => by
      have hfew := (h.count_le_enough hadvances).2 hr
      have hall := hcount hr
      omega }

end Looks

end Watched

end Formulary
