import Formulary.Proofs.Machine.Alike
import Formulary.Proofs.Machine.Launches
import Formulary.Proofs.Machine.Watching

/-!
# Supervised programs

Time goes on while a process is waited for, so a program that can be started is watched to an end. It
was stopped then, or it is seen as it would be if nothing had stopped it, which its process alone
decides (`Process.seen`): it has ended, its time is over, or it cannot be waited for any longer. If a
stop is asked for before, it is stopped at once.
-/

namespace Formulary

variable {p : Process} {start timeout : Millis} {v v' : World} {count : Nat} {looks : List Look}
  {r : Except Fault (Option Outcome)}

/-! ### Watching a process -/

theorem Process.endedBefore_eq_some {time moment : Millis} {ending : Except Fault ExitStatus} :
    p.endedBefore time = some (moment, ending) ↔
      p.ending = some (moment, ending) ∧ moment < time := by
  unfold endedBefore
  rw [Option.filter_eq_some_iff]
  simp

theorem Process.endedBefore_eq_none {time : Millis} :
    p.endedBefore time = none ↔ ∀ moment ending, p.ending = some (moment, ending) → time ≤ moment := by
  unfold endedBefore
  rw [Option.filter_eq_none_iff]
  simp

theorem outcome_waitFor (p : Process) (start span : Millis) (v : World) :
    outcome ((p.watched start).waitFor span) v =
      match p.endedBefore (v.clock + span - start) with
      | some (moment, ending) =>
        (ending.map some, { v with clock := max v.clock (start + moment + 1) })
      | none => (.ok none, { v with clock := v.clock + span }) := by
  change outcome (p.waitFor start span) v = _
  unfold Process.waitFor Act.clock
  simp only [outcome_bind, outcome_get, bind_assoc, pure_bind]
  cases p.endedBefore (v.clock + span - start) with
  | none => rfl
  | some ended => rfl

theorem clock_of_waitFor {span : Millis}
    (h : outcome ((p.watched start).waitFor span) v = (.ok none, v')) :
    v'.clock = v.clock + span ∧ p.endedBefore (v.clock + span - start) = none := by
  rw [outcome_waitFor] at h
  cases hended : p.endedBefore (v.clock + span - start) with
  | none =>
    rw [hended] at h
    cases h
    exact ⟨rfl, rfl⟩
  | some ended =>
    obtain ⟨moment, e | status⟩ := ended
    all_goals
      rw [hended] at h
      cases h

theorem ended_of_waitFor {span time : Nat} (ending : Except Fault ExitStatus)
    (h : outcome ((p.watched start).waitFor span) v = (ending.map some, v'))
    (hclock : v.clock = start + time) (hgoing : p.endedBefore time = none) :
    ∃ moment, p.endedBefore (time + span) = some (moment, ending) ∧
      v'.clock = start + (moment + 1) := by
  rw [outcome_waitFor, hclock, Nat.add_assoc, Nat.add_sub_cancel_left] at h
  cases hended : p.endedBefore (time + span) with
  | none =>
    rw [hended] at h
    cases ending <;> cases h
  | some ended =>
    obtain ⟨moment, ending'⟩ := ended
    rw [hended] at h
    obtain ⟨hsame, rfl⟩ := Prod.mk.inj h
    obtain rfl : ending' = ending := by
      cases ending' <;> cases ending <;> cases hsame <;> rfl
    have hmoment : time ≤ moment := Process.endedBefore_eq_none.1 hgoing moment ending'
      (Process.endedBefore_eq_some.1 hended).1
    exact ⟨moment, rfl, Nat.max_eq_right (Nat.add_le_add_left (Nat.le_succ_of_le hmoment) start)⟩

theorem asked_of_waitFor {span : Millis} {answer : Except Fault (Option ExitStatus)}
    (h : outcome ((p.watched start).waitFor span) v = (answer, v')) :
    v'.stopRequested = v.stopRequested := by
  rw [outcome_waitFor] at h
  cases hended : p.endedBefore (v.clock + span - start) with
  | none =>
    rw [hended] at h
    cases h
    rfl
  | some ended =>
    rw [hended] at h
    cases h
    rfl

theorem clock_of_stopRequested {stop : Bool}
    (h : outcome (p.watched start).stopRequested v = (stop, v')) : v'.clock = v.clock := by
  cases h
  rfl

theorem asked_of_stopRequested {stop : Bool}
    (h : outcome (p.watched start).stopRequested v = (stop, v')) :
    v'.stopRequested = v.stopRequested := by
  cases h
  rfl

theorem first_time (h : (p.watched start).History timeout count v looks r v') {stop : Bool}
    {t : Nat} {after : List Look} (heq : looks = .stop stop :: .time t :: after) :
    t = v.clock - start := by
  cases h with
  | usedUp | stopped _ => cases heq
  | late hstop htime _
  | unseen hstop htime _ _
  | ended hstop htime _ _ _
  | onward hstop htime _ _ _ =>
    cases heq
    cases htime
    rw [clock_of_stopRequested hstop]

/-- **Time goes on while a process is waited for.** -/
theorem advances_of_process (h : (p.watched start).History timeout count v looks r v')
    (hstart : start ≤ v.clock) : Watched.Advances looks := by
  induction h with
  | usedUp | stopped _ | late _ _ _ | unseen _ _ _ _ => exact .of_not_expired (by simp)
  | ended _ _ _ _ hending => exact .of_not_expired (by cases hending <;> simp)
  | @onward _ _ _ s₃ _ _ _ _ _ hstop htime _ hwait rest ih =>
    cases htime
    have hbefore := clock_of_stopRequested hstop
    obtain ⟨hafter, -⟩ := clock_of_waitFor hwait
    rw [hbefore] at hafter
    have hlater : start ≤ s₃.clock := by
      rw [hafter]
      exact Nat.le_add_right_of_le hstart
    refine (ih hlater).cons fun stop t' after heq => ?_
    rw [first_time rest heq, hafter, hbefore]
    unfold Millis at hstart
    omega

/-! ### What is seen of a process -/

/-- What is seen of a process in a time if nothing stops it, and after how long. -/
def Process.seen (p : Process) (timeout : Millis) : Except Fault Outcome × Millis :=
  match p.endedBefore timeout with
  | some (moment, ending) => (ending.map .exited, moment + 1)
  | none => (.ok .timedOut, timeout)

theorem Process.endedBefore_of_le {time moment : Millis} {ending : Except Fault ExitStatus}
    (h : p.endedBefore time = some (moment, ending)) (htime : time ≤ timeout) :
    p.endedBefore timeout = some (moment, ending) := by
  obtain ⟨hending, hmoment⟩ := endedBefore_eq_some.1 h
  exact endedBefore_eq_some.2 ⟨hending, Nat.lt_of_lt_of_le hmoment htime⟩

theorem Process.seen_of_endedBefore {moment : Millis} {ending : Except Fault ExitStatus}
    (h : p.endedBefore timeout = some (moment, ending)) :
    p.seen timeout = (ending.map .exited, moment + 1) := by
  unfold seen
  rw [h]

/-- What is seen ended by itself before its time was over. -/
theorem Process.ended_of_seen {status : ExitStatus} {time : Millis}
    (h : (.ok (.exited status), time) = p.seen timeout) :
    ∃ moment, p.ending = some (moment, .ok status) ∧ moment < timeout ∧ time = moment + 1 := by
  unfold seen at h
  split at h
  · next moment ending hended =>
    obtain ⟨hending, hmoment⟩ := endedBefore_eq_some.1 hended
    obtain ⟨hsame, rfl⟩ := Prod.mk.inj h
    obtain ⟨_, rfl, ⟨⟩⟩ := map_eq_ok.1 hsame.symm
    exact ⟨moment, hending, hmoment, rfl⟩
  · cases h

theorem Process.slice_le {time : Nat} (htime : time < timeout) :
    time + (p.watched start).slice timeout time ≤ timeout := by
  unfold Watched.slice
  omega

/-- A wait that comes to something shows what there is to see. -/
theorem seen_of_waitFor {time : Nat} (ending : Except Fault ExitStatus)
    (h : outcome ((p.watched start).waitFor ((p.watched start).slice timeout time)) v =
      (ending.map some, v'))
    (hclock : v.clock = start + time) (htime : time < timeout) (hgoing : p.endedBefore time = none) :
    (p.seen timeout).1 = ending.map .exited ∧ v'.clock = start + (p.seen timeout).2 := by
  obtain ⟨moment, hended, hafter⟩ := ended_of_waitFor ending h hclock hgoing
  rw [Process.seen_of_endedBefore (Process.endedBefore_of_le hended (Process.slice_le htime))]
  exact ⟨rfl, hafter⟩

/-- There was a process to see that somebody interrupted. -/
def Process.Interrupted (p : Process) (timeout : Millis) : Prop :=
  ∃ o, (p.seen timeout).1 = .ok o ∧ o.interrupted = true

theorem Process.interrupted_iff {o : Outcome} (h : (p.seen timeout).1 = .ok o) :
    p.Interrupted timeout ↔ o.interrupted = true := by
  constructor
  · rintro ⟨o', ho', hinterrupted⟩
    obtain rfl := Except.ok.inj (ho'.symm.trans h)
    exact hinterrupted
  · exact fun hinterrupted => ⟨o, h, hinterrupted⟩

/-- A watch over a process that is not broken off was stopped, for which somebody has asked or the
process was interrupted, or it sees what there is to see. -/
theorem seen_of_history (h : (p.watched start).History timeout count v looks r v') {time : Nat}
    (hclock : v.clock = start + time) (htime : time ≤ timeout) (hgoing : p.endedBefore time = none) :
    r = .ok none ∨
    (r = .ok (some .cancelled) ∧ ((∃ n, v.stopRequested n = true) ∨ p.Interrupted timeout)) ∨
    r = (p.seen timeout).1.map some ∧ v'.clock = start + (p.seen timeout).2 ∧
      ¬ p.Interrupted timeout := by
  induction h generalizing time with
  | usedUp => exact .inl rfl
  | stopped hstop => exact .inr (.inl ⟨rfl, .inl ⟨_, congrArg Prod.fst hstop⟩⟩)
  | late hstop hread hlate =>
    right; right
    have hsame := (clock_of_stopRequested hstop).trans hclock
    cases hread
    rw [hsame, Nat.add_sub_cancel_left] at hlate
    obtain rfl : time = timeout := Nat.le_antisymm htime hlate
    have hseen : p.seen time = (.ok .timedOut, time) := by
      unfold Process.seen
      rw [hgoing]
    rw [Process.interrupted_iff (congrArg Prod.fst hseen), hseen]
    exact ⟨rfl, hsame, Bool.false_ne_true⟩
  | @unseen _ s₁ s₂ s₃ t e hstop hread ht hwait =>
    right; right
    have hsame := (clock_of_stopRequested hstop).trans hclock
    cases hread
    rw [hsame, Nat.add_sub_cancel_left] at hwait ht
    obtain ⟨hseen, hafter⟩ := seen_of_waitFor (.error e) hwait hsame ht hgoing
    rw [hseen]
    refine ⟨rfl, hafter, ?_⟩
    rintro ⟨_, ho, -⟩
    cases hseen.symm.trans ho
  | @ended _ s₁ s₂ s₃ s₄ t status news verdict hstop hread ht hwait hending =>
    have hsame := (clock_of_stopRequested hstop).trans hclock
    cases hread
    have hasked := (asked_of_waitFor hwait).trans (asked_of_stopRequested hstop)
    rw [hsame, Nat.add_sub_cancel_left] at hwait ht
    obtain ⟨hseen, hafter⟩ := seen_of_waitFor (.ok status) hwait hsame ht hgoing
    rw [Process.interrupted_iff hseen, hseen]
    cases hending with
    | interrupted h => exact .inr (.inl ⟨rfl, .inr h⟩)
    | felled _ hlook =>
      exact .inr (.inl ⟨rfl, .inl ⟨_, (congrFun hasked _).symm.trans (congrArg Prod.fst hlook)⟩⟩)
    | success h _ => exact .inr (.inr ⟨rfl, hafter, Bool.eq_false_iff.1 h⟩)
    | failed h _ hlook =>
      exact .inr (.inr ⟨rfl, (clock_of_stopRequested hlook).trans hafter, Bool.eq_false_iff.1 h⟩)
  | @onward _ s₁ s₂ s₃ s₄ t passes looks r hstop hread ht hwait rest ih =>
    have hsame := (clock_of_stopRequested hstop).trans hclock
    obtain ⟨hafter, hstill⟩ := clock_of_waitFor hwait
    have hasked := asked_of_stopRequested hstop
    cases hread
    rw [hsame, Nat.add_sub_cancel_left] at ht hafter hstill
    rw [Nat.add_assoc] at hafter hstill
    rw [Nat.add_sub_cancel_left] at hstill
    have hrest := ih hafter (Process.slice_le ht) hstill
    rwa [asked_of_waitFor hwait, hasked] at hrest

/-! ### Supervising -/

/-- What a process leaves that comes to its end after a time. -/
def Process.left (p : Process) (o : Outcome) (time : Millis) : Output where
  outcome := o
  stdout := Text.decodeLossy (p.after time).stdout
  stderr := Text.decodeLossy (p.after time).stderr

theorem Watched.History.cancelled_of_first {σ : Type} {w : Watched (StateM σ)} {s s' : σ}
    (h : w.History timeout count s looks r s') (hfirst : (outcome w.stopRequested s).1 = true)
    (hr : r ≠ .ok none) : r = .ok (some .cancelled) := by
  cases h with
  | usedUp => exact absurd rfl hr
  | stopped _ => rfl
  | late hstop _ _
  | unseen hstop _ _ _
  | ended hstop _ _ _ _
  | onward hstop _ _ _ _ =>
    rw [hstop] at hfirst
    cases hfirst

/-- A watch over a process that has all the passes it can need comes to an end. -/
theorem ends_of_history (h : (p.watched start).History timeout count v looks r v')
    (hclock : v.clock = start)
    (hcount : r = .ok none → count = (p.watched start).enoughPasses timeout) :
    ∃ o : Except Fault Outcome, r = o.map some ∧
      ((o = .ok .cancelled ∧ ((∃ n, v.stopRequested n = true) ∨ p.Interrupted timeout)) ∨
        (o, v'.clock - start) = p.seen timeout ∧ ¬ p.Interrupted timeout) ∧
      (v.stopRequested v.looks = true → o = .ok .cancelled) := by
  have hadvances := advances_of_process h (Nat.le_of_eq hclock.symm)
  have hr : r ≠ .ok none := fun hr =>
    Nat.ne_of_lt ((h.count_le_enough hadvances).2 hr) (hcount hr)
  have hgoing : p.endedBefore 0 = none :=
    Process.endedBefore_eq_none.2 fun _ _ _ => Nat.zero_le _
  have hstart : v.clock = start + 0 := hclock
  rcases seen_of_history h hstart (Nat.zero_le _) hgoing with
    hnone | ⟨rfl, hcause⟩ | ⟨rfl, htime, hcause⟩
  · exact absurd hnone hr
  · exact ⟨.ok .cancelled, rfl, .inl ⟨rfl, hcause⟩, fun _ => rfl⟩
  · refine ⟨_, rfl, .inr ⟨?_, hcause⟩, fun hstop => ?_⟩
    · rw [htime, Nat.add_sub_cancel_left]
    · obtain ⟨o, ho, hsome⟩ := map_eq_ok.1 (h.cancelled_of_first hstop hr)
      rw [ho, Option.some.inj hsome]

section Supervising

variable {launch : Launcher} {c : Command} {w : World}

/-- A program that can be started is watched to an end: it is stopped for a cause, or seen as it
would be without one. -/
theorem supervise_ends (h : launch c w.site = .ok p) (timeout : Millis) :
    ∃ (o : Except Fault Outcome) (time : Millis),
      (outcome (supervise launch c timeout) w).1 = o.map (p.left · time) ∧
      (outcome (supervise launch c timeout) w).2.files = (p.after time).files ∧
      (outcome ((p.watched w.clock).wait timeout ((p.watched w.clock).enoughPasses timeout))
        (w.begun c)).1 = o.map some ∧
      ((o = .ok .cancelled ∧ ((∃ n, w.stopRequested n = true) ∨ p.Interrupted timeout)) ∨
        (o, time) = p.seen timeout ∧ ¬ p.Interrupted timeout) ∧
      (w.stopRequested w.looks = true → o = .ok .cancelled) := by
  obtain ⟨looks, count, -, hhistory, hcount⟩ := Watched.history_wait (p.watched w.clock) timeout
    ((p.watched w.clock).enoughPasses timeout) (w.begun c) []
  obtain ⟨o, ho, hseen, hstop⟩ := ends_of_history hhistory rfl hcount
  have hsupervise := supervise_eq h timeout
  dsimp only at hsupervise
  rw [ho] at hsupervise
  rw [hsupervise]
  refine ⟨o, _, ?_, rfl, ho, hseen, hstop⟩
  cases o <;> rfl

/-- **A program that can be started is watched to an end**: it is stopped, at once if a stop was
asked for before, or it is seen as if nothing had stopped it. -/
theorem supervise_seen (h : launch c w.site = .ok p) (timeout : Millis) :
    ∃ (o : Except Fault Outcome) (time : Millis),
      (outcome (supervise launch c timeout) w).1 = o.map (p.left · time) ∧
      (outcome (supervise launch c timeout) w).2.files = (p.after time).files ∧
      (outcome ((p.watched w.clock).wait timeout ((p.watched w.clock).enoughPasses timeout))
        (w.begun c)).1 = o.map some ∧
      (o = .ok .cancelled ∨ (o, time) = p.seen timeout) ∧
      (w.stopRequested w.looks = true → o = .ok .cancelled) := by
  obtain ⟨o, time, hleft, hfiles, hwait, hseen, hstop⟩ := supervise_ends h timeout
  exact ⟨o, time, hleft, hfiles, hwait, hseen.imp And.left And.left, hstop⟩

/-- Where nobody asks for a stop, a program is stopped just if it was interrupted. -/
theorem supervise_unasked (h : launch c w.site = .ok p) (hgoing : ∀ n, w.stopRequested n = false)
    (timeout : Millis) :
    ∃ (o : Except Fault Outcome) (time : Millis),
      (outcome (supervise launch c timeout) w).1 = o.map (p.left · time) ∧
      ((p.Interrupted timeout ∧ o = .ok .cancelled) ∨
        (¬ p.Interrupted timeout ∧ (o, time) = p.seen timeout)) := by
  obtain ⟨o, time, hleft, -, -, hseen, -⟩ := supervise_ends h timeout
  refine ⟨o, time, hleft, ?_⟩
  rcases hseen with ⟨rfl, ⟨n, hn⟩ | hinterrupted⟩ | ⟨hseen, hnot⟩
  · rw [hgoing n] at hn
    cases hn
  · exact .inl ⟨hinterrupted, rfl⟩
  · exact .inr ⟨hnot, hseen⟩

/-- A process that cannot be waited for any longer before a time is over, and why. -/
def Process.Lost (p : Process) (timeout : Millis) (e : Fault) : Prop :=
  ∃ moment, p.ending = some (moment, .error e) ∧ moment < timeout

/-- What is seen of a process is a fault just if it cannot be waited for any longer. -/
theorem Process.seen_eq_error_iff {e : Fault} : (p.seen timeout).1 = .error e ↔ p.Lost timeout e := by
  constructor
  · intro h
    unfold seen at h
    split at h
    · next moment ending hended =>
      obtain ⟨hending, hmoment⟩ := endedBefore_eq_some.1 hended
      exact ⟨moment, map_eq_error.1 h ▸ hending, hmoment⟩
    · cases h
  · rintro ⟨moment, hending, hmoment⟩
    rw [seen_of_endedBefore (endedBefore_eq_some.2 ⟨hending, hmoment⟩)]
    rfl

theorem Process.lost_of_seen {e : Fault} {time : Millis}
    (h : (.error e : Except Fault Outcome) = .ok .cancelled ∨ (.error e, time) = p.seen timeout) :
    p.Lost timeout e :=
  seen_eq_error_iff.1 (congrArg Prod.fst (h.resolve_left nofun)).symm

end Supervising

/-- **A watch ends, and tells what it saw.** Whatever its looks show, it is known by them, and what it
looks at over a process shows that time goes on. So a program that can be started is watched to an
end, and is stopped if a stop was asked for before, whatever its time. -/
theorem watch_tells :
    (∀ (σ : Type) (w : Watched (StateM σ)) (timeout passes : Nat) (s : σ),
      (w.watch timeout passes s).1 = (outcome (w.wait timeout passes) s).1 ∧
        w.Accounted timeout passes s (w.watch timeout passes s).2 (w.watch timeout passes s).1) ∧
    ∀ (launch : Launcher) (c : Command) (timeout : Millis) (w : World) (p : Process),
      launch c w.site = .ok p →
      ∃ (o : Except Fault Outcome) (time : Millis) (looks : List Look),
        (p.watched w.clock).watch timeout ((p.watched w.clock).enoughPasses timeout) (w.begun c) =
          (o.map some, looks) ∧
        Watched.Advances looks ∧
        (outcome (supervise launch c timeout) w).1 = o.map (p.left · time) ∧
        (w.stopRequested w.looks = true → o = .ok .cancelled) := by
  constructor
  · intro σ w timeout passes s
    exact w.accounted_watch timeout passes s
  · intro launch c timeout w p h
    obtain ⟨o, time, hsupervise, -, hwait, -, hstop⟩ := supervise_seen h timeout
    obtain ⟨hsame, haccounted⟩ := (p.watched w.clock).accounted_watch timeout
      ((p.watched w.clock).enoughPasses timeout) (w.begun c)
    obtain ⟨count, v, hhistory, -⟩ := haccounted.history
    refine ⟨o, time, _, Prod.ext (hsame.trans hwait) rfl, ?_, hsupervise, hstop⟩
    exact advances_of_process hhistory (Nat.le_refl _)

/-- A program that would run for ever is stopped at once where a stop was asked for before, though it
is given no time at all. -/
theorem watch_tells_stop :
    let p : Process := { ending := none, after := fun _ => { files := {} } }
    let w : World := { files := {}, stopRequested := fun _ => true }
    (p.watched 0).watch 0 ((p.watched 0).enoughPasses 0) (w.begun { program := "sleep" }) =
        (.ok (some .cancelled), [.stop true]) ∧
      ∃ (o : Except Fault Outcome) (time : Millis),
        (outcome (supervise (fun _ _ => .ok p) { program := "sleep" } 0) w).1 =
          o.map (p.left · time) ∧ o = .ok .cancelled := by
  intro p w
  obtain ⟨o, time, looks, -, -, hsupervise, hstop⟩ :=
    watch_tells.2 (fun _ _ => .ok p) { program := "sleep" } 0 w p rfl
  exact ⟨rfl, o, time, hsupervise, hstop rfl⟩

end Formulary
