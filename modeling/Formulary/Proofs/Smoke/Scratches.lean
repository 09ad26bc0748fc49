import Formulary.Proofs.Machine.Temporary
import Formulary.Proofs.Machine.Untouched
import Formulary.Proofs.Smoke.Behaviour

/-!
# Directories of assertions

The program of an assertion has a temporary directory of its own, which is given up as soon as the
program has come to its end, whatever the assertion comes to (`Trial.gone`). Other places are left as
they are but by the program (`Trial.untouched`), and so they are by a whole run, trial after trial
(`keeps_tried`).
-/

namespace Formulary

/-- Programs leave all directories and links that they find, whenever they are stopped. -/
def Launcher.Spares (launch : Launcher) : Prop :=
  ∀ c site process, launch c site = .ok process →
    ∀ time, Files.Passable site.files (process.after time).files

namespace Smoke

variable (launch : Launcher) (program : Path) (timeout : Millis)

def Trial.left (t : Trial) : World :=
  (attempted (tryOne launch program (idOf t.assertion t.position) t.assertion t.expected timeout)
    t.world).2

/-- The world in which the program of a trial has come to its end, from the one in which it had its
directory. -/
def Trial.ended (t : Trial) (scratch : Path) (v : World) : World :=
  (outcome (supervise launch (commandOf program t.assertion scratch) timeout) v).2

/-- The path of a trial's directory still names it when the program has come to its end. -/
def Trial.Returns (t : Trial) : Prop :=
  ∀ scratch l v, Disk.Made ".tmp" t.world scratch l v →
    Disk.Names (t.ended launch program timeout scratch v) scratch l

/-! ### One trial -/

section Trial

variable {launch program timeout} {t : Trial} {scratch : Path} {l : Location} {v : World}

/-- Programs that leave directories and links leave the directories that they are given. -/
theorem returns_of_spares (hspares : launch.Spares) (t : Trial) :
    t.Returns launch program timeout := by
  intro scratch l v hmade
  unfold Trial.ended
  rcases supervised launch (commandOf program t.assertion scratch) timeout v with
    ⟨hsame, -⟩ | ⟨process, time, hc, -, hcwd, hfiles⟩
  · rw [hsame]
    exact hmade.names (by decide) rfl (Files.Kept.refl _).passable
  · refine hmade.names (by decide) hcwd ?_
    rw [hfiles]
    exact hspares _ _ _ hc time

theorem left_of_unmade {e : Fault}
    (h : outcome (Disk.makeTemporary ".tmp") t.world = (.error e, v)) :
    t.left launch program timeout = v := by
  unfold Trial.left tryOne
  rw [attempted_bind, Attempt.io, attempted_orFail, h]
  rfl

theorem left_of_made (h : Disk.Made ".tmp" t.world scratch l v) :
    t.left launch program timeout =
      (outcome (Disk.removeTree scratch) (t.ended launch program timeout scratch v)).2 := by
  unfold Trial.left Trial.ended tryOne
  rw [attempted_bind, Attempt.io, attempted_orFail, h.made]
  dsimp only [Except.mapError]
  rw [attempted_bind, attempted_lift]
  dsimp only
  rw [attempted_bind, attempted_lift]
  dsimp only
  cases (outcome (supervise launch (commandOf program t.assertion scratch) timeout) v).1 with
  | error fault => rfl
  | ok o =>
    dsimp only
    split
    · rfl
    · rfl

theorem files_left (h : Disk.Made ".tmp" t.world scratch l v)
    (hreturns : t.Returns launch program timeout) :
    (t.left launch program timeout).files =
      (t.ended launch program timeout scratch v).files.remove l := by
  rw [left_of_made h, Disk.outcome_removeTree (hreturns scratch l v h)]

/-- **The directory of a trial is gone after it, with all that is in it.** -/
theorem Trial.gone (h : Disk.Made ".tmp" t.world scratch l v)
    (hreturns : t.Returns launch program timeout) {m : Location} (hm : l <+: m) :
    (t.left launch program timeout).files.get? m = none := by
  rw [files_left h hreturns, Files.get?_remove h.ne_nil, if_pos hm]

theorem started_makeTemporary (label : String) (w : World) :
    (outcome (Disk.makeTemporary label) w).2.started = w.started :=
  (grows_makeTemporary label w).started

/-- **A trial leaves a place as it is, if the program does.** -/
theorem Trial.untouched (hlaunch : launch.Sound) (hreturns : t.Returns launch program timeout)
    (place : Location) (held : Option Node) :
    Untouched launch place held t.world (t.left launch program timeout) := by
  have hstarted := started_makeTemporary ".tmp" t.world
  rcases Disk.makeTemporary_cases ".tmp" t.world with
    ⟨scratch, l, v, hmade⟩ | ⟨e, v, hfailed, hfiles⟩
  · rw [hmade.made] at hstarted
    have hended : Untouched launch place held v (t.ended launch program timeout scratch v) :=
      untouched_supervise hlaunch _ timeout v
    rw [left_of_made hmade, Disk.outcome_removeTree (hreturns scratch l v hmade)]
    refine ⟨hstarted ▸ hended.started,
      fun hsound => (hended.sound (hmade.sound hsound)).remove hmade.ne_nil,
      fun hleaves hsound hheld => ?_⟩
    dsimp only
    rw [Files.get?_remove hmade.ne_nil]
    split
    · next hbelow =>
      -- before the directory was made there was nothing
      rw [← hheld, hsound.free_below hmade.free hbelow]
    · next hbelow =>
      have hplace : place ≠ l := by
        rintro rfl
        exact hbelow List.prefix_rfl
      refine hended.left hleaves (hmade.sound hsound) ?_
      rw [hmade.files, Files.get?_put_of_ne hplace, hheld]
  · rw [hfailed] at hstarted
    rw [left_of_unmade hfailed]
    exact .of_files_eq hstarted hfiles

end Trial

/-! ### All that a run comes to -/

/-- What is kept by each trial that a run comes to is kept by the run, up to each of these trials and
from it on. -/
theorem keeps_tried {R : World → World → Prop} (hR : Onward R) (position : Nat)
    (l : List (Assertion × String)) (w : World)
    (h : ∀ t ∈ upToFailure (Trial.result launch program timeout)
      (trials launch program timeout position l w), R t.world (t.left launch program timeout)) :
    R w (attempted (tryFrom launch program timeout position l) w).2 ∧
      ∀ t ∈ upToFailure (Trial.result launch program timeout)
        (trials launch program timeout position l w),
        R w (t.left launch program timeout) ∧
          R (t.left launch program timeout)
            (attempted (tryFrom launch program timeout position l) w).2 := by
  induction l generalizing position w with
  | nil => exact ⟨hR.refl w, List.forall_mem_nil _⟩
  | cons entry rest ih =>
    obtain ⟨a, expected⟩ := entry
    unfold trials upToFailure at h ⊢
    unfold tryFrom
    rw [attempted_bind]
    rcases hone : attempted (tryOne launch program (idOf a position) a expected timeout) w with
      ⟨e | r, v⟩
    · have hresult : Trial.result launch program timeout ⟨position, a, expected, w⟩ = .error e :=
        congrArg Prod.fst hone
      have hleft : Trial.left launch program timeout ⟨position, a, expected, w⟩ = v :=
        congrArg Prod.snd hone
      rw [hresult] at h ⊢
      dsimp only at h ⊢
      rw [List.forall_mem_singleton, hleft] at h ⊢
      exact ⟨h, h, hR.refl v⟩
    · have hresult : Trial.result launch program timeout ⟨position, a, expected, w⟩ = .ok r :=
        congrArg Prod.fst hone
      have hleft : Trial.left launch program timeout ⟨position, a, expected, w⟩ = v :=
        congrArg Prod.snd hone
      rw [hresult, hone] at h
      rw [hresult]
      dsimp only at h ⊢
      rw [List.forall_mem_cons, hleft] at h ⊢
      obtain ⟨hrest, hlater⟩ := ih (position + 1) v h.2
      rw [attempted_bind]
      rcases hleftover : attempted (tryFrom launch program timeout (position + 1) rest) v with
        ⟨e | rs, u⟩
      all_goals
        rw [hleftover] at hrest hlater
        exact ⟨hR.trans h.1 hrest, ⟨h.1, hrest⟩,
          fun t ht => ⟨hR.trans h.1 (hlater t ht).1, (hlater t ht).2⟩⟩

end Smoke

end Formulary
