import Formulary.Machine.Disk
import Formulary.Proofs.Effects
import Formulary.Proofs.Machine.Operations

/-!
# What actions do to a world

Actions that start no program (`Quiet`), and among them those that only make directories (`Grown`),
which follow the shape of an action: one law for each way of putting actions together.
-/

namespace Formulary

variable {w w' w'' : World}

/-! ### What every step keeps -/

/-- What is kept from world to world, step by step. -/
structure Onward (R : World → World → Prop) : Prop where
  refl : ∀ w, R w w
  trans : ∀ {w w' w''}, R w w' → R w' w'' → R w w''

/-- Wherever an action starts, it keeps what is kept between related worlds. -/
def Act.Keeps {α : Type} (R : World → World → Prop) (x : Act α) : Prop := ∀ w, R w (outcome x w).2

/-- Wherever an attempt starts, it keeps what is kept between related worlds. -/
def Attempt.Keeps {α : Type} (R : World → World → Prop) (x : Attempt α) : Prop :=
  ∀ w, R w (attempted x w).2

section Keeping

variable {α β : Type} {R : World → World → Prop}

namespace Act.Keeps

theorem pure (hR : Onward R) (a : α) : Keeps R (Pure.pure a) := hR.refl

theorem bind (hR : Onward R) {x : Act α} {f : α → Act β} (hx : x.Keeps R)
    (hf : ∀ a, (f a).Keeps R) : Keeps R (x >>= f) := fun w => hR.trans (hx w) (hf _ _)

theorem ask (hR : Onward R) (f : Files → Location → α) : Keeps R (Act.ask f) := hR.refl

theorem get (hR : Onward R) : Keeps R (MonadState.get : Act World) := hR.refl

end Act.Keeps

namespace Attempt.Keeps

theorem pure (hR : Onward R) (a : α) : Keeps R (Pure.pure a) := hR.refl

theorem throw (hR : Onward R) (e : Failure) : Keeps R (MonadExcept.throw e : Attempt α) := hR.refl

theorem lift {x : Act α} (hx : x.Keeps R) : Keeps R (liftM x : Attempt α) := hx

theorem bind (hR : Onward R) {x : Attempt α} {f : α → Attempt β} (hx : x.Keeps R)
    (hf : ∀ a, (f a).Keeps R) : Keeps R (x >>= f) := by
  intro w
  have hfirst := hx w
  rw [attempted_bind]
  rcases h : attempted x w with ⟨e | a, v⟩
  · rwa [h] at hfirst
  · rw [h] at hfirst
    exact hR.trans hfirst (hf a v)

theorem tryCatch (hR : Onward R) {x : Attempt α} {f : Failure → Attempt α} (hx : x.Keeps R)
    (hf : ∀ e, (f e).Keeps R) : Keeps R (MonadExcept.tryCatch x f) := by
  intro w
  have hfirst := hx w
  rw [attempted_tryCatch]
  rcases h : attempted x w with ⟨e | a, v⟩
  · rw [h] at hfirst
    exact hR.trans hfirst (hf e v)
  · rwa [h] at hfirst

theorem orFail {x : Act (Except Fault α)} (hx : x.Keeps R) (failure : Fault → Failure) :
    Keeps R (Attempt.orFail x failure) := by
  intro w
  rw [attempted_orFail]
  exact hx w

theorem io {x : Act (Except Fault α)} (hx : x.Keeps R) : Keeps R (Attempt.io x) := .orFail hx _

theorem mapM (hR : Onward R) {f : α → Attempt β} (hf : ∀ a, (f a).Keeps R) (l : List α) :
    Keeps R (l.mapM f) := by
  induction l with
  | nil =>
    rw [List.mapM_nil]
    exact .pure hR []
  | cons a rest ih =>
    rw [List.mapM_cons]
    exact .bind hR (hf a) fun b => .bind hR ih fun bs => .pure hR _

end Attempt.Keeps

end Keeping

/-! ### Looking at files and changing them -/

theorem outcome_change (f : Files → Location → Except Fault Files) (w : World) :
    outcome (Act.change f) w =
      match f w.files w.here with
      | .ok files => (.ok (), { w with files })
      | .error e => (.error e, w) := by
  unfold Act.change
  rw [outcome_bind, outcome_get]
  cases f w.files w.here with
  | ok files => rfl
  | error e => rfl

/-- No program was started, and sound files are still sound. -/
structure Quiet (w w' : World) : Prop where
  started : w'.started = w.started
  cwd : w'.cwd = w.cwd
  sound : w.files.Sound → w'.files.Sound

theorem Quiet.refl (w : World) : Quiet w w := ⟨rfl, rfl, id⟩

theorem Quiet.trans (h : Quiet w w') (h' : Quiet w' w'') : Quiet w w'' where
  started := h'.started.trans h.started
  cwd := h'.cwd.trans h.cwd
  sound := h'.sound ∘ h.sound

theorem quiet_removeFile (p : Path) (w : World) : Quiet w (outcome (Disk.removeFile p) w).2 := by
  unfold Disk.removeFile
  rw [outcome_change]
  split
  · next files h => exact ⟨rfl, rfl, fun hs => Files.removeFile_sound hs h⟩
  · exact .refl w

/-! ### Making directories -/

/-- Besides, everything there was is still there, and what is new are directories. -/
structure Grown (w w' : World) : Prop extends Quiet w w' where
  kept : Files.Kept w.files w'.files
  added : ∀ l node, w'.files.get? l = some node → node = .directory ∨ w.files.get? l = some node

theorem Grown.of_files_eq (hstarted : w'.started = w.started) (hcwd : w'.cwd = w.cwd)
    (hfiles : w'.files = w.files) : Grown w w' := by
  refine ⟨⟨hstarted, hcwd, ?_⟩, ?_, ?_⟩
  · rw [hfiles]
    exact id
  · rw [hfiles]
    exact .refl _
  · rw [hfiles]
    exact fun _ _ => .inr

theorem Grown.refl (w : World) : Grown w w := .of_files_eq rfl rfl rfl

theorem Grown.trans (h : Grown w w') (h' : Grown w' w'') : Grown w w'' where
  toQuiet := h.toQuiet.trans h'.toQuiet
  kept := h.kept.trans h'.kept
  added l node hl := (h'.added l node hl).elim .inl (h.added l node)

theorem Grown.onward : Onward Grown := ⟨Grown.refl, Grown.trans⟩

/-- An action that only makes directories, wherever it starts. -/
def Act.Grows {α : Type} (x : Act α) : Prop := ∀ w, Grown w (outcome x w).2

theorem Act.Grows.pure {α : Type} (a : α) : Act.Grows (Pure.pure a) :=
  Act.Keeps.pure Grown.onward a

theorem grows_makeDirectory (p : Path) : (Disk.makeDirectory p).Grows := by
  intro w
  unfold Disk.makeDirectory
  rw [outcome_change]
  split
  · next files h =>
    exact ⟨⟨rfl, rfl, fun hs => Files.makeDirectory_sound hs h⟩, Files.makeDirectory_kept h,
      Files.makeDirectory_added h⟩
  · exact .refl w

/-! To make a directory with all that lead to it is to make directories, one after another. -/

section MakeAll

variable {R : World → World → Prop} (hrefl : ∀ w, R w w)
  (hmake : ∀ p w, R w (outcome (Disk.makeDirectory p) w).2)

include hrefl

theorem orThere_keeps (p : Path) (result : Except Fault Unit) (w : World) :
    R w (outcome (Disk.orThere p result) w).2 := by
  cases result with
  | ok => exact hrefl w
  | error e => exact hrefl w

include hmake

theorem makeAllDown_keeps (htrans : ∀ {w w' w''}, R w w' → R w' w'' → R w w'') (depth : Nat)
    (p : Path) (w : World) : R w (outcome (Disk.makeAllDown depth p) w).2 := by
  have hagain : ∀ p w, R w (outcome (Disk.makeDirectory p >>= Disk.orThere p) w).2 :=
    fun p w => htrans (hmake p w) (orThere_keeps hrefl p _ _)
  induction depth generalizing p w with
  | zero =>
    unfold Disk.makeAllDown
    split
    · exact hrefl w
    · rw [outcome_bind]
      refine htrans (hmake p w) ?_
      split
      · exact hrefl _
      · exact orThere_keeps hrefl p _ _
  | succ depth ih =>
    unfold Disk.makeAllDown
    split
    · exact hrefl w
    · rw [outcome_bind]
      refine htrans (hmake p w) ?_
      split
      · cases p.parent? with
        | none => exact hrefl _
        | some parent =>
          dsimp only
          rw [outcome_bind]
          refine htrans (ih parent _) ?_
          split
          · exact hrefl _
          · exact hagain p _
      · exact orThere_keeps hrefl p _ _

end MakeAll

theorem grows_makeAll (p : Path) : (Disk.makeAll p).Grows :=
  makeAllDown_keeps Grown.refl grows_makeDirectory Grown.trans _ p

/-! A temporary directory is made by counting names and making directories. -/

section MakeTemporary

variable {R : World → World → Prop} (hR : Onward R)
  (hticket : ∀ w n, R w { w with tickets := n }) (hmake : ∀ p, (Disk.makeDirectory p).Keeps R)

include hR hticket hmake

theorem keeps_makeFresh (label : String) (dir : Path) (tries : Nat) :
    (Disk.makeFresh label dir tries).Keeps R := by
  induction tries with
  | zero => exact .pure hR _
  | succ tries ih =>
    unfold Disk.makeFresh
    refine .bind hR (fun w => hticket w _) fun ticket => .bind hR (hmake _) fun result => ?_
    split
    · exact .pure hR _
    · exact ih
    · exact .pure hR _

theorem keeps_makeTemporary (label : String) : (Disk.makeTemporary label).Keeps R := by
  unfold Disk.makeTemporary
  exact .bind hR (.get hR) fun w => keeps_makeFresh hR hticket hmake label _ _

end MakeTemporary

theorem grows_makeTemporary (label : String) : (Disk.makeTemporary label).Grows :=
  keeps_makeTemporary Grown.onward (fun _ _ => .of_files_eq rfl rfl rfl) grows_makeDirectory label

/-! ### Actions on files alone -/

/-- Nothing has changed but the files. -/
def OnFiles (w w' : World) : Prop := ∃ files, w' = { w with files }

theorem OnFiles.refl (w : World) : OnFiles w w := ⟨w.files, rfl⟩

theorem OnFiles.trans (h : OnFiles w w') (h' : OnFiles w' w'') : OnFiles w w'' := by
  obtain ⟨_, rfl⟩ := h
  obtain ⟨files, rfl⟩ := h'
  exact ⟨files, rfl⟩

theorem onFiles_change (f : Files → Location → Except Fault Files) (w : World) :
    OnFiles w (outcome (Act.change f) w).2 := by
  rw [outcome_change]
  split
  · exact ⟨_, rfl⟩
  · exact .refl w

theorem onFiles_makeAll (p : Path) (w : World) : OnFiles w (outcome (Disk.makeAll p) w).2 :=
  makeAllDown_keeps OnFiles.refl (fun _ => onFiles_change _) OnFiles.trans _ p w

end Formulary
