import Formulary.Proofs.Machine.Launches
import Formulary.Proofs.Machine.Leads
import Formulary.Proofs.Machine.Written

/-!
# What is left untouched

A place stays as it is as long as nobody changes it. Programs may change every place; `Untouched` is
about what is done besides: if the programs that are started leave a place as it is, it is as it was,
and the files are still sound. What is done to files one by one leaves all directories
(`untouched_makeDirectory`, `untouched_write`, `untouched_removeFile`).
-/

namespace Formulary

/-- A program that was started leaves a place as it is, if it found this there. -/
def Launch.Leaves (launch : Launcher) (l : Location) (held : Option Node) (x : Launch) : Prop :=
  ∀ process, launch x.command x.site = .ok process → x.site.files.get? l = held →
    ∀ time, (process.after time).files.get? l = held

/-- Between two worlds a place is left as it is, if the programs that are started leave it. -/
structure Untouched (launch : Launcher) (l : Location) (held : Option Node) (w w' : World) :
    Prop where
  started : w.started <+: w'.started
  sound : w.files.Sound → w'.files.Sound
  left : (∀ x ∈ w'.started, x.Leaves launch l held) → w.files.Sound → w.files.get? l = held →
    w'.files.get? l = held

variable {launch : Launcher} {l : Location} {held : Option Node} {w w' w'' : World}

namespace Untouched

theorem of_files_eq (hstarted : w'.started = w.started) (hfiles : w'.files = w.files) :
    Untouched launch l held w w' :=
  ⟨hstarted ▸ List.prefix_rfl, fun hsound => hfiles ▸ hsound, fun _ _ hheld => hfiles ▸ hheld⟩

theorem refl (w : World) : Untouched launch l held w w := .of_files_eq rfl rfl

theorem trans (h : Untouched launch l held w w') (h' : Untouched launch l held w' w'') :
    Untouched launch l held w w'' where
  started := h.started.trans h'.started
  sound := h'.sound ∘ h.sound
  left hleaves hsound hheld := h'.left hleaves (h.sound hsound)
    (h.left (fun x hx => hleaves x (h'.started.subset hx)) hsound hheld)

theorem onward : Onward (Untouched launch l held) := ⟨refl, trans⟩

end Untouched

theorem untouched_supervise (hlaunch : launch.Sound) (c : Command) (timeout : Millis) :
    (supervise launch c timeout).Keeps (Untouched launch l held) := by
  intro w
  rcases supervised launch c timeout w with ⟨hsame, -⟩ | ⟨process, time, hc, hstarted, -, hfiles⟩
  · rw [hsame]
    exact .refl w
  · refine ⟨hstarted ▸ List.prefix_append _ _, sound_supervise hlaunch c timeout,
      fun hleaves _ hheld => ?_⟩
    rw [hfiles]
    exact hleaves ⟨c, w.site⟩ (by simp [hstarted]) process hc hheld time

/-! ### Directories -/

theorem untouched_change {f : Files → Location → Except Fault Files}
    (h : ∀ files, f w.files w.here = .ok files → w.files.Sound →
      files.Sound ∧ (w.files.get? l = held → files.get? l = held)) :
    Untouched launch l held w (outcome (Act.change f) w).2 := by
  rw [outcome_change]
  split
  · next files hfiles =>
    exact ⟨List.prefix_rfl, fun hsound => (h files hfiles hsound).1,
      fun _ hsound => (h files hfiles hsound).2⟩
  · exact .refl w

/-! To make a directory, to write a file and to remove one leaves every directory. -/

theorem untouched_makeDirectory (p : Path) :
    (Disk.makeDirectory p).Keeps (Untouched launch l (some .directory)) := fun _ =>
  untouched_change fun _ hmade hsound =>
    ⟨Files.makeDirectory_sound hsound hmade, Files.makeDirectory_kept hmade l _⟩

theorem untouched_write (p : Path) (bytes : Bytes) :
    (Disk.write p bytes).Keeps (Untouched launch l (some .directory)) := fun _ =>
  untouched_change fun _ hwritten hsound =>
    have h := Files.written_of_write hwritten
    ⟨h.sound hsound, h.back.directory l⟩

theorem untouched_removeFile (p : Path) :
    (Disk.removeFile p).Keeps (Untouched launch l (some .directory)) := fun w =>
  untouched_change fun files hremoved hsound => by
    refine ⟨Files.removeFile_sound hsound hremoved, fun hheld => ?_⟩
    obtain ⟨⟨m, node⟩, hfound, hremoved⟩ := bind_eq_ok.1 hremoved
    obtain ⟨-, hm⟩ := Files.findHere_eq_ok hfound
    dsimp only at hremoved
    split at hremoved
    · cases hremoved
    next hnode =>
    cases hremoved
    have hdir : w.files.get? m ≠ some .directory := by
      rw [hm]
      rintro ⟨⟩
      exact hnode rfl
    rw [Files.get?_remove_file hsound hdir, if_neg, hheld]
    rintro rfl
    exact hdir hheld

end Formulary
