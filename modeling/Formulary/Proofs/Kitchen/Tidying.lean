import Formulary.Proofs.Descriptor
import Formulary.Proofs.Fetch.Sparing
import Formulary.Proofs.Kitchen.Gates
import Formulary.Proofs.Kitchen.Keeping
import Formulary.Proofs.Kitchen.Order
import Formulary.Proofs.Smoke.Scratches

/-!
# What a run leaves of its temporary directories

A run makes a temporary directory for its build, just if the gates of the build admit it, and one for
each assertion that it comes to. The session remembers the one of the build from before the fetch on,
so at the end of the run, whichever stage that is in, it is given up or stays (`Tidy`); those of
assertions are given up right after their programs.
-/

namespace Formulary

/-- Files that were sound still are. -/
def SoundKept (w w' : World) : Prop := w.files.Sound → w'.files.Sound

theorem SoundKept.onward : Onward SoundKept := ⟨fun _ => id, fun h h' => h' ∘ h⟩

theorem steady_sound {launch : Launcher} (h : launch.Sound) : Steady launch SoundKept where
  toOnward := SoundKept.onward
  makes p w := ((steady_untouched h []).makes p w).sound
  writes p bytes w := ((steady_untouched h []).writes p bytes w).sound
  runs c timeout w := ((steady_untouched h []).runs c timeout w).sound

namespace Kitchen

/-! ### The directories -/

section Directories

variable (k : Kitchen) (f : Formula) (d : Descriptor) (c : Context) (w : World)

/-- The temporary directory of a run's build: its path, its place, and the world in which it is
there. -/
structure BuildDir (dir : Path) (l : Location) (v : World) : Prop where
  enters : Enters k f d c w .build
  admits : k.Admits d w
  made : Disk.Made "kettle-build-" w.looked.looked dir l v

/-- A run comes to the trial of an assertion. -/
inductive Tries (r : Resolution) (t : Smoke.Trial) : Prop
  | intro {s : Session} {u : World} (hcomes : Comes k f d c w r .verify s u)
    (hgoing : u.stopRequested u.looks = false)
    (htried : t ∈ Smoke.tried k.launch r.artifact k.settings.testTimeout
      (f.tests.zip r.expectations) u.looked)

/-- Nothing but the run itself removes or moves its temporary directories: what it wants to remove is
what it made, and a directory that is to stay is left alone by the fetch and by all programs. -/
structure Undisturbed : Prop where
  files : w.files.Sound
  launch : k.launch.Sound
  fetch : ∀ dir, (k.fetcher d.source dir k.settings.timeout).Keeps SoundKept
  /-- After its program the directory of an assertion is still where it was made. -/
  scratches : ∀ r t, Tries k f d c w r t → t.Returns k.launch r.artifact k.settings.testTimeout
  /-- So is that of the build after the last stage, if it is to go. -/
  removed : k.settings.keepBuildDir = false → ∀ dir l v, BuildDir k f d c w dir l v →
    Disk.Names (outcomeWith (k.stages f d c) {} w).2.2 dir l
  /-- If it is to stay, the fetch and every program that is started leave it as it is. -/
  kept : k.settings.keepBuildDir = true → ∀ dir l v, BuildDir k f d c w dir l v →
    (k.fetcher d.source dir k.settings.timeout).Keeps (Untouched k.launch l (some .directory)) ∧
    ∀ x ∈ (outcome (k.cook f d c) w).2.started, x.Leaves k.launch l (some .directory)

/-- What a run leaves of the temporary directories that it makes. -/
structure Tidy : Prop where
  /-- If it can be made, there is one for the build just if the gates of the build admit it. -/
  built : (∃ dir, (outcome (Disk.makeTemporary "kettle-build-") w.looked.looked).1 = .ok dir) →
    ((∃ dir l v, BuildDir k f d c w dir l v) ↔
      Stage.build ∈ (outcome (k.cook f d c) w).1.stages.map StageRecord.stage ∧ k.Admits d w)
  /-- If there is none, the run has changed no files at all. -/
  unbuilt : (¬ ∃ dir l v, BuildDir k f d c w dir l v) →
    (outcome (k.cook f d c) w).2.files = w.files
  /-- It is gone at the end. -/
  removed : k.settings.keepBuildDir = false → ∀ dir l v, BuildDir k f d c w dir l v →
    ∀ m, l <+: m → (outcome (k.cook f d c) w).2.files.get? m = none
  /-- Or it is still there, if it is to stay. -/
  kept : k.settings.keepBuildDir = true → ∀ dir l v, BuildDir k f d c w dir l v →
    (outcome (k.cook f d c) w).2.files.get? l = some .directory
  /-- The directory of an assertion is gone after its trial, and at the end as well, unless a program
  puts something in its place. -/
  scratches : ∀ r t, Tries k f d c w r t →
    ∀ scratch l v, Disk.Made ".tmp" t.world scratch l v →
      (∀ m, l <+: m →
        (t.left k.launch r.artifact k.settings.testTimeout).files.get? m = none) ∧
      ((∀ x ∈ (outcome (k.cook f d c) w).2.started, x.Leaves k.launch l none) →
        ∀ m, l <+: m → (outcome (k.cook f d c) w).2.files.get? m = none)

end Directories

variable {k : Kitchen} {f : Formula} {d : Descriptor} {c : Context} {w : World} {r : Resolution}

/-! ### What holds from the build on -/

section Holding

variable {I : Session → World → Prop}

/-- What an action leaves in a stage that does not let a run go on. -/
theorem Fell.holds {α : Type} {action : Cooking (Except Failure α)} {stage : Stage}
    {records : List StageRecord} {s t : Session} {u v : World} {p : Pipeline}
    (h : Fell action stage records s u p t v) (hstopped : I s u.looked)
    (hdone : u.stopRequested u.looks = false →
      I (outcomeWith action s u.looked).2.1 (outcomeWith action s u.looked).2.2) : I t v := by
  cases h with
  | stopped _ => exact hstopped
  | failed _ hgoing h =>
    have hleft := hdone hgoing
    rwa [h] at hleft

theorem Got.holds {α : Type} {action : Cooking (Except Failure α)} {a : α} {s t : Session}
    {u v : World} (h : Got action a s u t v)
    (hdone : I (outcomeWith action s u.looked).2.1 (outcomeWith action s u.looked).2.2) : I t v := by
  rwa [h.given] at hdone

variable
  (hbuild : ∀ r, I (outcomeWith (k.build f d r) {} w.looked.looked).2.1
    (outcomeWith (k.build f d r) {} w.looked.looked).2.2)
  (hlook : ∀ s u, I s u → I s u.looked)
  (hpost : ∀ r s u, I s u → I (outcomeWith (k.postInstall f r) s u).2.1
    (outcomeWith (k.postInstall f r) s u).2.2)

include hbuild hlook hpost

/-- What the build leaves, and what is kept after it, holds at every later stage. -/
theorem Comes.holds {stage : Stage} {s : Session} {u : World} (h : Comes k f d c w r stage s u)
    (hstage : stage ≠ .build) : I s u := by
  induction h with
  | build => exact absurd rfl hstage
  | postInstall h hgot =>
    cases h with
    | build => exact hgot.holds (hbuild r)
  | verify _ hgot ih => exact hgot.holds (hpost r _ _ (hlook _ _ (ih (by simp))))

/-- **What the build leaves, and what is kept after it, holds at the end of every run that enters the
build.** -/
theorem Went.holds {course : Course} {s : Session} {v : World} (h : Went k f d c w course s v)
    (henters : Enters k f d c w .build)
    (hverify : ∀ r s u, Comes k f d c w r .verify s u → u.stopRequested u.looks = false →
      I s u.looked → I (outcomeWith (k.verify f r) s u.looked).2.1
        (outcomeWith (k.verify f r) s u.looked).2.2) : I s v := by
  have hcame : ∀ {r stage s u}, Comes k f d c w r stage s u → stage ≠ .build → I s u.looked :=
    fun hcomes hstage => hlook _ _ (hcomes.holds hbuild hlook hpost hstage)
  cases h with
  | unresolved h => exact absurd henters (not_enters_build h)
  | @unbuilt r _ _ _ _ _ _ hcomes h =>
    have hgoing := hcomes.enters_iff.1 henters
    cases h with
    | stopped h => cases h.symm.trans hgoing
    | failed _ _ h =>
      cases hcomes with
      | build =>
        have hleft := hbuild r
        rwa [h] at hleft
  | incomplete _ _ hcomes h =>
    have hs := hcame hcomes (by simp)
    exact h.holds hs fun _ => hpost _ _ _ hs
  | untried _ _ _ hcomes h =>
    have hs := hcame hcomes (by simp)
    exact h.holds hs fun hgoing => hverify _ _ _ hcomes hgoing hs
  | verified _ _ _ _ hcomes h =>
    exact h.holds (hverify _ _ _ hcomes h.going (hcame hcomes (by simp)))

end Holding

/-! ### The directory of the build -/

theorem enterBuild_cases (k : Kitchen) (d : Descriptor) (w : World) :
    (k.Admits d w ∧ ∃ dir v, outcome (Disk.makeTemporary "kettle-build-") w = (.ok dir, v) ∧
      attempted (k.enterBuild d) w = (.ok dir, v)) ∨
    ∃ e v, attempted (k.enterBuild d) w = (.error e, v) ∧ v.files = w.files ∧
      (k.Admits d w → ∀ dir, (outcome (Disk.makeTemporary "kettle-build-") w).1 ≠ .ok dir) := by
  unfold enterBuild
  rw [attempted_bind]
  rcases found_or_missing d.buildDependencies w with
    hfound | ⟨before, name, after, hnames, hbefore, hname⟩
  · rw [attempted_of_found hfound]
    dsimp only
    rw [attempted_bind, attempted_mk, outcome_pure]
    cases hpolicy : k.settings.checkSource d with
    | error e =>
      refine .inr ⟨e, w, rfl, rfl, fun hadmits => ?_⟩
      cases hpolicy.symm.trans hadmits.source
    | ok _ =>
      dsimp only
      rw [attempted_makeBuildDir]
      rcases Disk.makeTemporary_cases "kettle-build-" w with
        ⟨dir, l, v, hmade⟩ | ⟨e, v, hfailed, hfiles⟩
      · rw [hmade.made]
        exact .inl ⟨⟨hfound, hpolicy⟩, dir, v, rfl, rfl⟩
      · rw [hfailed]
        exact .inr ⟨_, v, rfl, hfiles, by simp⟩
  · rw [hnames, attempted_of_missing hbefore hname]
    refine .inr ⟨_, w, rfl, rfl, fun hadmits => absurd (hadmits.dependencies name ?_) hname⟩
    rw [hnames]
    exact List.mem_append_right _ List.mem_cons_self

/-- What the session of a build remembers is the directory that it makes. -/
theorem session_build (k : Kitchen) (f : Formula) (d : Descriptor) (r : Resolution) (s : Session)
    (w : World) : (outcomeWith (k.build f d r) s w).2.1.buildDir =
      match (attempted (k.enterBuild d) w).1 with
      | .ok dir => some dir
      | .error _ => s.buildDir := by
  unfold build
  rw [outcomeWith_bind, outcomeWith_lift, outcome_run]
  rcases attempted (k.enterBuild d) w with ⟨e | dir, v⟩ <;> rfl

theorem session_verify (k : Kitchen) (f : Formula) (r : Resolution) (s : Session) (w : World) :
    (outcomeWith (k.verify f r) s w).2.1.buildDir = s.buildDir := by
  unfold verify
  rw [outcomeWith_bind, outcomeWith_lift, outcome_run]
  rcases attempted (Smoke.run k.launch r.artifact f.tests r.expectations k.settings.testTimeout) w
    with ⟨e | report, v⟩ <;> rfl

theorem BuildDir.entered {dir : Path} {l : Location} {v : World} (h : BuildDir k f d c w dir l v) :
    attempted (k.enterBuild d) w.looked.looked = (.ok dir, v) := by
  have hmade := h.made.made
  rcases enterBuild_cases k d w.looked.looked with
    ⟨-, dir', v', hmade', hentered⟩ | ⟨e, u, -, -, hnone⟩
  · obtain ⟨hsame, rfl⟩ := Prod.mk.inj (hmade'.symm.trans hmade)
    cases hsame
    exact hentered
  · exact absurd (congrArg Prod.fst hmade) (hnone ⟨h.admits.dependencies, h.admits.source⟩ dir)

theorem exists_buildDir (henters : Enters k f d c w .build) {dir : Path} {v : World}
    (h : attempted (k.enterBuild d) w.looked.looked = (.ok dir, v)) :
    ∃ dir l v, BuildDir k f d c w dir l v := by
  rcases enterBuild_cases k d w.looked.looked with
    ⟨hadmits, dir', v', hmade, -⟩ | ⟨e, u, hrefused, -, -⟩
  · obtain ⟨l, hmade⟩ := Disk.Made.of_made hmade
    exact ⟨dir', l, v', henters, ⟨hadmits.dependencies, hadmits.source⟩, hmade⟩
  · cases hrefused.symm.trans h

theorem files_of_enterBuild {e : Failure} {v : World}
    (h : attempted (k.enterBuild d) w = (.error e, v)) : v.files = w.files := by
  rcases enterBuild_cases k d w with ⟨-, dir, u, -, hentered⟩ | ⟨e', u, hrefused, hfiles, -⟩
  · cases hentered.symm.trans h
  · cases hrefused.symm.trans h
    exact hfiles

theorem outcomeWith_build_of_refused {e : Failure} {v : World}
    (h : attempted (k.enterBuild d) w = (.error e, v)) (f : Formula) (r : Resolution)
    (s : Session) : outcomeWith (k.build f d r) s w = (.error e, s, v) := by
  unfold build
  rw [outcomeWith_bind, outcomeWith_lift, outcome_run, h]
  rfl

theorem Comes.exists_buildDir {s : Session} {u : World} {stage : Stage}
    (h : Comes k f d c w r stage s u) (hstage : stage ≠ .build) :
    ∃ dir l v, BuildDir k f d c w dir l v := by
  induction h with
  | build => exact absurd rfl hstage
  | verify _ _ ih => exact ih (by simp)
  | postInstall h hgot =>
    have henters := h.enters_iff.2 hgot.going
    cases h with
    | build =>
      rcases hentered : attempted (k.enterBuild d) w.looked.looked with ⟨e | dir, v⟩
      · cases (outcomeWith_build_of_refused hentered f r {}).symm.trans hgot.given
      · exact Kitchen.exists_buildDir henters hentered

theorem BuildDir.remembered {dir : Path} {l : Location} {v : World}
    (h : BuildDir k f d c w dir l v) :
    (outcomeWith (k.stages f d c) {} w).2.1.buildDir = some dir := by
  refine (went_stages k f d c w).holds (I := fun s _ => s.buildDir = some dir) (fun r => ?_)
    (fun _ _ hs => hs) (fun r s u hs => hs) h.enters fun r s u _ _ hs => ?_
  · rw [session_build, h.entered]
  · rw [session_verify, hs]

/-! ### What is given up -/

theorem cleanUp_of_removed {s : Session} {dir : Path} {l : Location} {u : World}
    (hs : s.buildDir = some dir) (hkeep : k.settings.keepBuildDir = false)
    (hnames : Disk.Names u dir l) :
    (outcome (k.cleanUp s) u).2 = { u with files := u.files.remove l } := by
  unfold cleanUp
  rw [hs, hkeep]
  change (outcome (Disk.removeTree dir) u).2 = _
  rw [Disk.outcome_removeTree hnames]

theorem cleanUp_of_kept (hkeep : k.settings.keepBuildDir = true) (s : Session) (u : World) :
    (outcome (k.cleanUp s) u).2 = u := by
  unfold cleanUp
  rw [hkeep]
  cases s.buildDir <;> rfl

theorem cleanUp_free (s : Session) {u : World} {m : Location} (hm : u.files.get? m = none) :
    (outcome (k.cleanUp s) u).2.files.get? m = none := by
  unfold cleanUp
  cases s.buildDir with
  | none => exact hm
  | some dir =>
    dsimp only
    split
    · change (outcome (Disk.removeTree dir) u).2.files.get? m = none
      unfold Disk.removeTree
      rw [outcome_change]
      split
      · next files hremoved =>
        obtain ⟨⟨l, node⟩, -, hremoved⟩ := bind_eq_ok.1 hremoved
        dsimp only at hremoved
        split at hremoved
        · cases hremoved
          exact Files.get?_remove_of_none l hm
        · cases hremoved
      · exact hm
    · exact hm

theorem files_of_unbuilt (hnone : ¬ ∃ dir l v, BuildDir k f d c w dir l v) :
    (outcome (k.cook f d c) w).2.files = w.files := by
  have h := went_stages k f d c w
  change (outcome (k.cleanUp (outcomeWith (k.stages f d c) {} w).2.1)
    (outcomeWith (k.stages f d c) {} w).2.2).2.files = w.files
  generalize outcomeWith (k.stages f d c) {} w = ended at h
  obtain ⟨course, s, v⟩ := ended
  dsimp only at h ⊢
  have hleft : s = {} ∧ v.files = w.files := by
    cases h with
    | unresolved h =>
      exact h.holds (I := fun s v => s = {} ∧ v.files = w.files) ⟨rfl, rfl⟩ fun _ => ⟨rfl, rfl⟩
    | @unbuilt r _ _ _ _ _ _ hcomes h =>
      cases hcomes with
      | build hgoing hr =>
        refine h.holds (I := fun s v => s = {} ∧ v.files = w.files) ⟨rfl, rfl⟩ fun hgoing' => ?_
        rcases hentered : attempted (k.enterBuild d) w.looked.looked with ⟨e | dir, u⟩
        · have hfiles := files_of_enterBuild hentered
          rw [outcomeWith_build_of_refused hentered]
          exact ⟨rfl, hfiles⟩
        · exact absurd (exists_buildDir ⟨r, {}, _, .build hgoing hr, hgoing'⟩ hentered) hnone
    | incomplete _ _ hcomes | untried _ _ _ hcomes | verified _ _ _ _ hcomes =>
      exact absurd (hcomes.exists_buildDir (by simp)) hnone
  obtain ⟨rfl, hfiles⟩ := hleft
  exact hfiles

/-! ### Trials -/

theorem outcomeWith_verify_world (k : Kitchen) (f : Formula) (r : Resolution) (s : Session)
    (w : World) : (outcomeWith (k.verify f r) s w).2.2 =
      (attempted (Smoke.tryFrom k.launch r.artifact k.settings.testTimeout 0
        (f.tests.zip r.expectations)) w).2 := by
  unfold verify
  rw [outcomeWith_bind, outcomeWith_lift, outcome_run]
  unfold Smoke.run
  rw [attempted_bind]
  rcases attempted (Smoke.tryFrom k.launch r.artifact k.settings.testTimeout 0
    (f.tests.zip r.expectations)) w with ⟨e | results, v⟩ <;> rfl

theorem untouched_verify (h : Undisturbed k f d c w) {s : Session} {u : World}
    (hcomes : Comes k f d c w r .verify s u) (hgoing : u.stopRequested u.looks = false)
    (place : Location) (held : Option Node) :
    Untouched k.launch place held u.looked (outcomeWith (k.verify f r) s u.looked).2.2 ∧
      ∀ t, Tries k f d c w r t →
        Untouched k.launch place held u.looked
          (t.left k.launch r.artifact k.settings.testTimeout) ∧
        Untouched k.launch place held (t.left k.launch r.artifact k.settings.testTimeout)
          (outcomeWith (k.verify f r) s u.looked).2.2 := by
  rw [outcomeWith_verify_world]
  obtain ⟨hall, heach⟩ := Smoke.keeps_tried k.launch r.artifact k.settings.testTimeout
    (R := Untouched k.launch place held) Untouched.onward 0 (f.tests.zip r.expectations) u.looked
    fun t ht => t.untouched h.launch (h.scratches r t (.intro hcomes hgoing ht)) place held
  refine ⟨hall, fun t ht => ?_⟩
  obtain ⟨hcomes', -, ht⟩ := ht
  obtain ⟨-, -, rfl⟩ := hcomes.unique hcomes'
  exact heach t ht

/-- From its making on the directory of the build is left as it is, if the programs leave it. -/
theorem BuildDir.untouched {dir : Path} {l : Location} {v : World} (h : Undisturbed k f d c w)
    (hmade : BuildDir k f d c w dir l v)
    (hfetch : (k.fetcher d.source dir k.settings.timeout).Keeps
      (Untouched k.launch l (some .directory))) :
    Untouched k.launch l (some .directory) v (outcomeWith (k.stages f d c) {} w).2.2 := by
  have hsteady := steady_untouched h.launch l
  refine (went_stages k f d c w).holds
    (I := fun _ u => Untouched k.launch l (some .directory) v u) (fun r => ?_)
    (fun _ _ hs => hs.trans (.of_files_eq rfl rfl))
    (fun r s u hs => hs.trans (steady_postInstall hsteady f r s u)) hmade.enters
    fun r s u hcomes hgoing hs => hs.trans (untouched_verify h hcomes hgoing _ _).1
  rw [outcomeWith_build_world]
  unfold enterAndFetch
  rw [bind_assoc, attempted_bind, hmade.entered]
  exact Attempt.Keeps.bind Untouched.onward hfetch (steady_compile hsteady f r) v

theorem started_cook (k : Kitchen) (f : Formula) (d : Descriptor) (c : Context) (w : World) :
    (outcome (k.cook f d c) w).2.started = (outcomeWith (k.stages f d c) {} w).2.2.started :=
  started_cleanUp k (outcomeWith (k.stages f d c) {} w).2.1 (outcomeWith (k.stages f d c) {} w).2.2

/-! ### At the end -/

theorem exists_buildDir_iff
    (hcan : ∃ dir, (outcome (Disk.makeTemporary "kettle-build-") w.looked.looked).1 = .ok dir) :
    (∃ dir l v, BuildDir k f d c w dir l v) ↔
      Stage.build ∈ (outcome (k.cook f d c) w).1.stages.map StageRecord.stage ∧ k.Admits d w := by
  have hrecorded : Stage.build ∈ (outcome (k.cook f d c) w).1.stages.map StageRecord.stage ↔
      Enters k f d c w .build := (went_stages k f d c w).recorded_iff (by simp)
  rw [hrecorded]
  constructor
  · rintro ⟨dir, l, v, hmade⟩
    exact ⟨hmade.enters, hmade.admits⟩
  · rintro ⟨henters, hadmits⟩
    obtain ⟨dir, hdir⟩ := hcan
    obtain ⟨v, hmade⟩ := exists_outcome_eq hdir
    obtain ⟨l, hmade⟩ := Disk.Made.of_made hmade
    exact ⟨dir, l, v, henters, hadmits, hmade⟩

section Undisturbed

variable (h : Undisturbed k f d c w) {dir : Path} {l m : Location} {v : World}

include h

theorem BuildDir.removed (hmade : BuildDir k f d c w dir l v)
    (hkeep : k.settings.keepBuildDir = false) (hm : l <+: m) :
    (outcome (k.cook f d c) w).2.files.get? m = none := by
  change (outcome (k.cleanUp (outcomeWith (k.stages f d c) {} w).2.1)
    (outcomeWith (k.stages f d c) {} w).2.2).2.files.get? m = none
  rw [cleanUp_of_removed hmade.remembered hkeep (h.removed hkeep dir l v hmade)]
  dsimp only
  rw [Files.get?_remove hmade.made.ne_nil, if_pos hm]

theorem BuildDir.kept (hmade : BuildDir k f d c w dir l v)
    (hkeep : k.settings.keepBuildDir = true) :
    (outcome (k.cook f d c) w).2.files.get? l = some .directory := by
  obtain ⟨hfetch, hleaves⟩ := h.kept hkeep dir l v hmade
  rw [started_cook] at hleaves
  change (outcome (k.cleanUp (outcomeWith (k.stages f d c) {} w).2.1)
    (outcomeWith (k.stages f d c) {} w).2.2).2.files.get? l = _
  rw [cleanUp_of_kept hkeep]
  exact (hmade.untouched h hfetch).left hleaves (hmade.made.sound h.files) hmade.made.directory

/-- Where a trial left nothing there is nothing at the end, unless a program puts something there. -/
theorem Tries.free {t : Smoke.Trial} (ht : Tries k f d c w r t)
    (hleft : (t.left k.launch r.artifact k.settings.testTimeout).files.get? l = none)
    (hleaves : ∀ x ∈ (outcome (k.cook f d c) w).2.started, x.Leaves k.launch l none)
    (hm : l <+: m) : (outcome (k.cook f d c) w).2.files.get? m = none := by
  obtain ⟨hcomes, hgoing, htried⟩ := ht
  have hu : SoundKept w _ := hcomes.keeps (steady_sound h.launch) (fun _ _ => id) (fun _ => id) h.fetch
  obtain ⟨hbefore, hafter⟩ := (untouched_verify h hcomes hgoing l none).2 t
    (.intro hcomes hgoing htried)
  have hsound := hbefore.sound (hu h.files)
  have hend : (outcomeWith (k.verify f r) _ _).2.2 = (outcomeWith (k.stages f d c) {} w).2.2 :=
    congrArg Prod.snd ((went_stages k f d c w).tried hcomes hgoing).2.symm
  rw [hend] at hafter
  rw [started_cook] at hleaves
  exact cleanUp_free _ ((hafter.sound hsound).free_below (hafter.left hleaves hsound hleft) hm)

end Undisturbed

theorem tidy_of_undisturbed (h : Undisturbed k f d c w) : Tidy k f d c w where
  built := exists_buildDir_iff
  unbuilt := files_of_unbuilt
  removed hkeep _ _ _ hmade _ := hmade.removed h hkeep
  kept hkeep _ _ _ hmade := hmade.kept h hkeep
  scratches r t ht _ l _ hmade := by
    have hgone := fun m => Smoke.Trial.gone (m := m) hmade (h.scratches r t ht)
    exact ⟨hgone, fun hleaves m => ht.free h (hgone l List.prefix_rfl) hleaves⟩

/-! ### Fetches in the usual way -/

theorem declaring_of_descriptor {mode : Mode} {a : Archive} (hd : f.descriptor mode = .ok d)
    (ha : d.source = .archive a) : ∃ url declared, a = Fetch.declaring url declared := by
  have hdeclared := (Formula.descriptor_eq_ok_iff.1 hd).declared
  rw [ha] at hdeclared
  cases hdeclared with
  | archive => exact ⟨_, _, rfl⟩

/-- A fetch in the usual way leaves sound files, and directories that are apart from its archive. -/
theorem fetch_spares {mode : Mode} (hd : f.descriptor mode = .ok d) {launch : Launcher}
    (hlaunch : launch.Sound) (cache target : Path) (timeout : Millis) :
    (Fetch.standard launch cache d.source target timeout).Keeps SoundKept ∧
    ∀ l, (∀ a, d.source = .archive a → Fetch.Apart a l) →
      (Fetch.standard launch cache d.source target timeout).Keeps
        (Untouched launch l (some .directory)) := by
  have hspares : ∀ l, (∀ a, d.source = .archive a → Fetch.Apart a l) →
      (Fetch.standard launch cache d.source target timeout).Keeps
        (Untouched launch l (some .directory)) := fun l hapart =>
    Fetch.untouched_standard hlaunch cache (fun a ha => by
      obtain ⟨url, declared, rfl⟩ := declaring_of_descriptor hd ha
      exact ⟨url, declared, rfl, hapart _ ha⟩) target timeout
  -- the root of all files is apart from everything
  exact ⟨fun w => (hspares [] (fun _ _ => .inr ⟨by simp, by simp⟩) w).sound, hspares⟩

/-- **A run leaves no temporary directory behind, but for the one of its build if that is to stay.**
This is so wherever the run ends, and whatever fetches its source, as long as nothing else removes or
moves these directories; a fetch in the usual way does not. -/
theorem tidied :
    (∀ k f d c w, Undisturbed k f d c w → Tidy k f d c w) ∧
    ∀ (f : Formula) (mode : Mode) (d : Descriptor), f.descriptor mode = .ok d →
      ∀ launch : Launcher, launch.Sound → ∀ cache target timeout,
        (Fetch.standard launch cache d.source target timeout).Keeps SoundKept ∧
        ∀ l, (∀ a, d.source = .archive a → Fetch.Apart a l) →
          (Fetch.standard launch cache d.source target timeout).Keeps
            (Untouched launch l (some .directory)) :=
  ⟨fun _ _ _ _ _ => tidy_of_undisturbed,
    fun _ _ _ hd _ hlaunch cache target timeout => fetch_spares hd hlaunch cache target timeout⟩

/-! ### A kitchen without work -/

/-- The idle kitchen, which may keep the directory of a build. -/
def idling (keepBuildDir : Bool) : Kitchen :=
  { idle with settings := { idle.settings with keepBuildDir } }

def furnished : World where
  files := {
    entries := [(["tmp"], .directory), (["p"], .directory), (["p", "bin"], .directory),
      (["p", "bin", "demo"], .ofData [] true)] }

theorem undisturbed_idling (keep : Bool) :
    Undisturbed (idling keep) Smoke.greeterFormula .cloned .first furnished := by
  have hd : Smoke.greeterFormula.descriptor .head = .ok .cloned := Formula.descriptor_cloned
  have hlaunch : Launcher.idle.Sound := Launcher.sound_printing _ _
  have hsame : ∀ c site process, Launcher.idle c site = .ok process →
      ∀ time, (process.after time).files = site.files :=
    fun _ _ _ => Launcher.files_of_printing
  have hspares : Launcher.idle.Spares := fun c site process h time =>
    hsame c site process h time ▸ (Files.Kept.refl site.files).passable
  have hfetch := fetch_spares hd hlaunch "/cache"
  refine {
    files := Files.sound_of_entries (by decide) (by simp [furnished, Node.ofData])
    launch := hlaunch
    fetch := fun dir => (hfetch dir _).1
    scratches := fun _ t _ => Smoke.returns_of_spares hspares t
    removed := fun hkeep dir l v hmade => ?_
    kept := fun _ dir l _ _ => ⟨(hfetch dir _).2 l (fun a ha => by cases ha), fun x _ _ h hheld time =>
      (congrArg (Files.get? · l) (hsame x.command x.site _ h time)).trans hheld⟩ }
  have hdir : (outcome (Disk.makeTemporary "kettle-build-") furnished.looked.looked).1 =
      .ok "/tmp/kettle-build-000000" := by decide +kernel
  have hplace : furnished.looked.looked.files.locateNew furnished.looked.looked.here
      "/tmp/kettle-build-000000" = .ok ["tmp", "kettle-build-000000"] := by decide +kernel
  obtain rfl : dir = "/tmp/kettle-build-000000" :=
    Except.ok.inj ((congrArg Prod.fst hmade.made.made).symm.trans hdir)
  obtain rfl : l = ["tmp", "kettle-build-000000"] :=
    Except.ok.inj (hmade.made.located.symm.trans hplace)
  cases keep with
  | true => cases hkeep
  | false => exact ⟨.directory, by decide +kernel⟩

/-- Though the program says nothing of what it should, nothing is left of the three directories that it
was tried in, nor of the one of the build, unless that is to stay. -/
theorem tidied_idling :
    (∀ keep, Tidy (idling keep) Smoke.greeterFormula .cloned .first furnished) ∧
    ∀ keep, let (report, v) := outcome ((idling keep).cook Smoke.greeterFormula .cloned
        .first) furnished
      report.exitCode = 58 ∧ v.tickets = 4 ∧
      (v.files.get? ["tmp", "kettle-build-000000"] = if keep then some .directory else none) ∧
      ∀ name ∈ [".tmp000001", ".tmp000002", ".tmp000003"], v.files.get? ["tmp", name] = none :=
  ⟨fun keep => tidied.1 _ _ _ _ _ (undisturbed_idling keep), by decide +kernel⟩

end Kitchen

end Formulary
