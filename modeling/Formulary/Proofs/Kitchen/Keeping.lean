import Formulary.Proofs.Fetch.Downloads
import Formulary.Proofs.Kitchen.Courses
import Formulary.Proofs.Machine.Alike

/-!
# What a run keeps

A run makes directories, writes files and runs programs, and around that it makes temporary
directories, and downloads. What each of these steps keeps, step by step, every part of it keeps: the
toolchain, the steps after the installation, the assertions, and a fetch in the usual way.
-/

namespace Formulary

/-- What is kept when a directory is made, a file written or a program run. -/
structure Steady (launch : Launcher) (R : World → World → Prop) : Prop extends Onward R where
  makes : ∀ p, (Disk.makeDirectory p).Keeps R
  writes : ∀ p bytes, (Disk.write p bytes).Keeps R
  runs : ∀ c timeout, (supervise launch c timeout).Keeps R

variable {launch : Launcher} {R : World → World → Prop}

theorem Steady.makesAll (h : Steady launch R) (p : Path) : (Disk.makeAll p).Keeps R :=
  makeAllDown_keeps h.refl h.makes h.trans _ p

/-! ### The toolchain -/

theorem Kitchen.steady_compile {k : Kitchen} (h : Steady k.launch R) (f : Formula) (r : Resolution)
    (dir : Path) : (k.compile f r dir).Keeps R := by
  have hR := h.toOnward
  unfold compile
  split
  -- with or without a directory to make first, the rest is the same
  on_goal 1 => refine .bind hR (.io (h.makesAll _)) fun _ => ?_
  all_goals
    refine .bind hR (.orFail (h.runs _ _) _) fun output => ?_
    split
    · exact .throw hR _
    · refine .bind hR (.lift (.ask hR _)) fun there => ?_
      split
      · exact .pure hR _
      · exact .throw hR _

/-! ### Steps after the installation -/

namespace Install

variable {s : Setting} (h : Steady s.launch R)

include h

theorem steady_generate (c : Completions) (shell : Shell) : (generate s c shell).Keeps R := by
  have hR := h.toOnward
  unfold generate
  refine .bind hR (.orFail (h.runs _ _) _) fun output => ?_
  split
  · exact .throw hR _
  · exact .throw hR _
  · split
    · exact .throw hR _
    · exact .pure hR _

theorem steady_writeScripts (list : List (Path × String)) (written : List Path) :
    (writeScripts list written).Keeps R := by
  have hR := h.toOnward
  induction list generalizing written with
  | nil => exact .pure hR _
  | cons entry rest ih =>
    obtain ⟨p, script⟩ := entry
    unfold writeScripts
    dsimp only
    split
    -- with or without directories to make first, the rest is the same
    on_goal 1 => refine .bind hR (h.makesAll _) fun prepared => ?_
    on_goal 2 => refine .bind hR (.pure hR _) fun prepared => ?_
    all_goals
      split
      · exact .pure hR _
      · refine .bind hR (h.writes _ _) fun result => ?_
        split
        · exact .pure hR _
        · exact ih _

theorem steady_perform (step : Step) (written : List Path) : (perform s step written).Keeps R := by
  have hR := h.toOnward
  obtain ⟨c⟩ := step
  have hscripts : (scripts s c).Keeps R := .mapM hR
    (fun shell => .bind hR (steady_generate h c shell) fun script => .pure hR _) _
  refine Act.Keeps.bind hR hscripts fun result => ?_
  split
  · exact .pure hR _
  · exact steady_writeScripts h _ _

/-- **Steps after the installation keep what is kept step by step.** -/
theorem steady_run (steps : List Step) : (run s steps).Keeps R := by
  have hR := h.toOnward
  suffices hall : ∀ written, (performAll s steps written).Keeps R from hall []
  induction steps with
  | nil => exact fun written => .pure hR _
  | cons step rest ih =>
    intro written
    unfold performAll
    refine .bind hR (steady_perform h step written) fun result => ?_
    split
    · exact ih _
    · exact .pure hR _

end Install

/-! ### Assertions -/

namespace Smoke

variable {program : Path} {timeout : Millis}

theorem steady_tryOne (h : Steady launch R) (hticket : ∀ w n, R w { w with tickets := n })
    (hgive : ∀ p, (Disk.removeTree p).Keeps R) (id : String) (a : Assertion) (expected : String) :
    (tryOne launch program id a expected timeout).Keeps R := by
  have hR := h.toOnward
  unfold tryOne
  refine .bind hR (.io (keeps_makeTemporary hR hticket h.makes _)) fun scratch => ?_
  refine .bind hR (.lift (h.runs _ _)) fun result => .bind hR (.lift (hgive _)) fun _ => ?_
  split
  · exact .pure hR _
  · split
    · exact .throw hR _
    · exact .pure hR _

end Smoke

/-! ### A fetch in the usual way -/

namespace Fetch

variable (h : Steady launch R) (hremove : ∀ p, (Disk.removeFile p).Keeps R)

include h

theorem steady_runHelper (c : Command) (purpose : String) (timeout : Millis) :
    (runHelper launch c purpose timeout).Keeps R := by
  have hR := h.toOnward
  unfold runHelper
  refine .bind hR (.orFail (h.runs _ _) _) fun output => ?_
  split
  · exact .throw hR _
  · exact .throw hR _
  · split
    · exact .pure hR _
    · exact .throw hR _

omit h in
theorem steady_mismatch (hR : Onward R) (p : Path) (checksum : Checksum) :
    (mismatch? p checksum).Keeps R := by
  cases checksum with
  | placeholder text => exact .pure hR _
  | pinned algorithm value => exact .bind hR (.ask hR _) fun actual => .pure hR _

include hremove

omit h in
theorem steady_useCached (hR : Onward R) (cache : Path) (a : Archive) :
    (useCached cache a).Keeps R := by
  unfold useCached
  refine .bind hR (.lift (.ask hR _)) fun there => ?_
  split
  · refine .bind hR (.io (steady_mismatch hR _ _)) fun found => ?_
    split
    · exact .pure hR _
    · exact .bind hR (.io (hremove _)) fun _ => .pure hR _
  · exact .pure hR _

omit h in
theorem steady_settle (hR : Onward R) (hrename : ∀ p q, (Disk.rename p q).Keeps R) (cache : Path)
    (a : Archive) : (settle cache a).Keeps R := by
  unfold settle
  refine .bind hR (.io (steady_mismatch hR _ _)) fun found => ?_
  split
  · exact .bind hR (.io (hremove _)) fun _ => .throw hR _
  · exact .bind hR (.io (hrename _ _)) fun _ => .pure hR _

theorem steady_downloadAfresh (cache : Path) (a : Archive) (timeout : Millis)
    (hsettle : (settle cache a).Keeps R) : (downloadAfresh launch cache a timeout).Keeps R := by
  have hR := h.toOnward
  unfold downloadAfresh downloadFile
  exact .bind hR (.tryCatch hR (.bind hR (steady_runHelper h _ _ _) fun _ => .pure hR _)
    fun e => .bind hR (.lift (hremove _)) fun _ => .throw hR e) fun _ => hsettle

/-- **A fetch in the usual way keeps what is kept step by step.** -/
theorem steady_standard (cache : Path) (source : SourceRef) (target : Path) (timeout : Millis)
    (hsettle : ∀ a, source = .archive a → (settle cache a).Keeps R) :
    (standard launch cache source target timeout).Keeps R := by
  have hR := h.toOnward
  unfold standard
  cases source with
  | archive a =>
    have hdownload : (download launch cache a timeout).Keeps R := by
      unfold download
      refine .bind hR (.io (h.makesAll _)) fun _ =>
        .bind hR (steady_useCached hremove hR cache a) fun used => ?_
      split
      · exact .pure hR _
      · exact steady_downloadAfresh h hremove cache a timeout (hsettle a rfl)
    have hextract : ∀ archive name target, (extract launch archive name target timeout).Keeps R := by
      intro archive name target
      unfold extract
      split
      · exact .throw hR _
      · exact .bind hR (steady_runHelper h _ _ _) fun _ => .pure hR _
    have honly : ∀ dir, (onlyDirectory? dir).Keeps R := by
      intro dir
      unfold onlyDirectory?
      refine .bind hR (.io (.ask hR _)) fun listing => ?_
      split
      · exact .pure hR _
      · exact .pure hR _
    exact .bind hR hdownload fun cached => .bind hR (.io (h.makesAll _)) fun _ =>
      .bind hR (hextract _ _ _) fun _ => .bind hR (honly _) fun _ => .pure hR _
  | repository r => exact .bind hR (steady_runHelper h _ _ _) fun _ => .pure hR _

end Fetch

/-! ### Stages -/

namespace Kitchen

variable {k : Kitchen} {f : Formula} {d : Descriptor} {c : Context} {r : Resolution}

theorem steady_enterBuild (hR : Onward R) (hticket : ∀ w n, R w { w with tickets := n })
    (hmake : ∀ p, (Disk.makeDirectory p).Keeps R) : (k.enterBuild d).Keeps R := by
  unfold enterBuild
  refine .bind hR (fun w => ?_) fun _ => .bind hR hR.refl fun _ =>
    .orFail (keeps_makeTemporary hR hticket hmake _) _
  rw [attempted_mk]
  unfold checkDependencies
  rw [outcome_bind]
  split <;> exact hR.refl w

theorem steady_build (h : Steady k.launch R) (hticket : ∀ w n, R w { w with tickets := n })
    (hfetch : ∀ dir, (k.fetcher d.source dir k.settings.timeout).Keeps R) (f : Formula)
    (r : Resolution) (s : Session) (w : World) : R w (outcomeWith (k.build f d r) s w).2.2 := by
  have hR := h.toOnward
  rw [outcomeWith_build_world]
  exact Attempt.Keeps.bind hR (.bind hR (steady_enterBuild hR hticket h.makes) hfetch)
    (steady_compile h f r) w

theorem steady_postInstall (h : Steady k.launch R) (f : Formula) (r : Resolution) (s : Session)
    (w : World) : R w (outcomeWith (k.postInstall f r) s w).2.2 :=
  Install.steady_run (s := {
    launch := k.launch, root := r.root, binary := f.binaryName
    timeout := k.settings.testTimeout }) h f.postInstall w

/-- **What is kept step by step is kept up to each stage that a run comes to.** -/
theorem Comes.keeps (h : Steady k.launch R) (hticket : ∀ w n, R w { w with tickets := n })
    (hlook : ∀ w, R w w.looked) (hfetch : ∀ dir, (k.fetcher d.source dir k.settings.timeout).Keeps R)
    {w u : World} {stage : Stage} {s : Session} (hcomes : Comes k f d c w r stage s u) : R w u := by
  induction hcomes with
  | build _ _ => exact hlook w
  | @postInstall u v s t _ hgot ih =>
    have hleft := steady_build h hticket hfetch f r s u.looked
    rw [hgot.given] at hleft
    exact h.trans ih (h.trans (hlook u) hleft)
  | @verify u v s t _ hgot ih =>
    have hleft := steady_postInstall h f r s u.looked
    rw [hgot.given] at hleft
    exact h.trans ih (h.trans (hlook u) hleft)

end Kitchen

/-! ### What any run leaves -/

theorem Abides.onward : Onward Abides := ⟨Abides.refl, Abides.trans⟩

theorem abides_supervise (launch : Launcher) (c : Command) (timeout : Millis) :
    (supervise launch c timeout).Keeps Abides := by
  intro w
  unfold supervise
  rw [outcome_bind, outcome_get]
  cases h : launch c w.site with
  | error e => exact .refl w
  | ok process =>
    have hwait : Abides (w.begun c) (outcome ((process.watched w.clock).wait timeout
        ((process.watched w.clock).enoughPasses timeout)) (w.begun c)).2 :=
      keeps_wait Abides.onward (fun _ _ => ⟨rfl, rfl, rfl, Nat.le_refl _⟩)
        (fun _ _ hlooks => ⟨rfl, rfl, rfl, hlooks⟩) process w.clock timeout _ (w.begun c)
    exact ⟨hwait.cwd, hwait.env, hwait.stopRequested, hwait.looks⟩

/-- **Whatever a run does, where it is, what its environment says and when it is to stop stay the
same.** -/
theorem steady_abides (launch : Launcher) : Steady launch Abides where
  toOnward := Abides.onward
  makes _ w := (onFiles_change _ w).abides
  writes _ _ w := (onFiles_change _ w).abides
  runs := abides_supervise launch

theorem abides_ticket (w : World) (n : Nat) : Abides w { w with tickets := n } :=
  ⟨rfl, rfl, rfl, Nat.le_refl _⟩

theorem Abides.going {w w' : World} (h : Abides w w') (hgoing : ∀ n, w.stopRequested n = false) :
    ∀ n, w'.stopRequested n = false := by
  rw [h.stopRequested]
  exact hgoing

theorem Kitchen.Comes.abides {settings : Settings} {f : Formula} {d : Descriptor} {c : Context}
    {r : Resolution} {w u : World} {stage : Stage} {s : Session}
    (h : Comes (.standard settings launch) f d c w r stage s u) : Abides w u := by
  have hsteady := steady_abides launch
  have hremove : ∀ p, (Disk.removeFile p).Keeps Abides := fun _ w => (onFiles_change _ w).abides
  refine h.keeps hsteady abides_ticket (fun w => ⟨rfl, rfl, rfl, Nat.le_succ _⟩) fun dir => ?_
  refine Fetch.steady_standard hsteady hremove _ _ _ _ fun a _ => ?_
  exact Fetch.steady_settle hremove Abides.onward (fun _ _ w => (onFiles_change _ w).abides) _ _

end Formulary
