import Formulary.Proofs.Kitchen.Courses
import Formulary.Proofs.Kitchen.Gates

/-!
# Causes of failed builds

What a source that is fetched in the usual way can fail with (`standard_ends`), and what the toolchain
can (`compile_fails`). Neither of them is a refusal for the checksum, so a build that ends with one was
refused by the policy: `refused_of_unverified`.
-/

namespace Formulary

/-! ### Failures of fetching -/

/-- What a fetch in the usual way can fail with. -/
inductive Failure.OfFetch : Failure → Prop
  | io (detail : String) : OfFetch (.io detail)
  | download (detail : String) : OfFetch (.downloadFailed detail)
  | mismatch (expected actual : String) : OfFetch (.checksumMismatch expected actual)
  | cancelled (activity : String) : OfFetch (.cancelled activity)

namespace Fetch

variable (launch : Launcher) (cache : Path) (timeout : Millis)

theorem runHelper_ends (c : Command) (purpose : String) :
    (runHelper launch c purpose timeout).Ends (fun _ => True) Failure.OfFetch := by
  unfold runHelper
  refine (Attempt.Ends.orFail _ fun _ => .download _).bind fun output _ => ?_
  split
  · exact .throw (.cancelled _)
  · exact .throw (.download _)
  · split
    · exact .pure trivial
    · exact .throw (.download _)

theorem useCached_ends (a : Archive) :
    (useCached cache a).Ends (fun _ => True) Failure.OfFetch := by
  unfold useCached
  refine (Attempt.Ends.lift _).bind fun there _ => ?_
  split
  · refine (Attempt.Ends.io _ .io).bind fun found _ => ?_
    split
    · exact .pure trivial
    · exact (Attempt.Ends.io _ .io).bind fun _ _ => .pure trivial
  · exact .pure trivial

theorem downloadAfresh_ends (a : Archive) :
    (downloadAfresh launch cache a timeout).Ends (fun _ => True) Failure.OfFetch := by
  unfold downloadAfresh downloadFile
  refine Attempt.Ends.bind (R := fun _ => True) ?_ fun _ _ => ?_
  · refine .tryCatch ((runHelper_ends launch timeout _ _).bind fun _ _ => .pure trivial)
      fun e he => ?_
    exact (Attempt.Ends.lift _).bind fun _ _ => .throw he
  · refine (Attempt.Ends.io _ .io).bind fun found _ => ?_
    split
    · exact (Attempt.Ends.io _ .io).bind fun _ _ => .throw (.mismatch _ _)
    · exact (Attempt.Ends.io _ .io).bind fun _ _ => .pure trivial

theorem extract_ends (archive : Path) (fileName : String) (target : Path) :
    (extract launch archive fileName target timeout).Ends (fun _ => True) Failure.OfFetch := by
  unfold extract
  split
  · exact .throw (.download _)
  · exact (runHelper_ends launch timeout _ _).bind fun _ _ => .pure trivial

/-- **A source that is fetched in the usual way fails because of its files or its programs.** -/
theorem standard_ends (source : SourceRef) (target : Path) :
    (standard launch cache source target timeout).Ends (fun _ => True) Failure.OfFetch := by
  unfold standard
  cases source with
  | archive a =>
    refine Attempt.Ends.bind (R := fun _ => True) ?_ fun cached _ => ?_
    · refine (Attempt.Ends.io _ .io).bind fun _ _ => (useCached_ends cache a).bind fun used _ => ?_
      split
      · exact .pure trivial
      · exact downloadAfresh_ends launch cache timeout a
    · refine (Attempt.Ends.io _ .io).bind fun _ _ =>
        (extract_ends launch timeout _ _ _).bind fun _ _ => ?_
      refine Attempt.Ends.bind (R := fun _ => True) ?_ fun _ _ => .pure trivial
      unfold onlyDirectory?
      refine (Attempt.Ends.io _ .io).bind fun listing _ => ?_
      split
      · exact .pure trivial
      · exact .pure trivial
  | repository r =>
    exact (runHelper_ends launch timeout _ _).bind fun _ _ => .pure trivial

end Fetch

/-! ### Failures of building -/

/-- What can go wrong with a source that is there. -/
inductive Failure.OfToolchain : Failure → Prop
  | io (detail : String) : OfToolchain (.io detail)
  | failed (reason : String) (code : Option Int) (output : String) :
    OfToolchain (.buildFailed reason code output)
  | cancelled : OfToolchain (.cancelled "build")

def Failure.Unverified (e : Failure) : Prop := ∃ url text, e = .unverifiedChecksum url text

theorem Failure.unverified_iff (e : Failure) : e.Unverified ↔ e.reasonCode = 3 := by
  cases e <;> simp [Unverified, reasonCode]

theorem Failure.OfFetch.not_unverified {e : Failure} (h : e.OfFetch) : ¬ e.Unverified := by
  cases h <;> simp [Unverified]

namespace Kitchen

variable {k : Kitchen} {f : Formula} {d : Descriptor} {c : Context} {r : Resolution} {w : World}

theorem ofToolchain_of_failure {program : String} {timeout : Millis} {o : Output} {e : Failure}
    (h : toolchainFailure? program timeout o = some e) : e.OfToolchain := by
  unfold toolchainFailure? at h
  split at h
  · cases h
    exact .cancelled
  · cases h
    exact .failed _ _ _
  · split at h
    · cases h
    · cases h
      exact .failed _ _ _

/-- **A source that is there is not refused, and not fetched again.** -/
theorem compile_fails (k : Kitchen) (f : Formula) (r : Resolution) (dir : Path) :
    (k.compile f r dir).Ends (fun _ => True) Failure.OfToolchain := by
  rw [compile_eq]
  unfold makeBinDir compileInto
  refine Attempt.Ends.bind (R := fun _ => True) ?_ fun _ _ => ?_
  · split
    · exact .io _ .io
    · exact .pure trivial
  · refine (Attempt.Ends.orFail _ fun _ => .failed _ _ _).bind fun output _ => ?_
    split
    · next e he => exact .throw (ofToolchain_of_failure he)
    · refine (Attempt.Ends.lift _).bind fun there _ => ?_
      split
      · exact .pure trivial
      · exact .throw (.failed _ _ _)

theorem build_of_decided {gates : List Gate} {result : Except Failure Path} {v : World}
    (h : Decided k f d r w gates result v) (s : Session) :
    (outcomeWith (k.build f d r) s w).1 = result ∧ (outcomeWith (k.build f d r) s w).2.2 = v ∧
      (k.gatedBuild f d r).gates w = gates := by
  have hrun := run_of_decided h
  have hattempted := congrArg Prod.snd hrun
  change attempted (k.gatedBuild f d r).attempt w = (result, v) at hattempted
  rw [attempt_gatedBuild] at hattempted
  rw [outcomeWith_build, outcomeWith_build_world, hattempted]
  exact ⟨rfl, rfl, congrArg Prod.fst hrun⟩

theorem exists_decided_build (k : Kitchen) (f : Formula) (d : Descriptor) (r : Resolution)
    (s : Session) (w : World) :
    ∃ gates, Decided k f d r w gates (outcomeWith (k.build f d r) s w).1
      (outcomeWith (k.build f d r) s w).2.2 := by
  obtain ⟨gates, result, v, h⟩ := exists_decided k f d r w
  obtain ⟨rfl, rfl, -⟩ := build_of_decided h s
  exact ⟨gates, h⟩

theorem checkSource_eq_error_iff {s : Settings} {e : Failure} :
    s.checkSource d = .error e ↔ ∃ a, d.source = .archive a ∧ a.checksum.isPinned = false ∧
      s.allowUnverified = false ∧ e = .unverifiedChecksum a.url a.checksum.display := by
  unfold Settings.checkSource
  cases d.source with
  | repository r => simp
  | archive a =>
    dsimp only
    split
    · next h =>
      refine iff_of_false (by simp) ?_
      rintro ⟨a', ha, hpinned, hallowed, -⟩
      cases ha
      simp [hpinned, hallowed] at h
    · next h =>
      simp only [Bool.not_eq_true, Bool.or_eq_false_iff] at h
      constructor
      · rintro ⟨⟩
        exact ⟨a, rfl, h.1, h.2, rfl⟩
      · rintro ⟨a', ha, -, -, rfl⟩
        cases ha
        rfl

/-- **A build is refused for its checksum by the policy and by nothing else**, if its fetcher does
not do so. -/
theorem refused_of_unverified
    (hfetcher : ∀ source target timeout, (k.fetcher source target timeout).Ends (fun _ => True)
      fun e => ¬ e.Unverified)
    {s : Session} {e : Failure} (h : (outcomeWith (k.build f d r) s w).1 = .error e)
    (he : e.Unverified) : k.settings.checkSource d = .error e := by
  obtain ⟨gates, hdecided⟩ := exists_decided_build k f d r s w
  obtain ⟨url, text, rfl⟩ := he
  generalize (outcomeWith (k.build f d r) s w).2.2 = v at hdecided
  rw [h] at hdecided
  cases hdecided with
  | refused _ hpolicy => exact hpolicy
  | unfetched _ hfetch =>
    exact absurd ⟨url, text, rfl⟩ ((hfetcher _ _ _ _).2 _ (congrArg Prod.fst hfetch))

end Kitchen

end Formulary
