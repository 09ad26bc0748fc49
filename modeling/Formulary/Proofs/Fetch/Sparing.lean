import Formulary.Proofs.Fetch.Names
import Formulary.Proofs.Kitchen.Keeping
import Formulary.Proofs.Machine.Renaming
import Formulary.Proofs.Machine.Untouched

/-!
# Directories that a fetch leaves alone

Of what a fetch does by itself only the renaming of a download could change a directory: one that has
been put where the download should be. It cannot if the download has been verified, nor if no directory
on the way has a name of the archive in the cache; then a fetch leaves alone whatever its programs do
(`untouched_standard`).
-/

namespace Formulary

/-- Everything that is done by itself leaves a directory, and programs do if they leave it. -/
theorem steady_untouched {launch : Launcher} (h : launch.Sound) (l : Location) :
    Steady launch (Untouched launch l (some .directory)) where
  toOnward := Untouched.onward
  makes := untouched_makeDirectory
  writes := untouched_write
  runs := untouched_supervise h

namespace Fetch

variable {launch : Launcher} {l : Location}

/-- An archive is verified, or no name of it in the cache is on the way to a place. -/
def Apart (a : Archive) (l : Location) : Prop :=
  a.checksum.isPinned = true ∨ (cacheName a ++ ".tmp" ∉ l ∧ cacheName a ∉ l)

theorem untouched_without (p : Path) (w : World) :
    Untouched launch l (some .directory) w (without p w) := by
  unfold without
  exact untouched_removeFile p w

theorem untouched_settle {url declared : String} (h : Apart (declaring url declared) l)
    (cache : Path) :
    (settle cache (declaring url declared)).Keeps (Untouched launch l (some .directory)) := by
  intro w
  have hpending := properName_pending url declared
  have hcached := properName_cached url declared
  have hne := pending_ne (declaring url declared)
  have hsettled := settled_settle cache (declaring url declared) w
  generalize attempted (settle cache (declaring url declared)) w = r at hsettled
  cases hsettled with
  | unreadable | unplaced => exact .refl w
  | mismatched => exact untouched_without _ w
  | placed hchecked hrenamed =>
    obtain ⟨x, d, held, hrenaming⟩ := Files.renaming_of_rename hpending hcached hne hrenamed
    refine ⟨List.prefix_rfl, hrenaming.sound hne, fun _ hsound hheld =>
      hrenaming.directory hne hsound hheld (h.imp_left fun hpinned => ?_)⟩
    -- what has been verified is no directory
    dsimp only at hpinned hchecked
    cases hchecksum : Checksum.parse declared with
    | placeholder text =>
      rw [hchecksum] at hpinned
      cases hpinned
    | pinned algorithm value =>
      rw [hchecksum] at hchecked
      obtain ⟨p, node, hfind, hnode, -⟩ := hasDigest_of_mismatch hchecked
      exact hrenaming.held_ne hpending hfind hnode

/-- **A fetch in the usual way leaves a directory alone, if its programs do.** -/
theorem untouched_standard (hlaunch : launch.Sound) (cache : Path) {source : SourceRef}
    (hsource : ∀ a, source = .archive a →
      ∃ url declared, a = declaring url declared ∧ Apart a l)
    (target : Path) (timeout : Millis) :
    (standard launch cache source target timeout).Keeps (Untouched launch l (some .directory)) := by
  refine steady_standard (steady_untouched hlaunch l) untouched_removeFile _ _ _ _ fun a ha => ?_
  obtain ⟨url, declared, rfl, hapart⟩ := hsource a ha
  exact untouched_settle hapart cache

end Fetch

end Formulary
