import Formulary.Proofs.Fetch.Unpacking
import Formulary.Proofs.Machine.Written

/-!
# How a download goes

All that a download can come to is said once: `went_download`. Either the files refuse something, or
the cached file can be used, or the downloading program is asked for (`Afresh`), and then it fails,
or what it left is rejected, or it is put in its place in the cache.
-/

namespace Formulary

/-- A failure of an operation on files. -/
def Failure.OfFiles (e : Failure) : Prop := ∃ detail, e = .io detail

namespace Fetch

variable {launch : Launcher} {cache : Path} {a : Archive} {timeout : Millis} {w : World}

/-! ### Helping programs -/

/-- A supervised program ends well. -/
def EndsWell (launch : Launcher) (c : Command) (timeout : Millis) (w : World) : Prop :=
  ∃ o, (outcome (supervise launch c timeout) w).1 = .ok o ∧ o.success = true

/-- How a helping program is told to have failed if it cannot be started. -/
def Refused (launch : Launcher) (c : Command) (w : World) (e : Failure) : Prop :=
  ∀ fault, launch c w.site = .error fault →
    e = .downloadFailed (c.program ++ " failed: " ++ fault.message)

theorem runHelper_cases (launch : Launcher) (c : Command) (purpose : String) (timeout : Millis)
    (w : World) :
    (EndsWell launch c timeout w ∧
      ∃ o, attempted (runHelper launch c purpose timeout) w =
        (.ok o, (outcome (supervise launch c timeout) w).2)) ∨
    (¬ EndsWell launch c timeout w ∧
      ∃ e, ¬ e.OfFiles ∧ Refused launch c w e ∧
        attempted (runHelper launch c purpose timeout) w =
          (.error e, (outcome (supervise launch c timeout) w).2)) := by
  unfold runHelper
  rw [attempted_bind, attempted_orFail]
  rcases hr : outcome (supervise launch c timeout) w with ⟨fault | o, u⟩
  · refine .inr ⟨?_, _, by simp [Failure.OfFiles], ?_, rfl⟩
    · rintro ⟨o, ho, -⟩
      rw [hr] at ho
      cases ho
    · intro fault' hfault
      rw [supervise_refused hfault timeout] at hr
      cases hr
      rfl
  · have hnot : o.success = false → ¬ EndsWell launch c timeout w := by
      rintro ho ⟨o', ho', hsuccess⟩
      rw [hr] at ho'
      cases ho'
      rw [ho] at hsuccess
      cases hsuccess
    -- it was started
    have hrefused : ∀ e, Refused launch c w e := by
      intro e fault hfault
      rw [supervise_refused hfault timeout] at hr
      cases hr
    dsimp only [Except.mapError]
    cases houtcome : o.outcome with
    | cancelled =>
      exact .inr ⟨hnot (by rw [Output.success, houtcome]), _, by simp [Failure.OfFiles],
        hrefused _, rfl⟩
    | timedOut =>
      exact .inr ⟨hnot (by rw [Output.success, houtcome]), _, by simp [Failure.OfFiles],
        hrefused _, rfl⟩
    | exited status =>
      dsimp only
      by_cases hstatus : status.success = true
      · have ho : o.success = true := by rwa [Output.success, houtcome]
        rw [if_pos hstatus]
        exact .inl ⟨⟨o, by rw [hr], ho⟩, o, rfl⟩
      · rw [if_neg hstatus]
        exact .inr ⟨hnot (by rwa [Output.success, houtcome, ← Bool.not_eq_true]), _,
          by simp [Failure.OfFiles], hrefused _, rfl⟩

def downloader (cache : Path) (a : Archive) : Command where
  program := "curl"
  args := ["-fsSL", "-o", (pendingPath cache a).text, a.url]

theorem downloadFile_cases (launch : Launcher) (cache : Path) (a : Archive) (timeout : Millis)
    (w : World) :
    (EndsWell launch (downloader cache a) timeout w ∧
      attempted (downloadFile launch a.url (pendingPath cache a) timeout) w =
        (.ok (), (outcome (supervise launch (downloader cache a) timeout) w).2)) ∨
    (¬ EndsWell launch (downloader cache a) timeout w ∧
      ∃ e, ¬ e.OfFiles ∧ Refused launch (downloader cache a) w e ∧
        attempted (downloadFile launch a.url (pendingPath cache a) timeout) w =
          (.error e, (outcome (supervise launch (downloader cache a) timeout) w).2)) := by
  unfold downloadFile
  rw [attempted_bind]
  rcases runHelper_cases launch (downloader cache a) ("Failed to download " ++ a.url) timeout w with
    ⟨hend, o, h⟩ | ⟨hend, e, he, hrefused, h⟩
  · refine .inl ⟨hend, ?_⟩
    unfold downloader at h ⊢
    rw [h]
    rfl
  · refine .inr ⟨hend, e, he, hrefused, ?_⟩
    unfold downloader at h ⊢
    rw [h]

/-! ### Verification -/

section Verification

variable {algorithm : Digest.Algorithm} {value : String} {p : Path}

theorem attempted_io {α : Type} (x : Act (Except Fault α)) (w : World) :
    (∃ b, (outcome x w).1 = .ok b ∧ attempted (Attempt.io x) w = (.ok b, (outcome x w).2)) ∨
    ∃ fault, (outcome x w).1 = .error fault ∧
      attempted (Attempt.io x) w = (.error (.io fault.message), (outcome x w).2) := by
  unfold Attempt.io
  rw [attempted_orFail]
  rcases (outcome x w).1 with fault | b
  · exact .inr ⟨fault, rfl, rfl⟩
  · exact .inl ⟨b, rfl, rfl⟩

theorem mismatch_of_hasDigest (h : HasDigest w p algorithm value) :
    (outcome (mismatch? p (.pinned algorithm value)) w).1 = .ok none := by
  obtain ⟨l, node, hfind, hnode, hdigest⟩ := h
  change ((outcome (digestFile algorithm p) w).1).map
    (fun actual => if actual = value then none else some actual) = .ok none
  have hread : (outcome (digestFile algorithm p) w).1 = .ok value := by
    refine bind_eq_ok.2 ⟨(l, node), hfind, ?_⟩
    dsimp only
    rw [readings_of_ne node hnode, Digest.digestReadings_chunks, hdigest]
  rw [hread, Except.map, if_pos rfl]

/-- The cached file of an archive can be used: it has the pinned digest. -/
def Usable (cache : Path) (a : Archive) (w : World) : Prop :=
  ∃ algorithm value, a.checksum = .pinned algorithm value ∧
    HasDigest w (cachedPath cache a) algorithm value

theorem usable_iff (ha : a.checksum = .pinned algorithm value) :
    Usable cache a w ↔ HasDigest w (cachedPath cache a) algorithm value := by
  refine ⟨?_, fun h => ⟨_, _, ha, h⟩⟩
  rintro ⟨_, _, hpinned, h⟩
  cases ha.symm.trans hpinned
  exact h

/-- The world with a file removed, unless that is refused. -/
def without (p : Path) (w : World) : World := (outcome (Disk.removeFile p) w).2

theorem exists_of_hasDigest (h : HasDigest w p algorithm value) :
    w.files.exists? w.here p = true := by
  obtain ⟨l, node, hfind, -⟩ := h
  rw [Files.exists?, hfind]
  rfl

def checkCached (cache : Path) (a : Archive) : Attempt Bool := do
  match ← Attempt.io (mismatch? (cachedPath cache a) a.checksum) with
  | none => return true
  | some _ =>
    Attempt.io (Disk.removeFile (cachedPath cache a))
    return false

theorem attempted_useCached (cache : Path) (a : Archive) (w : World) :
    attempted (useCached cache a) w =
      if (a.checksum.isPinned && w.files.exists? w.here (cachedPath cache a)) = true then
        attempted (checkCached cache a) w
      else (.ok false, w) := by
  unfold useCached
  dsimp only
  rw [attempted_bind, attempted_lift]
  change attempted (if (a.checksum.isPinned &&
    w.files.exists? w.here (cachedPath cache a)) = true then _ else _) w = _
  split <;> rfl

/-- What looking at the cached file comes to: it can be used, or it cannot and may have been
removed, or the files refuse something. -/
def Looked (cache : Path) (a : Archive) (w : World) (r : Except Failure Bool × World) : Prop :=
  (Usable cache a w ∧ r = (.ok true, w)) ∨
  ∃ v, (v = w ∨ v = without (cachedPath cache a) w) ∧
    ((¬ Usable cache a w ∧ r = (.ok false, v)) ∨ ∃ e : Failure, e.OfFiles ∧ r = (.error e, v))

/-- Something is found in a cached file that does not have the pinned digest. -/
def Spoiled (cache : Path) (a : Archive) (w : World) : Prop :=
  ∃ actual, (outcome (mismatch? (cachedPath cache a) a.checksum) w).1 = .ok (some actual)

/-- All that looking at the cached file comes to. -/
inductive Checked (cache : Path) (a : Archive) (w : World) : Except Failure Bool × World → Prop
  /-- There is none, or nothing to compare it with. -/
  | absent
    (h : ¬ (a.checksum.isPinned = true ∧ w.files.exists? w.here (cachedPath cache a) = true)) :
    Checked cache a w (.ok false, w)
  | usable (h : Usable cache a w) : Checked cache a w (.ok true, w)
  /-- It does not match, and was removed. -/
  | removed (h : Spoiled cache a w) : Checked cache a w (.ok false, without (cachedPath cache a) w)
  /-- The files refuse something. -/
  | refused {e : Failure} (he : e.OfFiles) : Checked cache a w (.error e, w)

theorem without_of_refused {fault : Fault}
    (h : (outcome (Disk.removeFile p) w).1 = .error fault) : without p w = w := by
  unfold without Disk.removeFile at *
  rw [outcome_change] at h ⊢
  split at h
  · cases h
  · rfl

theorem checked_checkCached (ha : a.checksum = .pinned algorithm value) (w : World) :
    Checked cache a w (attempted (checkCached cache a) w) := by
  unfold checkCached
  rw [attempted_bind]
  rcases attempted_io (mismatch? (cachedPath cache a) a.checksum) w with
    ⟨found, hfound, h⟩ | ⟨fault, -, h⟩ <;> rw [h, outcome_mismatch_world]
  · cases found with
    | none =>
      rw [ha] at hfound
      exact .usable ((usable_iff ha).2 (hasDigest_of_mismatch hfound))
    | some actual =>
      dsimp only
      rw [attempted_bind]
      rcases attempted_io (Disk.removeFile (cachedPath cache a)) w with
        ⟨_, -, h⟩ | ⟨fault, hfault, h⟩ <;> rw [h]
      · exact .removed ⟨actual, hfound⟩
      · rw [show (outcome (Disk.removeFile (cachedPath cache a)) w).2 = w from
          without_of_refused hfault]
        exact .refused ⟨fault.message, rfl⟩
  · exact .refused ⟨fault.message, rfl⟩

theorem checked_useCached (cache : Path) (a : Archive) (w : World) :
    Checked cache a w (attempted (useCached cache a) w) := by
  rw [attempted_useCached]
  split
  · next hthere =>
    obtain ⟨hpinned, -⟩ := Bool.and_eq_true_iff.1 hthere
    cases ha : a.checksum with
    | placeholder =>
      rw [ha] at hpinned
      cases hpinned
    | pinned algorithm value => exact checked_checkCached ha w
  · next hthere => exact .absent (by simpa using hthere)

theorem Checked.not_usable {r : Except Failure Bool × World} (h : Checked cache a w r)
    (hr : r.1 = .ok false) : ¬ Usable cache a w := by
  rintro ⟨algorithm, value, ha, hdigest⟩
  cases h with
  | absent hnone => exact hnone ⟨by rw [ha]; rfl, exists_of_hasDigest hdigest⟩
  | usable => cases hr
  | removed hspoiled =>
    obtain ⟨actual, hactual⟩ := hspoiled
    rw [ha, mismatch_of_hasDigest hdigest] at hactual
    cases hactual
  | refused => cases hr

theorem looked_useCached (cache : Path) (a : Archive) (w : World) :
    Looked cache a w (attempted (useCached cache a) w) := by
  have hchecked := checked_useCached cache a w
  have hnot := hchecked.not_usable
  generalize attempted (useCached cache a) w = r at hchecked hnot
  cases hchecked with
  | absent => exact .inr ⟨w, .inl rfl, .inl ⟨hnot rfl, rfl⟩⟩
  | usable husable => exact .inl ⟨husable, rfl⟩
  | removed => exact .inr ⟨_, .inr rfl, .inl ⟨hnot rfl, rfl⟩⟩
  | refused he => exact .inr ⟨w, .inl rfl, .inr ⟨_, he, rfl⟩⟩

end Verification

/-! ### Downloading -/

def ran (launch : Launcher) (cache : Path) (a : Archive) (timeout : Millis) (w : World) : World :=
  (outcome (supervise launch (downloader cache a) timeout) w).2

/-- What a download comes to that asks for the downloading program. -/
inductive Afresh (launch : Launcher) (cache : Path) (a : Archive) (timeout : Millis) (w : World) :
    Except Failure Path × World → Prop
  /-- The program fails, or is not even started; whatever it left is removed. -/
  | failed {e : Failure} (hend : ¬ EndsWell launch (downloader cache a) timeout w)
    (he : ¬ e.OfFiles) (hrefused : Refused launch (downloader cache a) w e) :
    Afresh launch cache a timeout w
      (.error e, without (pendingPath cache a) (ran launch cache a timeout w))
  /-- What it left does not match, or the files refuse something. -/
  | rejected {e : Failure} {v : World} (hend : EndsWell launch (downloader cache a) timeout w)
    (hv : v = ran launch cache a timeout w ∨
      v = without (pendingPath cache a) (ran launch cache a timeout w)) :
    Afresh launch cache a timeout w (.error e, v)
  /-- What it left matches and is put in its place. -/
  | placed {files : Files} (hend : EndsWell launch (downloader cache a) timeout w)
    (hchecked : (outcome (mismatch? (pendingPath cache a) a.checksum)
      (ran launch cache a timeout w)).1 = .ok none)
    (hrenamed : (ran launch cache a timeout w).files.rename (ran launch cache a timeout w).here
      (pendingPath cache a) (cachedPath cache a) = .ok files) :
    Afresh launch cache a timeout w
      (.ok (cachedPath cache a), { ran launch cache a timeout w with files })

def settle (cache : Path) (a : Archive) : Attempt Path := do
  match ← Attempt.io (mismatch? (pendingPath cache a) a.checksum) with
  | some actual =>
    Attempt.io (Disk.removeFile (pendingPath cache a))
    throw (.checksumMismatch a.checksum.display (displayFound a.checksum actual))
  | none =>
    Attempt.io (Disk.rename (pendingPath cache a) (cachedPath cache a))
    return cachedPath cache a

/-- All that this comes to. -/
inductive Settled (cache : Path) (a : Archive) (w : World) : Except Failure Path × World → Prop
  | unreadable {fault : Fault}
    (h : (outcome (mismatch? (pendingPath cache a) a.checksum) w).1 = .error fault) :
    Settled cache a w (.error (.io fault.message), w)
  | mismatched {e : Failure} {actual : String}
    (h : (outcome (mismatch? (pendingPath cache a) a.checksum) w).1 = .ok (some actual)) :
    Settled cache a w (.error e, without (pendingPath cache a) w)
  | unplaced {fault : Fault}
    (h : w.files.rename w.here (pendingPath cache a) (cachedPath cache a) = .error fault) :
    Settled cache a w (.error (.io fault.message), w)
  | placed {files : Files}
    (hchecked : (outcome (mismatch? (pendingPath cache a) a.checksum) w).1 = .ok none)
    (h : w.files.rename w.here (pendingPath cache a) (cachedPath cache a) = .ok files) :
    Settled cache a w (.ok (cachedPath cache a), { w with files })

theorem settled_settle (cache : Path) (a : Archive) (w : World) :
    Settled cache a w (attempted (settle cache a) w) := by
  unfold settle
  rw [attempted_bind]
  rcases attempted_io (mismatch? (pendingPath cache a) a.checksum) w with
    ⟨found, hfound, h⟩ | ⟨fault, hfault, h⟩ <;> rw [h, outcome_mismatch_world]
  · cases found with
    | some actual =>
      dsimp only
      rw [attempted_bind]
      rcases attempted_io (Disk.removeFile (pendingPath cache a)) w with
        ⟨_, -, h⟩ | ⟨fault, -, h⟩ <;> rw [h]
      · exact .mismatched hfound
      · exact .mismatched hfound
    | none =>
      dsimp only
      rw [attempted_bind]
      rcases attempted_io (Disk.rename (pendingPath cache a) (cachedPath cache a)) w with
        ⟨_, hrenamed, h⟩ | ⟨fault, hrenamed, h⟩ <;> rw [h]
      · rw [Disk.rename, outcome_change] at hrenamed ⊢
        split at hrenamed
        · next files hfiles => exact .placed hfound hfiles
        · cases hrenamed
      · rw [Disk.rename, outcome_change] at hrenamed ⊢
        split at hrenamed
        · cases hrenamed
        · next hrefused =>
          cases hrenamed
          exact .unplaced hrefused
  · exact .unreadable hfault

theorem downloadAfresh_cases (launch : Launcher) (cache : Path) (a : Archive) (timeout : Millis)
    (w : World) :
    (EndsWell launch (downloader cache a) timeout w ∧
      attempted (downloadAfresh launch cache a timeout) w =
        attempted (settle cache a) (ran launch cache a timeout w)) ∨
    (¬ EndsWell launch (downloader cache a) timeout w ∧
      ∃ e, ¬ e.OfFiles ∧ Refused launch (downloader cache a) w e ∧
        attempted (downloadAfresh launch cache a timeout) w =
          (.error e, without (pendingPath cache a) (ran launch cache a timeout w))) := by
  have hsteps : attempted (downloadAfresh launch cache a timeout) w =
      attempted (tryCatch (downloadFile launch a.url (pendingPath cache a) timeout)
        (fun e => do
          let _ ← (Disk.removeFile (pendingPath cache a) : Act _)
          throw e) >>= fun _ => settle cache a) w := rfl
  rw [hsteps, attempted_bind, attempted_tryCatch]
  rcases downloadFile_cases launch cache a timeout w with
    ⟨hend, h⟩ | ⟨hend, e, he, hrefused, h⟩ <;> rw [h]
  · exact .inl ⟨hend, rfl⟩
  · exact .inr ⟨hend, e, he, hrefused, rfl⟩

theorem afresh_downloadAfresh (launch : Launcher) (cache : Path) (a : Archive) (timeout : Millis)
    (w : World) :
    Afresh launch cache a timeout w (attempted (downloadAfresh launch cache a timeout) w) := by
  rcases downloadAfresh_cases launch cache a timeout w with
    ⟨hend, h⟩ | ⟨hend, e, he, hrefused, h⟩ <;> rw [h]
  · have hsettled := settled_settle cache a (ran launch cache a timeout w)
    generalize attempted (settle cache a) (ran launch cache a timeout w) = r at hsettled
    cases hsettled with
    | unreadable => exact .rejected hend (.inl rfl)
    | mismatched => exact .rejected hend (.inr rfl)
    | unplaced => exact .rejected hend (.inl rfl)
    | placed hchecked hrenamed => exact .placed hend hchecked hrenamed
  · exact .failed hend he hrefused

def opened (cache : Path) (w : World) : World := (outcome (Disk.makeAll cache) w).2

def asked (cache : Path) (a : Archive) (w : World) : World :=
  (attempted (useCached cache a) (opened cache w)).2

theorem asked_eq (cache : Path) (a : Archive) (w : World) :
    asked cache a w = opened cache w ∨
      asked cache a w = without (cachedPath cache a) (opened cache w) := by
  unfold asked
  rcases looked_useCached cache a (opened cache w) with
    ⟨-, h⟩ | ⟨v, hv, ⟨-, h⟩ | ⟨e, -, h⟩⟩ <;> rw [h]
  · exact .inl rfl
  · exact hv
  · exact hv

/-- The downloading program is asked for: the directory of the cache is there, and no cached file
can be used. -/
def Asks (cache : Path) (a : Archive) (w : World) : Prop :=
  (outcome (Disk.makeAll cache) w).1 = .ok () ∧
    (attempted (useCached cache a) (opened cache w)).1 = .ok false

theorem download_cases (launch : Launcher) (cache : Path) (a : Archive) (timeout : Millis)
    (w : World) :
    (¬ Asks cache a w ∧ ∃ e, Failure.OfFiles e ∧
      attempted (download launch cache a timeout) w = (.error e, opened cache w)) ∨
    (Usable cache a (opened cache w) ∧
      attempted (download launch cache a timeout) w = (.ok (cachedPath cache a), opened cache w)) ∨
    (Asks cache a w ∧ ¬ Usable cache a (opened cache w) ∧
      attempted (download launch cache a timeout) w =
        attempted (downloadAfresh launch cache a timeout) (asked cache a w)) := by
  unfold download
  rw [attempted_bind]
  rcases attempted_io (Disk.makeAll cache) w with ⟨_, hmade, h⟩ | ⟨fault, hmade, h⟩ <;> rw [h]
  · dsimp only
    rw [show (outcome (Disk.makeAll cache) w).2 = opened cache w from rfl, attempted_bind]
    have hasked : asked cache a w = (attempted (useCached cache a) (opened cache w)).2 := rfl
    have hasks : Asks cache a w ↔
        (attempted (useCached cache a) (opened cache w)).1 = .ok false := and_iff_right hmade
    have hchecked := checked_useCached cache a (opened cache w)
    have hnot := hchecked.not_usable
    generalize attempted (useCached cache a) (opened cache w) = r at hasked hasks hchecked hnot
    rw [hasked]
    cases hchecked with
    | absent => exact .inr (.inr ⟨hasks.2 rfl, hnot rfl, rfl⟩)
    | usable husable => exact .inr (.inl ⟨husable, rfl⟩)
    | removed => exact .inr (.inr ⟨hasks.2 rfl, hnot rfl, rfl⟩)
    | refused he =>
      refine .inl ⟨fun h => ?_, _, he, rfl⟩
      cases hasks.1 h
  · refine .inl ⟨fun hasks => ?_, _, ⟨fault.message, rfl⟩, rfl⟩
    cases hmade.symm.trans hasks.1

/-- What a download comes to. -/
inductive Went (launch : Launcher) (cache : Path) (a : Archive) (timeout : Millis) (w : World) :
    Except Failure Path × World → Prop
  /-- The files refuse something before anything is asked for. -/
  | halted {e : Failure} {v : World} (he : e.OfFiles)
    (hv : v = opened cache w ∨ v = asked cache a w) : Went launch cache a timeout w (.error e, v)
  /-- The cached file is used. -/
  | found (h : Usable cache a (opened cache w)) :
    Went launch cache a timeout w (.ok (cachedPath cache a), opened cache w)
  /-- It cannot be used. -/
  | afresh {r : Except Failure Path × World} (h : ¬ Usable cache a (opened cache w))
    (hr : Afresh launch cache a timeout (asked cache a w) r) : Went launch cache a timeout w r

theorem went_download (launch : Launcher) (cache : Path) (a : Archive) (timeout : Millis)
    (w : World) : Went launch cache a timeout w (attempted (download launch cache a timeout) w) := by
  rcases download_cases launch cache a timeout w with
    ⟨-, e, he, h⟩ | ⟨husable, h⟩ | ⟨-, husable, h⟩ <;> rw [h]
  · exact .halted he (.inl rfl)
  · exact .found husable
  · exact .afresh husable (afresh_downloadAfresh launch cache a timeout _)

-- these worlds are the results of whole computations, not to be looked into from here on
attribute [irreducible] without ran opened asked

end Fetch

end Formulary
