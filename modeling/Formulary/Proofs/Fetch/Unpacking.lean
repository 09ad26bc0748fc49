import Formulary.Proofs.Fetch.Digests
import Formulary.Proofs.Machine.Launches
import Formulary.Proofs.Machine.Renaming

/-!
# Only verified archives are unpacked

Whatever the downloading program writes, and whatever is in the cache before: a pinned archive that
`download` gives back has the pinned digest, and still has it when it is unpacked. So of the
programs that `standard` starts for a pinned archive, those that unpack are given only verified
bytes: `starts_archive`.
-/

namespace Formulary.Fetch

variable {launch : Launcher} {a : Archive} {algorithm : Digest.Algorithm} {value : String}
  {w : World}

/-! ### What holds of a path -/

/-- All that can be read at a path, now or when more directories have been made, has the digest. -/
def Holds (w : World) (p : Path) (algorithm : Digest.Algorithm) (value : String) : Prop :=
  ∀ fs, Files.Kept w.files fs → ∀ bytes, fs.read w.here p = .ok bytes →
    Digest.digest algorithm bytes = value

theorem read_eq_ok {fs : Files} {cwd : Location} {p : Path} {bytes : Bytes}
    (h : fs.read cwd p = .ok bytes) :
    ∃ l node, fs.find cwd p = .ok (l, node) ∧ bytes = node.contents := by
  obtain ⟨⟨l, node⟩, hfind, h⟩ := bind_eq_ok.1 h
  refine ⟨l, node, hfind, ?_⟩
  dsimp only at h
  split at h
  · cases h
  · cases h
    rfl

theorem HasDigest.holds {p : Path} (h : HasDigest w p algorithm value) :
    Holds w p algorithm value := by
  obtain ⟨l, node, hfind, hnode, hdigest⟩ := h
  intro fs hk bytes hread
  obtain ⟨l', node', hfind', rfl⟩ := read_eq_ok hread
  rw [Files.find_of_kept hk hfind hnode hfind']
  exact hdigest

/-- **A file with the digest that is put in its place in the cache has it there.** -/
theorem HasDigest.holds_renamed {c : Path} {x y : String} {files : Files} (hx : ProperName x)
    (hy : ProperName y) (hxy : x ≠ y) (hw : w.files.Sound)
    (h : HasDigest w (c.join x) algorithm value)
    (hren : w.files.rename w.here (c.join x) (c.join y) = .ok files) :
    Holds { w with files } (c.join y) algorithm value := by
  obtain ⟨l, node, hfind, hnode, hdigest⟩ := h
  intro fs hk bytes hread
  obtain ⟨l', node', hfind', rfl⟩ := read_eq_ok hread
  rw [Files.find_renamed hx hy hxy hw hfind hnode hren hk hfind']
  exact hdigest

theorem Holds.of_grown {w' : World} {p : Path} (h : Holds w p algorithm value)
    (hg : Grown w w') : Holds w' p algorithm value := by
  intro fs hk bytes hread
  rw [World.here, hg.cwd] at hread
  exact h fs (hg.kept.trans hk) bytes hread

/-! ### Helping programs -/

theorem runHelper_launches {P : Launch → Prop} {c : Command} (purpose : String) (timeout : Millis)
    (hlaunch : launch.Sound) (hc : P ⟨c, w.site⟩) :
    (runHelper launch c purpose timeout).Launches P
      (fun _ v => w.files.Sound → v.files.Sound) w := by
  unfold runHelper
  refine (Attempt.Launches.orFail (R := fun _ v => w.files.Sound → v.files.Sound)
    (starts_supervise launch c timeout hc)
    fun _ _ hw => sound_supervise hlaunch c timeout hw).bind fun output v hv => ?_
  split
  · exact .throw _
  · exact .throw _
  · split
    · exact .pure hv
    · exact .throw _

def IsDownload (l : Launch) : Prop := l.command.program = "curl"

theorem downloadFile_launches (url : String) (target : Path) (timeout : Millis)
    (hlaunch : launch.Sound) :
    (downloadFile launch url target timeout).Launches IsDownload
      (fun _ v => w.files.Sound → v.files.Sound) w := by
  unfold downloadFile
  refine (runHelper_launches _ timeout hlaunch ?_).bind fun _ v hv => .pure hv
  rfl

/-! ### The cache -/

section Cache

variable {P : Launch → Prop}

theorem removeFile_launches (p : Path) :
    (Attempt.io (Disk.removeFile p)).Launches P (fun _ v => w.files.Sound → v.files.Sound) w := by
  have hremoved := quiet_removeFile p w
  exact .orFail hremoved.starts fun _ _ => hremoved.sound

variable (ha : a.checksum = .pinned algorithm value)

include ha

theorem mismatch_launches (p : Path) :
    (Attempt.io (mismatch? p a.checksum)).Launches P
      (fun found v => v = w ∧ (found = none → HasDigest w p algorithm value)) w := by
  refine .orFail ?_ fun found hfound => ⟨outcome_mismatch_world p _ w, fun hnone => ?_⟩
  · rw [outcome_mismatch_world]
    exact (Quiet.refl w).starts
  · rw [hnone, ha] at hfound
    exact hasDigest_of_mismatch hfound

/-- A cached file is used only if it has the digest. -/
theorem useCached_launches (cache : Path) (hw : w.files.Sound) :
    (useCached cache a).Launches P
      (fun there v => v.files.Sound ∧
        (there = true → HasDigest v (cachedPath cache a) algorithm value)) w := by
  unfold useCached
  refine (Attempt.Launches.lift (R := fun _ v => v = w) (Quiet.refl w).starts rfl).bind
    fun there v hv => ?_
  subst hv
  split
  · refine (mismatch_launches ha (cachedPath cache a)).bind fun found v' hv => ?_
    obtain ⟨rfl, hfound⟩ := hv
    split
    · exact .pure ⟨hw, fun _ => hfound rfl⟩
    · exact (removeFile_launches _).bind fun _ u hu => .pure ⟨hu hw, fun h => by cases h⟩
  · exact .pure ⟨hw, fun h => by cases h⟩

theorem rename_launches {cache : Path} (hvalue : '/' ∉ value.toList) (hw : w.files.Sound)
    (h : HasDigest w (pendingPath cache a) algorithm value) :
    (Attempt.io (Disk.rename (pendingPath cache a) (cachedPath cache a))).Launches P
      (fun _ v => Holds v (cachedPath cache a) algorithm value) w := by
  have hcached := properName_of_cacheName ha hvalue "" (by simp)
  rw [String.append_empty] at hcached
  have hpending := properName_of_cacheName ha hvalue ".tmp" (by decide)
  refine .orFail ?_ fun _ hrenamed => ?_
  · exact starts_change _ w
  · rw [Disk.rename, outcome_change] at hrenamed ⊢
    split at hrenamed
    · next files hfiles => exact h.holds_renamed hpending hcached (pending_ne a) hw hfiles
    · cases hrenamed

/-- What is downloaded gets its place in the cache only if it has the digest. -/
theorem downloadAfresh_launches (hvalue : '/' ∉ value.toList) (hlaunch : launch.Sound)
    (hw : w.files.Sound) (cache : Path) (timeout : Millis) :
    (downloadAfresh launch cache a timeout).Launches IsDownload
      (fun p v => Holds v p algorithm value) w := by
  unfold downloadAfresh
  refine ((downloadFile_launches a.url _ timeout hlaunch).tryCatch fun e v => ?_).bind
    fun _ v hv => ?_
  · exact (Attempt.Launches.lift (R := fun _ _ => True) (quiet_removeFile _ v).starts trivial).bind
      fun _ _ _ => .throw e
  refine (mismatch_launches ha (pendingPath cache a)).bind fun found v' hfound => ?_
  obtain ⟨rfl, hchecked⟩ := hfound
  split
  · exact (removeFile_launches _).bind fun _ _ _ => .throw _
  · exact (rename_launches ha hvalue (hv hw) (hchecked rfl)).bind fun _ u hu => .pure hu

/-- What is given for an archive, from the cache or downloaded, has the digest. -/
theorem download_launches (hvalue : '/' ∉ value.toList) (hlaunch : launch.Sound)
    (hw : w.files.Sound) (cache : Path) (timeout : Millis) :
    (download launch cache a timeout).Launches IsDownload
      (fun p v => Holds v p algorithm value) w := by
  unfold download
  refine (Attempt.Launches.of_grows (grows_makeAll cache)).bind fun _ v hmade => ?_
  refine (useCached_launches ha cache (hmade.sound hw)).bind fun there v' hused => ?_
  obtain ⟨hsound, hthere⟩ := hused
  split
  · next h => exact .pure (hthere h).holds
  · exact downloadAfresh_launches ha hvalue hlaunch hsound cache timeout

end Cache

/-! ### Unpacking -/

/-- A program that unpacks an archive, all of whose bytes have the digest. -/
def IsUnpacking (algorithm : Digest.Algorithm) (value : String) (l : Launch) : Prop :=
  l.command.program = "tar" ∧
  ∃ (options : List String) (archive target : Path),
    l.command.args = options ++ [archive.text, "-C", target.text] ∧
    ∀ bytes, l.site.files.read l.site.cwd.parts archive = .ok bytes →
      Digest.digest algorithm bytes = value

theorem extract_launches {p : Path} (h : Holds w p algorithm value) (hlaunch : launch.Sound)
    (fileName : String) (target : Path) (timeout : Millis) :
    (extract launch p fileName target timeout).Launches (IsUnpacking algorithm value)
      (fun _ _ => True) w := by
  unfold extract
  split
  · exact .throw _
  · next options _ =>
    refine (runHelper_launches _ timeout hlaunch ?_).bind fun _ _ _ => .pure trivial
    exact ⟨rfl, options, p, target, rfl, h w.files (.refl _)⟩

theorem onlyDirectory_launches {P : Launch → Prop} (dir : Path) :
    (onlyDirectory? dir).Launches P (fun _ _ => True) w := by
  unfold onlyDirectory?
  refine (Attempt.Launches.orFail (R := fun _ _ => True) (Quiet.refl w).starts
    fun _ _ => trivial).bind fun entries v _ => ?_
  split
  · exact .pure trivial
  · exact .pure trivial

/-- **For a pinned archive only programs are started that download, or that unpack verified
bytes.** -/
theorem archive_launches (ha : a.checksum = .pinned algorithm value) (hvalue : '/' ∉ value.toList)
    (hlaunch : launch.Sound) (hw : w.files.Sound) (cache target : Path) (timeout : Millis) :
    (archive launch cache a target timeout).Launches
      (fun l => IsDownload l ∨ IsUnpacking algorithm value l) (fun _ _ => True) w := by
  unfold archive
  refine ((download_launches ha hvalue hlaunch hw cache timeout).mono (fun _ => .inl)
    fun _ _ => id).bind fun cached v hcached => ?_
  refine (Attempt.Launches.of_grows (grows_makeAll _)).bind fun _ v' hmade => ?_
  refine ((extract_launches (hcached.of_grown hmade) hlaunch a.fileName _ timeout).mono
    (fun _ => .inr) fun _ _ => id).bind fun _ u _ => ?_
  exact (onlyDirectory_launches _).bind fun found _ _ => .pure trivial

end Formulary.Fetch
