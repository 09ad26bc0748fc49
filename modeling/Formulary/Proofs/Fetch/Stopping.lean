import Formulary.Proofs.Fetch.History
import Formulary.Proofs.Machine.Supervising

/-!
# Fetching when a stop has been asked for

Whoever asks for a stop before a source is fetched gets none. The request is noticed by the watch
over a helping program, so the first of them that is started is stopped at once. But a program that
cannot be started is not watched, and neither is the format of a cached archive that no program is
known for: these are told as failed downloads all the same (`stopped_standard`).
-/

namespace Formulary

/-- A stop has been asked for, and whoever looks from now on sees it. -/
def World.Stopping (w : World) : Prop := ∀ n, w.looks ≤ n → w.stopRequested n = true

variable {w w' : World}

theorem World.stopping_requestStop (w : World) : w.requestStop.Stopping := fun _ _ => rfl

theorem OnFiles.stopping (h : OnFiles w w') (hw : w.Stopping) : w'.Stopping := by
  obtain ⟨files, rfl⟩ := h
  exact hw

theorem supervise_of_stopping (hw : w.Stopping) (launch : Launcher) (c : Command)
    (timeout : Millis) :
    (∃ fault, launch c w.site = .error fault ∧
      (outcome (supervise launch c timeout) w).1 = .error fault) ∨
    ∃ o, (outcome (supervise launch c timeout) w).1 = .ok o ∧ o.outcome = .cancelled := by
  cases h : launch c w.site with
  | error fault => exact .inl ⟨fault, rfl, congrArg Prod.fst (supervise_refused h timeout)⟩
  | ok process =>
    obtain ⟨o, time, hsupervise, -, -, -, hstop⟩ := supervise_seen h timeout
    rw [hstop (hw w.looks (Nat.le_refl _))] at hsupervise
    exact .inr ⟨_, hsupervise, rfl⟩

namespace Fetch

/-- How a helping program ends a fetch that is to stop: it is stopped, or it cannot even be
started. -/
inductive Halted (launch : Launcher) (c : Command) (w : World) : Failure → Prop
  | stopped : Halted launch c w (.cancelled ("fetch (" ++ c.program ++ ")"))
  | unlaunched {fault : Fault} (h : launch c w.site = .error fault) :
    Halted launch c w (.downloadFailed (c.program ++ " failed: " ++ fault.message))

theorem halted_runHelper (hw : w.Stopping) (launch : Launcher) (c : Command) (purpose : String)
    (timeout : Millis) :
    ∃ e, (attempted (runHelper launch c purpose timeout) w).1 = .error e ∧
      Halted launch c w e := by
  unfold runHelper
  rw [attempted_bind, attempted_orFail]
  rcases supervise_of_stopping hw launch c timeout with ⟨fault, hlaunch, h⟩ | ⟨o, h, hcancelled⟩
  · rw [h]
    exact ⟨_, rfl, .unlaunched hlaunch⟩
  · rw [h]
    dsimp only [Except.mapError]
    rw [hcancelled]
    exact ⟨_, rfl, .stopped⟩

/-! ### The parts of a fetch -/

def unpacker (options : List String) (archive target : Path) : Command where
  program := "tar"
  args := options ++ [archive.text, "-C", target.text]

def cloner (r : Repository) (target : Path) : Command where
  program := "git"
  args := ["clone", "--depth", "1"] ++
    (match r.branch with
    | some branch => ["--branch", branch]
    | none => []) ++ [r.url, target.text]
  env := [("GIT_TERMINAL_PROMPT", "0")]

theorem halted_downloadAfresh (hw : w.Stopping) (launch : Launcher) (cache : Path) (a : Archive)
    (timeout : Millis) :
    ∃ e, (attempted (downloadAfresh launch cache a timeout) w).1 = .error e ∧
      Halted launch (downloader cache a) w e := by
  obtain ⟨e, he, hhalted⟩ := halted_runHelper hw launch (downloader cache a)
    ("Failed to download " ++ a.url) timeout
  refine ⟨e, attempted_bind_of_error ?_ _, hhalted⟩
  have hdownload : (attempted (downloadFile launch a.url (pendingPath cache a) timeout) w).1 =
      .error e := attempted_bind_of_error he _
  -- whatever is removed, the failure stays
  rw [attempted_tryCatch]
  rcases h : attempted (downloadFile launch a.url (pendingPath cache a) timeout) w with ⟨r, v⟩
  rw [h] at hdownload
  obtain rfl : r = .error e := hdownload
  rfl

theorem halted_extract (hw : w.Stopping) (launch : Launcher) (archive : Path) (fileName : String)
    (target : Path) (timeout : Millis) :
    ∃ e, (attempted (extract launch archive fileName target timeout) w).1 = .error e ∧
      match unpackArgs? fileName with
      | some options => Halted launch (unpacker options archive target) w e
      | none => e = .downloadFailed ("Unknown archive format: " ++ fileName) := by
  unfold extract
  cases unpackArgs? fileName with
  | none => exact ⟨_, rfl, rfl⟩
  | some options =>
    obtain ⟨e, he, hhalted⟩ := halted_runHelper hw launch (unpacker options archive target)
      "Failed to extract archive" timeout
    exact ⟨e, attempted_bind_of_error he _, hhalted⟩

theorem halted_clone (hw : w.Stopping) (launch : Launcher) (r : Repository) (target : Path)
    (timeout : Millis) :
    ∃ e, (attempted (clone launch r target timeout) w).1 = .error e ∧
      Halted launch (cloner r target) w e := by
  obtain ⟨e, he, hhalted⟩ := halted_runHelper hw launch (cloner r target)
    ("Failed to clone " ++ r.url) timeout
  exact ⟨e, attempted_bind_of_error he _, hhalted⟩

/-! ### Sources -/

/-- The world when the directory has been made that an archive of the cache is unpacked in. -/
def roomy (cache target : Path) (w : World) : World :=
  (outcome (Disk.makeAll (target.join "source")) (opened cache w)).2

theorem stopping_opened (cache : Path) (hw : w.Stopping) : (opened cache w).Stopping := by
  unfold opened
  exact (onFiles_makeAll cache w).stopping hw

theorem stopping_asked (cache : Path) (a : Archive) (hw : w.Stopping) :
    (asked cache a w).Stopping := by
  rcases asked_eq cache a w with h | h <;> rw [h]
  · exact stopping_opened cache hw
  · unfold without
    exact (onFiles_change _ _).stopping (stopping_opened cache hw)

/-- How a fetch ends that is to stop before it begins. -/
inductive Stopped (launch : Launcher) (cache target : Path) (w : World) : SourceRef → Failure → Prop
  /-- The files refuse something. -/
  | files {a : Archive} (detail : String) : Stopped launch cache target w (.archive a) (.io detail)
  | cloning {r : Repository} {e : Failure} (h : Halted launch (cloner r (target.join "source")) w e) :
    Stopped launch cache target w (.repository r) e
  /-- The cached file cannot be used. -/
  | downloading {a : Archive} {e : Failure} (hcache : ¬ Usable cache a (opened cache w))
    (h : Halted launch (downloader cache a) (asked cache a w) e) :
    Stopped launch cache target w (.archive a) e
  /-- The cached file can be used. -/
  | unpacking {a : Archive} {e : Failure} {options : List String}
    (hcache : Usable cache a (opened cache w)) (hformat : unpackArgs? a.fileName = some options)
    (h : Halted launch (unpacker options (cachedPath cache a) (target.join "source"))
      (roomy cache target w) e) : Stopped launch cache target w (.archive a) e
  /-- The cached file can be used, but no program is known that unpacks it. -/
  | unknown {a : Archive} (hcache : Usable cache a (opened cache w))
    (hformat : unpackArgs? a.fileName = none) :
    Stopped launch cache target w (.archive a)
      (.downloadFailed ("Unknown archive format: " ++ a.fileName))

def unpack (launch : Launcher) (a : Archive) (target : Path) (timeout : Millis) (cached : Path) :
    Attempt Path := do
  Attempt.io (Disk.makeAll (target.join "source"))
  extract launch cached a.fileName (target.join "source") timeout
  return (← onlyDirectory? (target.join "source")).getD (target.join "source")

theorem archive_eq (launch : Launcher) (cache : Path) (a : Archive) (target : Path)
    (timeout : Millis) :
    archive launch cache a target timeout =
      download launch cache a timeout >>= unpack launch a target timeout := rfl

theorem stopped_unpack (hw : w.Stopping) (launch : Launcher) {cache : Path} {a : Archive}
    (husable : Usable cache a (opened cache w)) (target : Path) (timeout : Millis) :
    ∃ e, (attempted (unpack launch a target timeout (cachedPath cache a)) (opened cache w)).1 =
        .error e ∧ Stopped launch cache target w (.archive a) e := by
  unfold unpack
  rw [attempted_bind]
  rcases attempted_io (Disk.makeAll (target.join "source")) (opened cache w) with
    ⟨_, -, h⟩ | ⟨fault, -, h⟩ <;> rw [h]
  · have hroomy : (roomy cache target w).Stopping :=
      (onFiles_makeAll _ _).stopping (stopping_opened cache hw)
    obtain ⟨e, he, hhalted⟩ := halted_extract hroomy launch (cachedPath cache a) a.fileName
      (target.join "source") timeout
    refine ⟨e, attempted_bind_of_error he _, ?_⟩
    split at hhalted
    · next hformat => exact .unpacking husable hformat hhalted
    · next hformat =>
      subst hhalted
      exact .unknown husable hformat
  · exact ⟨_, rfl, .files fault.message⟩

theorem stopped_archive (hw : w.Stopping) (launch : Launcher) (cache : Path) (a : Archive)
    (target : Path) (timeout : Millis) :
    ∃ e, (attempted (archive launch cache a target timeout) w).1 = .error e ∧
      Stopped launch cache target w (.archive a) e := by
  rw [archive_eq]
  rcases download_cases launch cache a timeout w with
    ⟨-, e, ⟨detail, rfl⟩, h⟩ | ⟨husable, h⟩ | ⟨-, husable, h⟩
  · exact ⟨_, attempted_bind_of_error (by rw [h]) _, .files detail⟩
  · rw [attempted_bind, h]
    exact stopped_unpack hw launch husable target timeout
  · obtain ⟨e, he, hhalted⟩ :=
      halted_downloadAfresh (stopping_asked cache a hw) launch cache a timeout
    exact ⟨e, attempted_bind_of_error (by rw [h, he]) _, .downloading husable hhalted⟩

/-- **Nothing is fetched when a stop has been asked for before.** The fetch fails as one that was
stopped, or because the files refuse something, unless the helping program cannot be started or no
program is known that unpacks the archive in the cache: then it is told as a failed download. -/
theorem stopped_standard (hw : w.Stopping) (launch : Launcher) (cache : Path) (source : SourceRef)
    (target : Path) (timeout : Millis) :
    ∃ e, (attempted (standard launch cache source target timeout) w).1 = .error e ∧
      Stopped launch cache target w source e := by
  cases source with
  | archive a => exact stopped_archive hw launch cache a target timeout
  | repository r =>
    obtain ⟨e, he, hhalted⟩ := halted_clone hw launch r (target.join "source") timeout
    exact ⟨e, he, .cloning hhalted⟩

/-! ### A cache that holds all that is needed -/

/-- An archive in the cache is not unpacked when a stop has been asked for. -/
theorem stopped_filled :
    filled.requestStop.Stopping ∧
    (∃ e, (attempted (standard .idle "/cache"
        (.archive (declaring "https://example.org/demo.tar" oneDigest)) "/work" 1000)
        filled.requestStop).1 = .error e ∧
      Stopped .idle "/cache" "/work" filled.requestStop
        (.archive (declaring "https://example.org/demo.tar" oneDigest)) e) ∧
    (attempted (standard .idle "/cache"
        (.archive (declaring "https://example.org/demo.tar" oneDigest)) "/work" 1000)
        filled.requestStop).1 = .error (.cancelled "fetch (tar)") :=
  ⟨filled.stopping_requestStop, stopped_standard filled.stopping_requestStop _ _ _ _ _,
    by decide +kernel⟩

/-- Under a name that tells no known format the same archive is told as a failed download, and so is
a repository where there is no program that clones. -/
theorem stopped_tells_download :
    filled.requestStop.Stopping ∧
    (attempted (standard .idle "/cache"
        (.archive (declaring "https://example.org/demo.zip" oneDigest)) "/work" 1000)
        filled.requestStop).1 = .error (.downloadFailed "Unknown archive format: demo.zip") ∧
    (attempted (standard (fun _ _ => .error .noEntry) "/cache"
        (.repository ⟨"https://example.org/demo.git", none⟩) "/work" 1000)
        filled.requestStop).1 =
      .error (.downloadFailed "git failed: No such file or directory (os error 2)") :=
  ⟨filled.stopping_requestStop, by decide +kernel⟩

end Fetch

end Formulary
