import Formulary.Proofs.Fetch.Downloads
import Formulary.Proofs.Fetch.Names
import Formulary.Proofs.Machine.Leads

/-!
# The cache over any history

Downloads into one cache, one after another, whatever the cache holds before the first one and
whatever the downloading program does with the file it is told to write. What each of them keeps is
said once (`Faithful`); `faithful_visits` says it of every download of a history.

A link, or a further name of one file, can make the file that is downloaded to one that has a name in
the cache already. What the program writes is then written there: `linked_overwrites`.
-/

namespace Formulary.Fetch

/-! ### Downloads -/

/-- A download into a cache: what is asked for, how programs are started, and how long they may
run. -/
structure Call where
  url : String
  /-- The checksum, as it is declared. -/
  declared : String
  launch : Launcher
  timeout : Millis

namespace Call

abbrev archive (c : Call) : Archive := declaring c.url c.declared

def run (cache : Path) (c : Call) (w : World) : Except Failure Path × World :=
  attempted (download c.launch cache c.archive c.timeout) w

/-- The downloading program writes to no file but the one it is told to write to, whenever it is
stopped. -/
def Confined (cache : Path) (c : Call) : Prop :=
  ∀ site process, c.launch (downloader cache c.archive) site = .ok process →
    ∀ time, Files.Written site.files site.cwd.parts (pendingPath cache c.archive)
      (process.after time).files

/-- A name of a download is a link when it begins: its place in the cache, or that of the file it is
downloaded to. -/
def Linked (cache : Path) (c : Call) (w : World) : Prop :=
  ∃ p ∈ [cachedPath cache c.archive, pendingPath cache c.archive], ∃ l target,
    (opened cache w).files.findHere w.here p = .ok (l, .link target)

end Call

/-! ### Worlds of a download -/

section Worlds

variable {launch : Launcher} {cache : Path} {a : Archive} {timeout : Millis} {w : World}

theorem grown_opened (cache : Path) (w : World) : Grown w (opened cache w) := by
  unfold opened
  exact grows_makeAll cache w

theorem quiet_without (p : Path) (w : World) : Quiet w (without p w) := by
  unfold without
  exact quiet_removeFile p w

theorem kept_without (p : Path) (w : World) : Files.Kept (without p w).files w.files := by
  unfold without Disk.removeFile
  rw [outcome_change]
  split
  · next files h => exact Files.removeFile_kept h
  · exact .refl _

theorem without_cases (p : Path) (w : World) :
    (without p w = w ∧ ∀ l, w.files.locateHere w.here p = .ok l →
      w.files.get? l = none ∨ w.files.get? l = some .directory) ∨
    ∃ l, w.files.locateHere w.here p = .ok l ∧ w.files.get? l ≠ some .directory ∧
      without p w = { w with files := w.files.remove l } := by
  unfold without Disk.removeFile
  rw [outcome_change, Files.removeFile_at rfl]
  cases hplace : w.files.locateHere w.here p with
  | error fault => exact .inl ⟨rfl, fun l hl => by cases hl⟩
  | ok l =>
    dsimp only [bind, Except.bind]
    cases hget : w.files.get? l with
    | none =>
      refine .inl ⟨rfl, fun l' hl' => .inl ?_⟩
      rw [← Except.ok.inj hl', hget]
    | some node =>
      by_cases hdir : node = .directory
      · subst hdir
        refine .inl ⟨rfl, fun l' hl' => .inr ?_⟩
        rw [← Except.ok.inj hl', hget]
      · dsimp only
        rw [if_neg (by simp [Files.isDirectory_eq_false.2 hdir])]
        exact .inr ⟨l, rfl, by simpa [hget] using hdir, rfl⟩

theorem here_opened (cache : Path) (w : World) : (opened cache w).here = w.here := by
  rw [World.here, (grown_opened cache w).cwd]
  rfl

theorem quiet_asked (cache : Path) (a : Archive) (w : World) :
    Quiet (opened cache w) (asked cache a w) := by
  rcases asked_eq cache a w with h | h <;> rw [h]
  · exact .refl _
  · exact quiet_without _ _

theorem kept_asked (cache : Path) (a : Archive) (w : World) :
    Files.Kept (asked cache a w).files (opened cache w).files := by
  rcases asked_eq cache a w with h | h <;> rw [h]
  · exact .refl _
  · exact kept_without _ _

/-- Before the downloading program runs, there is no file but those there were. -/
theorem file_of_asked {l : Location} {f : File}
    (h : (asked cache a w).files.get? l = some (.file f)) : w.files.get? l = some (.file f) :=
  ((grown_opened cache w).added l _ (kept_asked cache a w l _ h)).resolve_left (by simp)

theorem started_ran (launch : Launcher) (cache : Path) (a : Archive) (timeout : Millis)
    (w : World) :
    (ran launch cache a timeout w).started =
      match launch (downloader cache a) w.site with
      | .ok _ => w.started ++ [⟨downloader cache a, w.site⟩]
      | .error _ => w.started := by
  unfold ran
  rcases supervised launch (downloader cache a) timeout w with
    ⟨hsame, fault, hfault, -⟩ | ⟨process, time, hprocess, hstarted, -, -⟩
  · rw [hsame, hfault]
  · rw [hstarted, hprocess]

theorem here_ran (launch : Launcher) (cache : Path) (a : Archive) (timeout : Millis)
    (w : World) : (ran launch cache a timeout w).here = w.here := by
  unfold ran World.here
  rcases supervised launch (downloader cache a) timeout w with
    ⟨hsame, -⟩ | ⟨process, time, -, -, hcwd, -⟩
  · rw [hsame]
  · rw [hcwd]

theorem written_ran {c : Call} (hc : c.Confined cache) (timeout : Millis) (w : World) :
    Files.Written w.files w.here (pendingPath cache c.archive)
      (ran c.launch cache c.archive timeout w).files := by
  unfold ran
  rcases supervised c.launch (downloader cache c.archive) timeout w with
    ⟨hsame, -⟩ | ⟨process, time, hprocess, -, -, hfiles⟩
  · rw [hsame]
    exact .refl _ _ _
  · rw [hfiles]
    exact hc w.site process hprocess time

end Worlds

/-! ### What a download keeps -/

section Run

variable {cache : Path} {c : Call} {w : World}

abbrev Call.site (cache : Path) (c : Call) (w : World) : World := asked cache c.archive w

abbrev Call.left (cache : Path) (c : Call) (w : World) : World :=
  ran c.launch cache c.archive c.timeout (c.site cache w)

/-- The place of a pinned name, when the directory of the cache has been made. -/
def PinnedPlace (cache : Path) (w : World) (algorithm : Digest.Algorithm) (value : String)
    (l : Location) : Prop :=
  (∃ declared, Checksum.parse declared = .pinned algorithm value) ∧
    (opened cache w).files.locateHere w.here (cache.join (pinnedName algorithm value)) = .ok l

/-- What a download keeps, gives and starts. -/
structure Faithful (cache : Path) (c : Call) (w : World) : Prop where
  /-- What is given for a pinned checksum is the file at the checksum's name, with the declared
  digits in small letters, and all that can be read there has the digest. There is a file to read,
  unless a name of the download was a link. -/
  verified : ∀ algorithm value p, Checksum.parse c.declared = .pinned algorithm value →
    (c.run cache w).1 = .ok p →
      (∃ digits, Checksum.Declares c.declared algorithm digits ∧
        value = (String.ofList digits).toLower) ∧
      p = cache.join (pinnedName algorithm value) ∧
      Holds (c.run cache w).2 p algorithm value ∧
      (¬ c.Linked cache w → HasDigest (c.run cache w).2 p algorithm value)
  /-- A file at the place of a pinned name was there before, or it has the digest; or else the
  downloading program was told to write to a path that leads there. -/
  kept : ∀ algorithm value l f, PinnedPlace cache w algorithm value l →
    (c.run cache w).2.files.get? l = some (.file f) →
      w.files.get? l = some (.file f) ∨ Digest.digest algorithm f.data = value ∨
      (¬ Usable cache c.archive (opened cache w) ∧
        (c.site cache w).files.LeadsTo w.here (pendingPath cache c.archive) l)
  /-- Unless the files refuse something, the downloading program is started just if the cached file
  cannot be used; if it cannot be started, that is told. -/
  starts : (∀ detail, (c.run cache w).1 ≠ .error (.io detail)) →
    (Usable cache c.archive (opened cache w) → (c.run cache w).2.started = w.started) ∧
    (¬ Usable cache c.archive (opened cache w) →
      match c.launch (downloader cache c.archive) (c.site cache w).site with
      | .ok _ => (c.run cache w).2.started =
          w.started ++ [⟨downloader cache c.archive, (c.site cache w).site⟩]
      | .error fault => (c.run cache w).2.started = w.started ∧
          (c.run cache w).1 = .error (.downloadFailed ("curl failed: " ++ fault.message)))
  /-- Nothing is given but a cached file that can be used, or what the downloading program left when
  it ended well. -/
  earned : ∀ p, (c.run cache w).1 = .ok p → Usable cache c.archive (opened cache w) ∨
    EndsWell c.launch (downloader cache c.archive) c.timeout (c.site cache w)

theorem went_run (cache : Path) (c : Call) (w : World) :
    Went c.launch cache c.archive c.timeout w (c.run cache w) :=
  went_download c.launch cache c.archive c.timeout w

theorem here_site (cache : Path) (c : Call) (w : World) : (c.site cache w).here = w.here := by
  rw [World.here, (quiet_asked cache c.archive w).cwd]
  exact here_opened cache w

theorem here_left (cache : Path) (c : Call) (w : World) : (c.left cache w).here = w.here := by
  rw [here_ran, here_site]

/-- What leads on when the downloading program has run did so when the download began. -/
theorem passable_left (hc : c.Confined cache) (w : World) :
    Files.Passable (c.left cache w).files (opened cache w).files :=
  (written_ran hc c.timeout _).passable.trans (kept_asked cache c.archive w).passable

theorem sound_left (hc : c.Confined cache) (hw : w.files.Sound) : (c.left cache w).files.Sound :=
  (written_ran hc c.timeout _).sound
    ((quiet_asked cache c.archive w).sound ((grown_opened cache w).sound hw))

/-- How a download is put in its place. -/
theorem renaming_left {files : Files}
    (h : (c.left cache w).files.rename (c.left cache w).here (pendingPath cache c.archive)
      (cachedPath cache c.archive) = .ok files) :
    ∃ x d held, Files.Renaming (c.left cache w).files files w.here cache
      (cacheName c.archive ++ ".tmp") (cacheName c.archive) x d held := by
  rw [here_left] at h
  exact Files.renaming_of_rename (properName_pending c.url c.declared)
    (properName_cached c.url c.declared) (pending_ne _) h

theorem sound_run (hc : c.Confined cache) (hw : w.files.Sound) :
    (c.run cache w).2.files.Sound := by
  have hopened := (grown_opened cache w).sound hw
  have hwent := went_run cache c w
  generalize c.run cache w = r at hwent ⊢
  cases hwent with
  | halted _ hv =>
    rcases hv with rfl | rfl
    · exact hopened
    · exact (quiet_asked cache c.archive w).sound hopened
  | found => exact hopened
  | afresh _ hr =>
    have hleft := sound_left hc hw
    cases hr with
    | failed => exact (quiet_without _ _).sound hleft
    | rejected _ hv =>
      rcases hv with rfl | rfl
      · exact hleft
      · exact (quiet_without _ _).sound hleft
    | placed _ _ hrenamed =>
      obtain ⟨x, d, held, h⟩ := renaming_left hrenamed
      exact h.sound (pending_ne _) hleft

section Pinned

variable {algorithm : Digest.Algorithm} {value : String}

theorem cachedPath_eq (ha : Checksum.parse c.declared = .pinned algorithm value) :
    cachedPath cache c.archive = cache.join (pinnedName algorithm value) := by
  rw [cachedPath, cacheName_eq (a := c.archive) ha]
  rfl

/-- A name that is no link when the download begins is none when the downloading program has
run. -/
theorem not_link_of_left (hc : c.Confined cache) {name : String} (hname : ProperName name)
    {p : Path} (hp : cache.join name = p)
    (hnone : ∀ l target, (opened cache w).files.findHere w.here p ≠ .ok (l, .link target))
    {x d : Location} (h : Files.Named (c.left cache w).files w.here cache name x d)
    (target : String) : (c.left cache w).files.get? (d ++ [name]) ≠ some (.link target) := by
  intro hlink
  have hpassable := passable_left hc w
  have hlocate := (Files.locateHere_join_iff hname).2 ⟨x, d, h.of_passable hpassable, rfl⟩
  refine hnone (d ++ [name]) target (bind_eq_ok.2 ⟨_, hp ▸ hlocate, ?_⟩)
  rw [Files.present, hpassable.link _ _ hlink]

/-- What is put in its place has the digest. -/
theorem verified_placed (hc : c.Confined cache) (hw : w.files.Sound)
    (ha : Checksum.parse c.declared = .pinned algorithm value) {files : Files}
    (hchecked : (outcome (mismatch? (pendingPath cache c.archive) c.archive.checksum)
      (c.left cache w)).1 = .ok none)
    (hrenamed : (c.left cache w).files.rename (c.left cache w).here
      (pendingPath cache c.archive) (cachedPath cache c.archive) = .ok files) :
    Holds { c.left cache w with files } (cachedPath cache c.archive) algorithm value ∧
      (¬ c.Linked cache w →
        HasDigest { c.left cache w with files } (cachedPath cache c.archive) algorithm value) := by
  have hcached := properName_cached c.url c.declared
  have hpending := properName_pending c.url c.declared
  have hchecksum : c.archive.checksum = .pinned algorithm value := ha
  rw [hchecksum] at hchecked
  have hdigest := hasDigest_of_mismatch hchecked
  have hleft := sound_left hc hw
  refine ⟨hdigest.holds_renamed hpending hcached (pending_ne _) hleft hrenamed, fun hlinked => ?_⟩
  obtain ⟨l, node, hfind, hnode, hvalue⟩ := hdigest
  obtain ⟨x, d, held, h⟩ := renaming_left hrenamed
  rw [here_left] at hfind
  have hheld := not_link_of_left hc hpending rfl (fun l target hlink =>
    hlinked ⟨pendingPath cache c.archive, by simp, l, target, hlink⟩) h.old
  have hfree := not_link_of_left hc hcached rfl (fun l target hlink =>
    hlinked ⟨cachedPath cache c.archive, by simp, l, target, hlink⟩) h.new
  obtain ⟨node', hfind', hnode', hcontents⟩ := h.find_new hpending hfind hnode hcached (pending_ne _)
    hleft (fun target htarget => hheld target (htarget ▸ h.source)) hfree
  rw [← here_left cache c w] at hfind'
  exact ⟨_, node', hfind', hnode', by rw [hcontents, hvalue]⟩

theorem verified_run (hc : c.Confined cache) (hw : w.files.Sound)
    (ha : Checksum.parse c.declared = .pinned algorithm value) {p : Path}
    (hp : (c.run cache w).1 = .ok p) :
    p = cache.join (pinnedName algorithm value) ∧ Holds (c.run cache w).2 p algorithm value ∧
      (¬ c.Linked cache w → HasDigest (c.run cache w).2 p algorithm value) := by
  rw [← cachedPath_eq ha]
  have hwent := went_run cache c w
  generalize c.run cache w = r at hwent hp ⊢
  cases hwent with
  | halted => cases hp
  | found husable =>
    cases hp
    have hdigest := (usable_iff (a := c.archive) ha).1 husable
    exact ⟨rfl, hdigest.holds, fun _ => hdigest⟩
  | afresh _ hr =>
    cases hr with
    | failed => cases hp
    | rejected => cases hp
    | placed _ hchecked hrenamed =>
      cases hp
      exact ⟨rfl, verified_placed hc hw ha hchecked hrenamed⟩

/-- A file at the place of a pinned name has the digest when a download was put in its place, or it
was there when the downloading program had run. -/
theorem kept_placed (hc : c.Confined cache) (hw : w.files.Sound) {l : Location} {f : File}
    {files : Files} (hl : PinnedPlace cache w algorithm value l)
    (hchecked : (outcome (mismatch? (pendingPath cache c.archive) c.archive.checksum)
      (c.left cache w)).1 = .ok none)
    (hrenamed : (c.left cache w).files.rename (c.left cache w).here
      (pendingPath cache c.archive) (cachedPath cache c.archive) = .ok files)
    (hf : files.get? l = some (.file f)) :
    Digest.digest algorithm f.data = value ∨ (c.left cache w).files.get? l = some (.file f) := by
  obtain ⟨⟨declared, hdeclared⟩, hlocate⟩ := hl
  have hname := properName_pinnedName hdeclared
  have hpending := properName_pending c.url c.declared
  obtain ⟨x, d, hnamed, rfl⟩ := (Files.locateHere_join_iff hname).1 hlocate
  obtain ⟨x', d', held, h⟩ := renaming_left hrenamed
  -- the renaming is in the directory where the pinned name is
  obtain ⟨rfl, rfl⟩ := hnamed.unique hname hpending (h.old.of_passable (passable_left hc w))
  by_cases hsame : cacheName c.archive = pinnedName algorithm value
  · rw [checksum_of_cacheName hsame] at hchecked
    obtain ⟨l, node, hfind, hnode, hvalue⟩ := hasDigest_of_mismatch hchecked
    rw [here_left] at hfind
    rw [← hsame] at hf
    rw [h.data_of_new hpending hfind hnode (pending_ne _) (sound_left hc hw) hf]
    exact .inl hvalue
  · rw [h.get?_other (pending_ne _) (pinnedName_ne_pending hdeclared c.archive) (Ne.symm hsame)]
      at hf
    exact .inr hf

theorem kept_run (hc : c.Confined cache) (hw : w.files.Sound) {l : Location} {f : File}
    (hl : PinnedPlace cache w algorithm value l)
    (hf : (c.run cache w).2.files.get? l = some (.file f)) :
    w.files.get? l = some (.file f) ∨ Digest.digest algorithm f.data = value ∨
      (¬ Usable cache c.archive (opened cache w) ∧
        (c.site cache w).files.LeadsTo w.here (pendingPath cache c.archive) l) := by
  have hopened : (opened cache w).files.get? l = some (.file f) → w.files.get? l = some (.file f) :=
    fun h => ((grown_opened cache w).added l _ h).resolve_left (by simp)
  have hwent := went_run cache c w
  generalize c.run cache w = r at hwent hf
  cases hwent with
  | halted _ hv =>
    rcases hv with rfl | rfl
    · exact .inl (hopened hf)
    · exact .inl (file_of_asked hf)
  | found => exact .inl (hopened hf)
  | afresh husable hr =>
    by_cases hlead : (c.site cache w).files.LeadsTo w.here (pendingPath cache c.archive) l
    · exact .inr (.inr ⟨husable, hlead⟩)
    -- what the downloading program has not written was there before
    have hleft : (c.left cache w).files.get? l = some (.file f) →
        w.files.get? l = some (.file f) := by
      intro h
      have hwritten := written_ran hc c.timeout (c.site cache w)
      rw [here_site] at hwritten
      rw [hwritten.elsewhere l hlead] at h
      exact file_of_asked h
    cases hr with
    | failed => exact .inl (hleft (kept_without _ _ l _ hf))
    | rejected _ hv =>
      rcases hv with rfl | rfl
      · exact .inl (hleft hf)
      · exact .inl (hleft (kept_without _ _ l _ hf))
    | placed _ hchecked hrenamed =>
      rcases kept_placed hc hw hl hchecked hrenamed hf with hdigest | hf
      · exact .inr (.inl hdigest)
      · exact .inl (hleft hf)

end Pinned

theorem started_afresh {r : Except Failure Path × World}
    (hr : Afresh c.launch cache c.archive c.timeout (c.site cache w) r) :
    r.2.started = (c.left cache w).started := by
  cases hr with
  | failed => exact (quiet_without _ _).started
  | rejected _ hv =>
    rcases hv with rfl | rfl
    · rfl
    · exact (quiet_without _ _).started
  | placed => rfl

theorem started_site (cache : Path) (c : Call) (w : World) :
    (c.site cache w).started = w.started := by
  rw [(quiet_asked cache c.archive w).started, (grown_opened cache w).started]

theorem not_endsWell_of_refused {launch : Launcher} {command : Command} {timeout : Millis}
    {fault : Fault} (h : launch command w.site = .error fault) :
    ¬ EndsWell launch command timeout w := by
  rintro ⟨o, ho, -⟩
  rw [supervise_refused h timeout] at ho
  cases ho

theorem starts_run (cache : Path) (c : Call) (w : World)
    (hfiles : ∀ detail, (c.run cache w).1 ≠ .error (.io detail)) :
    (Usable cache c.archive (opened cache w) → (c.run cache w).2.started = w.started) ∧
    (¬ Usable cache c.archive (opened cache w) →
      match c.launch (downloader cache c.archive) (c.site cache w).site with
      | .ok _ => (c.run cache w).2.started =
          w.started ++ [⟨downloader cache c.archive, (c.site cache w).site⟩]
      | .error fault => (c.run cache w).2.started = w.started ∧
          (c.run cache w).1 = .error (.downloadFailed ("curl failed: " ++ fault.message))) := by
  have hwent := went_run cache c w
  generalize c.run cache w = r at hwent hfiles ⊢
  cases hwent with
  | halted he =>
    obtain ⟨detail, rfl⟩ := he
    exact absurd rfl (hfiles detail)
  | found husable => exact ⟨fun _ => (grown_opened cache w).started, fun h => absurd husable h⟩
  | afresh husable hr =>
    refine ⟨fun h => absurd h husable, fun _ => ?_⟩
    have hstarted := started_afresh hr
    rw [started_ran] at hstarted
    split
    · next hlaunch =>
      rw [hlaunch, started_site] at hstarted
      exact hstarted
    · next fault hlaunch =>
      rw [hlaunch, started_site] at hstarted
      refine ⟨hstarted, ?_⟩
      have hend : ¬ EndsWell c.launch (downloader cache c.archive) c.timeout (c.site cache w) :=
        not_endsWell_of_refused hlaunch
      cases hr with
      | failed _ _ hrefused => rw [hrefused fault hlaunch]; rfl
      | rejected h => exact absurd h hend
      | placed h => exact absurd h hend

theorem earned_run {p : Path} (hp : (c.run cache w).1 = .ok p) :
    Usable cache c.archive (opened cache w) ∨
      EndsWell c.launch (downloader cache c.archive) c.timeout (c.site cache w) := by
  have hwent := went_run cache c w
  generalize c.run cache w = r at hwent hp
  cases hwent with
  | halted => cases hp
  | found husable => exact .inl husable
  | afresh _ hr =>
    cases hr with
    | failed => cases hp
    | rejected => cases hp
    | placed hend => exact .inr hend

/-- **What every download keeps, gives and starts.** -/
theorem faithful_run (hc : c.Confined cache) (hw : w.files.Sound) : Faithful cache c w where
  verified _ _ _ ha hp := ⟨Checksum.parse_eq_pinned ha, verified_run hc hw ha hp⟩
  kept _ _ _ _ hl hf := kept_run hc hw hl hf
  starts := starts_run cache c w
  earned _ hp := earned_run hp

end Run

/-! ### Histories -/

/-- The downloads of a history, each with the world it begins in. -/
def visits (cache : Path) : World → List Call → List (Call × World)
  | _, [] => []
  | w, c :: rest => (c, w) :: visits cache (c.run cache w).2 rest

/-- **Every download of every history is faithful.** -/
theorem faithful_visits (cache : Path) (calls : List Call) (w : World) (hw : w.files.Sound)
    (hcalls : ∀ c ∈ calls, c.Confined cache) :
    ∀ visit ∈ visits cache w calls, Faithful cache visit.1 visit.2 := by
  induction calls generalizing w with
  | nil => simp [visits]
  | cons c rest ih =>
    obtain ⟨hc, hrest⟩ := List.forall_mem_cons.1 hcalls
    rw [visits, List.forall_mem_cons]
    exact ⟨faithful_run hc hw, ih _ (sound_run hc hw) hrest⟩

/-! ### Downloads that write -/

def oneDigest : String := "4bf5122f344554c53bde2ebb8cd2b7e3d1600ad631c385a5d7cce23c7785459a"

def twoDigest : String := "dbc1b4c900ffe48d575b5da5c638040125f65db0fe3e24494b76ea986457d986"

theorem parse_oneDigest : Checksum.parse oneDigest = .pinned .sha256 oneDigest := by
  decide +kernel

theorem parse_twoDigest : Checksum.parse twoDigest = .pinned .sha256 twoDigest := by
  decide +kernel

theorem run_of_parse {c : Call} {checksum : Checksum} (h : Checksum.parse c.declared = checksum)
    (cache : Path) (w : World) :
    c.run cache w = attempted (download c.launch cache ⟨c.url, checksum⟩ c.timeout) w := by
  subst h
  rfl

/-- A download with a program that writes some bytes and ends well. -/
def delivery (declared : String) (bytes : Bytes) : Call where
  url := "https://example.org/demo.tar"
  declared := declared
  launch := fun command site =>
    match command.args with
    | [_, _, target, _] => .ok (.instant 0 {
        files := (site.files.write site.cwd.parts target bytes).toOption.getD site.files })
    | _ => .error .invalid
  timeout := 1000

theorem confined_delivery (cache : Path) (declared : String) (bytes : Bytes) :
    (delivery declared bytes).Confined cache := by
  intro site process hprocess time
  cases hprocess
  cases hwrite : site.files.write site.cwd.parts
    (pendingPath cache (delivery declared bytes).archive) bytes with
  | error fault => exact .refl _ _ _
  | ok files => exact Files.written_of_write hwrite

def onePlace : Location := ["cache", pinnedName .sha256 oneDigest]

/-- A cache with the archive of the byte 1. -/
def filled : World where
  files := { entries := [(["cache"], .directory), (onePlace, .file { data := [1] })] }

/-- The archive that is there is taken from the cache, and another one is put beside it. -/
theorem faithful_deliveries :
    (∀ visit ∈ visits "/cache" filled [delivery oneDigest [3], delivery twoDigest [2]],
      Faithful "/cache" visit.1 visit.2) ∧
    ∀ visit ∈ visits "/cache" filled [delivery oneDigest [3], delivery twoDigest [2]],
      (visit.1.run "/cache" visit.2).1.isOk := by
  have hfiles : filled.files.Sound :=
    Files.sound_of_entries (by decide +kernel) (by simp [filled])
  have hcalls : ∀ c ∈ [delivery oneDigest [3], delivery twoDigest [2]], c.Confined "/cache" := by
    simp [confined_delivery]
  have hone : ∀ w, (delivery oneDigest [3]).run "/cache" w = _ :=
    run_of_parse parse_oneDigest "/cache"
  have htwo : ∀ w, (delivery twoDigest [2]).run "/cache" w = _ :=
    run_of_parse parse_twoDigest "/cache"
  have hfirst : ((delivery oneDigest [3]).run "/cache" filled).1.isOk := by
    rw [hone]
    decide +kernel
  have hsecond : ((delivery twoDigest [2]).run "/cache"
      ((delivery oneDigest [3]).run "/cache" filled).2).1.isOk := by
    rw [hone, htwo]
    decide +kernel
  exact ⟨faithful_visits "/cache" _ filled hfiles hcalls,
    List.forall_mem_cons.2 ⟨hfirst, by simpa [visits] using hsecond⟩⟩

/-- A cache with that archive, and a link to it where another one is downloaded to. -/
def linked : World where
  files := {
    entries := filled.files.entries ++
      [(["cache", pinnedName .sha256 twoDigest ++ ".tmp"], .link (pinnedName .sha256 oneDigest))] }

/-- Where there is such a link, a download that succeeds leaves the byte 2 at the name of the archive
that was there. -/
theorem linked_overwrites :
    (delivery twoDigest [2]).Confined "/cache" ∧ linked.files.Sound ∧
    Digest.sha256 [1] = oneDigest ∧ Digest.sha256 [2] = twoDigest ∧
    (linked.files.get? onePlace).map Node.contents = some [1] ∧
    ((delivery twoDigest [2]).run "/cache" linked).1 =
      .ok ("/cache/" ++ pinnedName .sha256 twoDigest : String) ∧
    (((delivery twoDigest [2]).run "/cache" linked).2.files.get? onePlace).map Node.contents =
      some [2] := by
  have hfiles : linked.files.Sound :=
    Files.sound_of_entries (by decide +kernel) (by simp [linked, filled])
  have hrun : ∀ w, (delivery twoDigest [2]).run "/cache" w = _ :=
    run_of_parse parse_twoDigest "/cache"
  refine ⟨confined_delivery "/cache" twoDigest [2], hfiles, by decide +kernel, by decide +kernel,
    by decide, ?_⟩
  rw [hrun]
  decide +kernel

end Formulary.Fetch
