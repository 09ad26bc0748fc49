import Formulary.Proofs.Fetch.Swapped

/-!
# What a failed download leaves

All ways in which a download can fail are said once (`Fails`). From them follows what is left of a
download that fails, whatever the cache held before: `leftovers_of_failure`. What was downloaded is
removed, unless a directory has its name in the cache: then it cannot be put in its place, and it
stays where it was downloaded to (`Blocked`).
-/

namespace Formulary.Fetch

variable {launch : Launcher} {cache : Path} {a : Archive} {timeout : Millis} {w v : World}
  {e : Failure}

/-! ### How downloads fail -/

/-- The ways in which a download fails. -/
inductive Fails (launch : Launcher) (cache : Path) (a : Archive) (timeout : Millis) (w : World) :
    Failure → World → Prop
  /-- The files refuse something before the downloading program is asked for. -/
  | halted {e : Failure} (h : ¬ Asks cache a w) : Fails launch cache a timeout w e (opened cache w)
  /-- The program fails, or it is not even started. -/
  | failed {e : Failure} (h : Asks cache a w)
    (hend : ¬ EndsWell launch (downloader cache a) timeout (asked cache a w)) :
    Fails launch cache a timeout w e
      (without (pendingPath cache a) (ran launch cache a timeout (asked cache a w)))
  /-- It ends well, and what it left is not put in its place. -/
  | unsettled {e : Failure} {v : World} (h : Asks cache a w)
    (hend : EndsWell launch (downloader cache a) timeout (asked cache a w))
    (hs : Settled cache a (ran launch cache a timeout (asked cache a w)) (.error e, v)) :
    Fails launch cache a timeout w e v

/-- **All the ways in which a download fails.** -/
theorem fails_of_download (h : attempted (download launch cache a timeout) w = (.error e, v)) :
    Fails launch cache a timeout w e v := by
  rcases download_cases launch cache a timeout w with
    ⟨hasks, e', -, hdownload⟩ | ⟨-, hdownload⟩ | ⟨hasks, -, hdownload⟩ <;> rw [hdownload] at h
  · cases h
    exact .halted hasks
  · cases h
  · rcases downloadAfresh_cases launch cache a timeout (asked cache a w) with
      ⟨hend, hafresh⟩ | ⟨hend, e', -, -, hafresh⟩ <;> rw [hafresh] at h
    · have hsettled := settled_settle cache a (ran launch cache a timeout (asked cache a w))
      rw [h] at hsettled
      exact .unsettled hasks hend hsettled
    · cases h
      exact .failed hasks hend

/-! ### Places -/

section Places

variable {l : Location} {node : Node} {p : Path}

theorem get?_without_file (hw : w.files.Sound) (p : Path) (l : Location) :
    (without p w).files.get? l =
      if w.files.locateHere w.here p = .ok l ∧ w.files.get? l ≠ some .directory then none
      else w.files.get? l := by
  rcases without_cases p w with ⟨hsame, hplace⟩ | ⟨m, hm, hdir, hremoved⟩
  · rw [hsame]
    split
    · next h => exact (hplace l h.1).resolve_right h.2
    · rfl
  · rw [hremoved, hm]
    dsimp only
    rw [Files.get?_remove_file hw hdir]
    by_cases hl : l = m
    · subst hl
      rw [if_pos rfl, if_pos ⟨rfl, hdir⟩]
    · rw [if_neg hl, if_neg fun h => hl (Except.ok.inj h.1).symm]

theorem mismatch_of_unpinned {checksum : Checksum} (h : checksum.isPinned = false) (p : Path)
    (w : World) : (outcome (mismatch? p checksum) w).1 = .ok none := by
  cases checksum with
  | placeholder => rfl
  | pinned => cases h

/-- What is found can be compared with a pinned checksum unless it is a directory. -/
theorem mismatch_eq_ok_iff {checksum : Checksum} (h : checksum.isPinned = true)
    (hfind : w.files.find w.here p = .ok (l, node)) :
    (∃ found, (outcome (mismatch? p checksum) w).1 = .ok found) ↔ node ≠ .directory := by
  cases checksum with
  | placeholder => cases h
  | pinned algorithm value =>
    change (∃ found, ((outcome (digestFile algorithm p) w).1).map
      (fun actual => if actual = value then none else some actual) = .ok found) ↔ _
    have hdigest : (outcome (digestFile algorithm p) w).1 =
        Digest.digestReadings algorithm (readings node) := by
      change (w.files.find w.here p >>= fun found =>
        Digest.digestReadings algorithm (readings found.2)) = _
      rw [hfind]
      rfl
    rw [hdigest]
    by_cases hnode : node = .directory
    · subst hnode
      simp [readings, Digest.digestReadings, Digest.Running.readAll, Except.map]
    · rw [readings_of_ne node hnode, Digest.digestReadings_chunks]
      simp [Except.map, hnode]

/-- The cached file is still there when the downloading program is asked for, unless it was found
not to match. -/
theorem asked_cases (h : Asks cache a w) :
    asked cache a w = opened cache w ∨
      Spoiled cache a (opened cache w) ∧
        asked cache a w = without (cachedPath cache a) (opened cache w) := by
  have hasked : (attempted (useCached cache a) (opened cache w)).2 = asked cache a w := by
    unfold asked
    rfl
  have hchecked := checked_useCached cache a (opened cache w)
  have hfalse := h.2
  generalize attempted (useCached cache a) (opened cache w) = r at hasked hchecked hfalse
  rw [← hasked]
  cases hchecked with
  | absent => exact .inl rfl
  | usable => cases hfalse
  | removed hspoiled => exact .inr ⟨hspoiled, rfl⟩
  | refused => cases hfalse

/-- The downloading program is not asked for when the cached file of a pinned archive is a
directory. -/
theorem not_asks_of_directory (hpinned : a.checksum.isPinned = true)
    (hfind : (opened cache w).files.find w.here (cachedPath cache a) = .ok (l, .directory)) :
    ¬ Asks cache a w := by
  intro h
  rw [← here_opened cache w] at hfind
  have hchecked := checked_useCached cache a (opened cache w)
  have hfalse := h.2
  generalize attempted (useCached cache a) (opened cache w) = r at hchecked hfalse
  cases hchecked with
  | absent hnone =>
    refine hnone ⟨hpinned, ?_⟩
    rw [Files.exists?, hfind]
    rfl
  | usable => cases hfalse
  | removed hspoiled =>
    obtain ⟨actual, hactual⟩ := hspoiled
    exact (mismatch_eq_ok_iff hpinned hfind).1 ⟨_, hactual⟩ rfl
  | refused => cases hfalse

end Places

/-! ### What is left -/

namespace Call

/-- What was downloaded cannot be put in its place: a directory has its name in the cache. With a
pinned checksum it would not have been downloaded. -/
structure Blocked (cache : Path) (c : Call) (w : World) : Prop where
  unpinned : c.archive.checksum.isPinned = false
  ended : EndsWell c.launch (downloader cache c.archive) c.timeout (c.site cache w)
  place : ∃ l, (opened cache w).files.findHere w.here (cachedPath cache c.archive) =
    .ok (l, .directory)

/-- By a link, or by a further name of one file, what is downloaded is written to a place that is
not the one it is downloaded to. -/
def Through (cache : Path) (c : Call) (w : World) (l : Location) : Prop :=
  (c.site cache w).files.LeadsTo w.here (pendingPath cache c.archive) l ∧
    (c.site cache w).files.locateHere w.here (pendingPath cache c.archive) ≠ .ok l

end Call

/-- What a download that fails leaves. -/
structure Leftovers (cache : Path) (c : Call) (w : World) (e : Failure) (v : World) : Prop where
  /-- To make the directory of the cache is to add directories. -/
  made : Grown w (opened cache w)
  /-- Unless the downloading program is asked for, nothing changes but that the directory of the
  cache is made. -/
  halted : ¬ Asks cache c.archive w → v = opened cache w
  /-- If it is asked for, then afterwards nothing is where it downloads to but a directory or a link
  that was there before; or else the download is blocked. -/
  pending : Asks cache c.archive w → ∀ l node,
    v.files.findHere w.here (pendingPath cache c.archive) = .ok (l, node) →
      c.Blocked cache w ∨
      (opened cache w).files.findHere w.here (pendingPath cache c.archive) = .ok (l, node) ∧
        (node = .directory ∨ ∃ target, node = .link target)
  /-- A download that is blocked stays as the downloading program left it. -/
  blocked : Asks cache c.archive w → c.Blocked cache w → ∀ l node,
    (c.left cache w).files.findHere w.here (pendingPath cache c.archive) = .ok (l, node) →
      node ≠ .directory → e = .io Fault.isDirectory.message ∧ v = c.left cache w
  /-- Nothing is new but what was written by way of a link or a further name, and a download that is
  blocked. -/
  added : ∀ l node, v.files.get? l = some node →
    (opened cache w).files.get? l = some node ∨ c.Through cache w l ∨
      c.Blocked cache w ∧
        (c.site cache w).files.locateHere w.here (pendingPath cache c.archive) = .ok l
  /-- The cached file is as it was; or it did not match, and it is gone; or it was written by way of
  a link or a further name. -/
  cached : ∀ l node,
    (opened cache w).files.findHere w.here (cachedPath cache c.archive) = .ok (l, node) →
      v.files.get? l = some node ∨
      Spoiled cache c.archive (opened cache w) ∧ v.files.get? l = none ∨
      c.Through cache w l
  /-- So if nothing is in the way and the download is not blocked, nothing is where it downloads to,
  and all else is as it was, but for a cached file that did not match. -/
  clean : Asks cache c.archive w → c.Clear cache w → ¬ c.Blocked cache w →
    (∀ l, (opened cache w).files.locateHere w.here (pendingPath cache c.archive) = .ok l →
      v.files.get? l = none) ∧
    ∀ l, (opened cache w).files.locateHere w.here (pendingPath cache c.archive) ≠ .ok l →
      v.files.get? l = (opened cache w).files.get? l ∨
      Spoiled cache c.archive (opened cache w) ∧ v.files.get? l = none ∧
        (opened cache w).files.locateHere w.here (cachedPath cache c.archive) = .ok l

section Run

variable {c : Call} {l : Location} {node : Node}

theorem exists_named {fs : Files} {cwd : Location}
    (hl : fs.locateHere cwd (pendingPath cache c.archive) = .ok l) :
    ∃ x d, l = d ++ [cacheName c.archive ++ ".tmp"] ∧
      Files.Named fs cwd cache (cacheName c.archive ++ ".tmp") x d ∧
      Files.Named fs cwd cache (cacheName c.archive) x d := by
  have hcached := properName_cached c.url c.declared
  have hpending := properName_pending c.url c.declared
  obtain ⟨x, d, hnamed, rfl⟩ := (Files.locateHere_join_iff hpending).1 hl
  exact ⟨x, d, rfl, hnamed, hnamed.shorten hcached hpending⟩

theorem place_of_passable {fs fs' : Files} {cwd : Location} (hp : Files.Passable fs fs')
    (hl : fs.locateHere cwd (pendingPath cache c.archive) = .ok l) :
    fs'.locateHere cwd (pendingPath cache c.archive) = .ok l :=
  Files.locateHere_of_passable (properName_pending c.url c.declared) hp hl

theorem ne_cached {fs : Files} {cwd d : Location}
    (hl : fs.locateHere cwd (pendingPath cache c.archive) = .ok l) :
    l ≠ d ++ [cacheName c.archive] := by
  rintro rfl
  obtain ⟨x, d', hsame, -⟩ := exists_named hl
  have hname := (List.append_inj' hsame rfl).2
  exact pending_ne c.archive (List.cons.inj hname).1.symm

/-! What is where it is downloaded to, by the way in which the download failed. -/

theorem directory_of_without (hw : w.files.Sound) {p : Path}
    (hl : w.files.locateHere w.here p = .ok l) (hv : (without p w).files.get? l = some node) :
    node = .directory ∧ w.files.get? l = some node := by
  rw [get?_without_file hw] at hv
  split at hv
  · cases hv
  · next hkept =>
    have hdir : w.files.get? l = some .directory := by
      by_contra hdir
      exact hkept ⟨hl, hdir⟩
    exact ⟨Option.some.inj (hv.symm.trans hdir), hv⟩

theorem still_of_unreadable {fault : Fault}
    (hread : (outcome (mismatch? (pendingPath cache c.archive) c.archive.checksum) w).1 =
      .error fault)
    (hl : w.files.locateHere w.here (pendingPath cache c.archive) = .ok l)
    (hnode : w.files.get? l = some node) : node = .directory ∨ ∃ target, node = .link target := by
  by_contra hother
  rw [not_or, not_exists] at hother
  obtain ⟨x, d, rfl, hnamed, -⟩ := exists_named hl
  have hfind := hnamed.find (properName_pending c.url c.declared) hnode hother.2
  cases hpinned : c.archive.checksum.isPinned with
  | false =>
    rw [mismatch_of_unpinned hpinned] at hread
    cases hread
  | true =>
    obtain ⟨found, hfound⟩ := (mismatch_eq_ok_iff hpinned hfind).2 hother.1
    rw [show pendingPath cache c.archive = cache.join (cacheName c.archive ++ ".tmp") from rfl,
      hfound] at hread
    cases hread

theorem blocked_of_unplaced (hc : c.Confined cache) (hasks : Asks cache c.archive w)
    (hend : EndsWell c.launch (downloader cache c.archive) c.timeout (c.site cache w))
    {fault : Fault}
    (hrename : (c.left cache w).files.rename w.here (pendingPath cache c.archive)
      (cachedPath cache c.archive) = .error fault)
    (hl : (c.left cache w).files.locateHere w.here (pendingPath cache c.archive) = .ok l)
    (hnode : (c.left cache w).files.get? l = some node) (hdir : node ≠ .directory) :
    c.Blocked cache w ∧ fault = .isDirectory := by
  have hpassable := passable_left hc w
  obtain ⟨x, d, rfl, hpending, hcached⟩ := exists_named hl
  have hname := properName_cached c.url c.declared
  obtain ⟨hfault, hplace⟩ := (Files.rename_eq_error_iff (properName_pending c.url c.declared) hname
    (pending_ne _) hpending hcached hnode hdir).1 hrename
  -- the directory in the way was there before
  have hthere := hpassable.directory _ hplace
  have hopened := hcached.of_passable hpassable
  have hlocate := (Files.locateHere_join_iff hname).2 ⟨x, d, hopened, rfl⟩
  refine ⟨⟨?_, hend, d ++ [cacheName c.archive], bind_eq_ok.2 ⟨_, hlocate, ?_⟩⟩, hfault⟩
  · by_contra hpinned
    have hfind := hopened.find hname hthere (by simp)
    exact not_asks_of_directory (by simpa using hpinned) hfind hasks
  · unfold Files.present
    rw [hthere]

/-- A download that fails before the downloading program is asked for leaves all as it was. -/
theorem halted_of_fails (hf : Fails c.launch cache c.archive c.timeout w e v)
    (hasks : ¬ Asks cache c.archive w) : v = opened cache w := by
  cases hf with
  | halted => rfl
  | failed hthere => exact absurd hthere hasks
  | unsettled hthere => exact absurd hthere hasks

/-! ### What a failing download leaves -/

section Asked

variable (hf : Fails c.launch cache c.archive c.timeout w e v) (hasks : Asks cache c.archive w)

include hf hasks

theorem cases_of_fails :
    v = c.left cache w ∨ v = without (pendingPath cache c.archive) (c.left cache w) := by
  cases hf with
  | halted h => exact absurd hasks h
  | failed => exact .inr rfl
  | unsettled _ _ hs =>
    cases hs with
    | unreadable => exact .inl rfl
    | mismatched => exact .inr rfl
    | unplaced => exact .inl rfl

theorem kept_of_fails : Files.Kept v.files (c.left cache w).files := by
  rcases cases_of_fails hf hasks with rfl | rfl
  · exact .refl _
  · exact kept_without _ _

theorem held_of_fails (hc : c.Confined cache) (hw : w.files.Sound)
    (hl : (c.left cache w).files.locateHere w.here (pendingPath cache c.archive) = .ok l)
    (hv : v.files.get? l = some node) :
    c.Blocked cache w ∨
      (opened cache w).files.get? l = some node ∧
        (node = .directory ∨ ∃ target, node = .link target) := by
  have hpassable := passable_left hc w
  have hsound := sound_left hc hw
  have hl' := hl
  rw [← here_left cache c w] at hl'
  -- a directory or a link that is there when the downloading program has run was there before
  have hthere : (c.left cache w).files.get? l = some node →
      (node = .directory ∨ ∃ target, node = .link target) →
      (opened cache w).files.get? l = some node ∧
        (node = .directory ∨ ∃ target, node = .link target) := by
    rintro hget (rfl | ⟨target, rfl⟩)
    · exact ⟨hpassable.directory l hget, .inl rfl⟩
    · exact ⟨hpassable.link l target hget, .inr ⟨target, rfl⟩⟩
  cases hf with
  | halted h => exact absurd hasks h
  | failed =>
    obtain ⟨hdir, hget⟩ := directory_of_without hsound hl' hv
    exact .inr (hthere hget (.inl hdir))
  | unsettled _ hend hs =>
    cases hs with
    | mismatched =>
      obtain ⟨hdir, hget⟩ := directory_of_without hsound hl' hv
      exact .inr (hthere hget (.inl hdir))
    | unreadable hread => exact .inr (hthere hv (still_of_unreadable hread hl' hv))
    | unplaced hrename =>
      rw [here_left] at hrename
      by_cases hdir : node = .directory
      · exact .inr (hthere hv (.inl hdir))
      · exact .inl (blocked_of_unplaced hc hasks hend hrename hl hv hdir).1

theorem pending_of_fails (hc : c.Confined cache) (hw : w.files.Sound)
    (hfind : v.files.findHere w.here (pendingPath cache c.archive) = .ok (l, node)) :
    c.Blocked cache w ∨
      (opened cache w).files.findHere w.here (pendingPath cache c.archive) = .ok (l, node) ∧
        (node = .directory ∨ ∃ target, node = .link target) := by
  obtain ⟨hlocate, hnode⟩ := Files.findHere_eq_ok hfind
  have hleft := place_of_passable (kept_of_fails hf hasks).passable hlocate
  have hopened := place_of_passable (passable_left hc w) hleft
  refine (held_of_fails hf hasks hc hw hleft hnode).imp id fun ⟨hget, hother⟩ => ⟨?_, hother⟩
  refine bind_eq_ok.2 ⟨l, hopened, ?_⟩
  unfold Files.present
  rw [hget]

theorem blocked_of_fails (hc : c.Confined cache) (hblocked : c.Blocked cache w)
    (hfind : (c.left cache w).files.findHere w.here (pendingPath cache c.archive) = .ok (l, node))
    (hnode : node ≠ .directory) : e = .io Fault.isDirectory.message ∧ v = c.left cache w := by
  obtain ⟨hlocate, hget⟩ := Files.findHere_eq_ok hfind
  have hread :=
    mismatch_of_unpinned hblocked.unpinned (pendingPath cache c.archive) (c.left cache w)
  cases hf with
  | halted hnot => exact absurd hasks hnot
  | failed _ hend => exact absurd hblocked.ended hend
  | unsettled _ hend hs =>
    cases hs with
    | unreadable hfault => cases hread.symm.trans hfault
    | mismatched hactual => cases hread.symm.trans hactual
    | unplaced hrename =>
      rw [here_left] at hrename
      obtain ⟨-, rfl⟩ := blocked_of_unplaced hc hasks hend hrename hlocate hget hnode
      exact ⟨rfl, rfl⟩

/-- What is left and was not there before was written by the downloading program. -/
theorem added_of_fails (hc : c.Confined cache) (hw : w.files.Sound)
    (hnode : v.files.get? l = some node) :
    (opened cache w).files.get? l = some node ∨ c.Through cache w l ∨
      c.Blocked cache w ∧
        (c.site cache w).files.locateHere w.here (pendingPath cache c.archive) = .ok l := by
  have hwritten := written_ran hc c.timeout (c.site cache w)
  rw [here_site] at hwritten
  by_cases hlead : (c.site cache w).files.LeadsTo w.here (pendingPath cache c.archive) l
  · by_cases hplace :
        (c.site cache w).files.locateHere w.here (pendingPath cache c.archive) = .ok l
    · have hlocate := place_of_passable hwritten.back hplace
      rcases held_of_fails hf hasks hc hw hlocate hnode with hblocked | ⟨hthere, -⟩
      · exact .inr (.inr ⟨hblocked, hplace⟩)
      · exact .inl hthere
    · exact .inr (.inl ⟨hlead, hplace⟩)
  · have hget := kept_of_fails hf hasks l node hnode
    rw [hwritten.elsewhere l hlead] at hget
    exact .inl (kept_asked cache c.archive w l node hget)

/-- The downloading program writes to nothing else, and nothing else is removed after it has run. -/
theorem get?_of_fails (hc : c.Confined cache) (hw : w.files.Sound)
    (hlead : ¬ (c.site cache w).files.LeadsTo w.here (pendingPath cache c.archive) l)
    (hplace : (c.left cache w).files.locateHere w.here (pendingPath cache c.archive) ≠ .ok l) :
    v.files.get? l = (c.site cache w).files.get? l := by
  have hwritten := written_ran hc c.timeout (c.site cache w)
  rw [here_site] at hwritten
  rw [← hwritten.elsewhere l hlead]
  rw [← here_left cache c w] at hplace
  rcases cases_of_fails hf hasks with rfl | rfl
  · rfl
  · rw [get?_without_file (sound_left hc hw), if_neg fun h => hplace h.1]

omit hf in
/-- Before it has run, only a cached file that did not match has gone. -/
theorem get?_site_cases (hw : w.files.Sound) (l : Location) :
    (c.site cache w).files.get? l = (opened cache w).files.get? l ∨
      (opened cache w).files.get? l ≠ some .directory ∧
        Spoiled cache c.archive (opened cache w) ∧ (c.site cache w).files.get? l = none ∧
        (opened cache w).files.locateHere w.here (cachedPath cache c.archive) = .ok l := by
  rcases asked_cases hasks with hsame | ⟨hspoiled, hremoved⟩
  · rw [Call.site, hsame]
    exact .inl rfl
  · rw [Call.site, hremoved, get?_without_file ((grown_opened cache w).sound hw), here_opened]
    split
    · next hplace => exact .inr ⟨hplace.2, hspoiled, rfl, hplace.1⟩
    · exact .inl rfl

theorem cached_of_fails (hc : c.Confined cache) (hw : w.files.Sound)
    (hfind : (opened cache w).files.findHere w.here (cachedPath cache c.archive) = .ok (l, node)) :
    v.files.get? l = some node ∨
      Spoiled cache c.archive (opened cache w) ∧ v.files.get? l = none ∨
      c.Through cache w l := by
  obtain ⟨hlocate, hnode⟩ := Files.findHere_eq_ok hfind
  obtain ⟨x, d, -, rfl⟩ :=
    (Files.locateHere_join_iff (properName_cached c.url c.declared)).1 hlocate
  by_cases hthrough : c.Through cache w (d ++ [cacheName c.archive])
  · exact .inr (.inr hthrough)
  have hlead : ¬ (c.site cache w).files.LeadsTo w.here (pendingPath cache c.archive)
      (d ++ [cacheName c.archive]) :=
    fun hlead => hthrough ⟨hlead, fun hplace => ne_cached hplace rfl⟩
  rw [get?_of_fails hf hasks hc hw hlead fun hplace => ne_cached hplace rfl, ← hnode]
  rcases get?_site_cases hasks hw (d ++ [cacheName c.archive]) with hsame | ⟨-, hspoiled, hgone, -⟩
  · exact .inl hsame
  · exact .inr (.inl ⟨hspoiled, hgone⟩)

omit hf hasks in
/-- Where nothing is in the way, what is downloaded is written to no other place. -/
theorem place_of_leadsTo (hclear : c.Clear cache w)
    (h : (c.site cache w).files.LeadsTo w.here (pendingPath cache c.archive) l) :
    (opened cache w).files.locateHere w.here (pendingPath cache c.archive) = .ok l := by
  have hkept := kept_asked cache c.archive w
  have hplain : ∀ m, (c.site cache w).files.locateHere w.here (pendingPath cache c.archive) =
      .ok m → (c.site cache w).files.Plain m := by
    intro m hm
    have hopened := place_of_passable hkept.passable hm
    exact (hclear.plain m ⟨_, by simp [workNames], hopened⟩).of_kept hkept
  obtain ⟨m, hm, -⟩ := id h
  have hhere := Files.locateHere_of_locate (properName_pending c.url c.declared)
    (fun m hm => (hplain m hm).noLink) hm
  rw [(hplain m hhere).eq_of_leadsTo hm h]
  exact place_of_passable hkept.passable hhere

omit hf in
/-- Where nothing is in the way, the way to the cache is open when the downloading program is asked
for. -/
theorem passable_site (hw : w.files.Sound) (hclear : c.Clear cache w) :
    Files.Passable (opened cache w).files (c.site cache w).files := by
  refine Files.passable_of_still fun l => (get?_site_cases hasks hw l).imp id ?_
  rintro ⟨hdir, -, -, hl⟩
  exact ⟨hdir, (hclear.plain l ⟨_, by simp [workNames], hl⟩).noLink⟩

theorem clean_of_fails (hc : c.Confined cache) (hw : w.files.Sound) (hclear : c.Clear cache w)
    (hblocked : ¬ c.Blocked cache w) :
    (∀ l, (opened cache w).files.locateHere w.here (pendingPath cache c.archive) = .ok l →
      v.files.get? l = none) ∧
    ∀ l, (opened cache w).files.locateHere w.here (pendingPath cache c.archive) ≠ .ok l →
      v.files.get? l = (opened cache w).files.get? l ∨
      Spoiled cache c.archive (opened cache w) ∧ v.files.get? l = none ∧
        (opened cache w).files.locateHere w.here (cachedPath cache c.archive) = .ok l := by
  have hpassable := passable_left hc w
  constructor
  · intro l hl
    have hrun := (written_ran hc c.timeout (c.site cache w)).back
    have hleft := place_of_passable ((passable_site hasks hw hclear).trans hrun) hl
    have hworks : c.Works cache w l := ⟨_, by simp [workNames], hl⟩
    cases hget : v.files.get? l with
    | none => rfl
    | some node =>
      obtain ⟨hthere, rfl | ⟨target, rfl⟩⟩ :=
        (held_of_fails hf hasks hc hw hleft hget).resolve_left hblocked
      · exact absurd hthere (hclear.free l hl)
      · exact absurd hthere ((hclear.plain l hworks).noLink target)
  · intro l hl
    have hlead := fun h => hl (place_of_leadsTo (l := l) hclear h)
    have hplace := fun h => hl (place_of_passable hpassable h)
    rw [get?_of_fails hf hasks hc hw hlead hplace]
    exact (get?_site_cases hasks hw l).imp id And.right

end Asked

/-- **What every download that fails leaves.** -/
theorem leftovers_of_failure (hc : c.Confined cache) (hw : w.files.Sound)
    (h : (c.run cache w).1 = .error e) : Leftovers cache c w e (c.run cache w).2 := by
  have hf : Fails c.launch cache c.archive c.timeout w e (c.run cache w).2 :=
    fails_of_download (Prod.ext h rfl)
  refine ⟨grown_opened cache w, halted_of_fails hf,
    fun hasks _ _ => pending_of_fails hf hasks hc hw,
    fun hasks hblocked _ _ => blocked_of_fails hf hasks hc hblocked, fun l node hnode => ?_,
    fun l node hfind => ?_, fun hasks => clean_of_fails hf hasks hc hw⟩
  · by_cases hasks : Asks cache c.archive w
    · exact added_of_fails hf hasks hc hw hnode
    · rw [halted_of_fails hf hasks] at hnode
      exact .inl hnode
  · by_cases hasks : Asks cache c.archive w
    · exact cached_of_fails hf hasks hc hw hfind
    · rw [halted_of_fails hf hasks]
      exact .inl (Files.findHere_eq_ok hfind).2

def threeDigest : String := "084fed08b978af4d7d196a7446a86b58009e636b611db16211b65a9aadff29c5"

/-- A download of other bytes than were declared. -/
theorem leftovers_of_mismatch :
    ((delivery twoDigest [3]).run "/cache" filled).1 =
      .error (.checksumMismatch ("sha256:" ++ twoDigest) ("sha256:" ++ threeDigest)) ∧
    Leftovers "/cache" (delivery twoDigest [3]) filled
      (.checksumMismatch ("sha256:" ++ twoDigest) ("sha256:" ++ threeDigest))
      ((delivery twoDigest [3]).run "/cache" filled).2 := by
  have hfiles : filled.files.Sound :=
    Files.sound_of_entries (by decide +kernel) (by simp [filled])
  have hrun : ((delivery twoDigest [3]).run "/cache" filled).1 =
      .error (.checksumMismatch ("sha256:" ++ twoDigest) ("sha256:" ++ threeDigest)) := by
    rw [run_of_parse parse_twoDigest]
    decide +kernel
  exact ⟨hrun, leftovers_of_failure (confined_delivery "/cache" twoDigest [3]) hfiles hrun⟩

/-- A cache in which a directory has the name of an archive without a checksum. -/
def obstructed : World where
  files := {
    entries := [(["cache"], .directory),
      (["cache", cacheName (delivery "" [2]).archive], .directory)] }

/-- Then a download that fails leaves what was downloaded. -/
theorem blocked_leaves_download :
    (delivery "" [2]).Confined "/cache" ∧ obstructed.files.Sound ∧
    ((delivery "" [2]).run "/cache" obstructed).1 = .error (.io "Is a directory (os error 21)") ∧
    obstructed.files.get? ["cache", cacheName (delivery "" [2]).archive ++ ".tmp"] = none ∧
    (((delivery "" [2]).run "/cache" obstructed).2.files.get?
      ["cache", cacheName (delivery "" [2]).archive ++ ".tmp"]).map Node.contents = some [2] := by
  have hfiles : obstructed.files.Sound :=
    Files.sound_of_entries (by decide +kernel) (by simp [obstructed])
  exact ⟨confined_delivery "/cache" "" [2], hfiles, by decide +kernel⟩

end Run

end Formulary.Fetch
