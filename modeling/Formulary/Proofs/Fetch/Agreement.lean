import Formulary.Proofs.Fetch.Apart
import Formulary.Proofs.Machine.Alike
import Formulary.Proofs.Machine.Making

/-!
# What a download depends on

What a download comes to, and what it leaves, depends on what is at its own two places and on
nothing else that another download can change (`run_agrees`): as long as what the downloading
program delivers depends on nothing else (`Call.Steady`), and these places are plain.
-/

namespace Formulary

/-! ### What there is to read -/

/-- A node without the number of its file and the time of its last change. -/
def Node.bare : Node → Node
  | .file f => .file { f with serial := 0, changed := 0 }
  | node => node

theorem Node.isDirectory_bare (node : Node) : node.bare.isDirectory = node.isDirectory := by
  cases node <;> rfl

/-- What is at a place, whatever number it has and whenever it was changed. -/
def Files.bare? (fs : Files) (l : Location) : Option Node := (fs.get? l).map Node.bare

namespace Fetch

/-! ### Programs that deliver the same -/

/-- Two sites are the same as far as a program can see that looks at nothing but where a path leads
to. -/
structure SameFrom (p : Path) (s s' : Site) : Prop where
  cwd : s'.cwd = s.cwd
  env : s'.env = s.env
  place : s'.files.locate s'.cwd.parts p = s.files.locate s.cwd.parts p
  held : ∀ l, s.files.locate s.cwd.parts p = .ok l → s'.files.bare? l = s.files.bare? l

/-- The downloading program gives the file that it writes no further name. -/
def Call.Unnumbered (cache : Path) (c : Call) : Prop :=
  ∀ s process, c.launch (downloader cache c.archive) s = .ok process →
    ∀ time l f, s.files.locate s.cwd.parts (pendingPath cache c.archive) = .ok l →
      (process.after time).files.get? l = some (.file f) →
        f.serial = 0 ∨ ∃ g, s.files.get? l = some (.file g) ∧ f.serial = g.serial

/-- What the downloading program delivers does not depend on the cache: it does the same wherever
the path that it is told to write to leads to the same. -/
structure Call.Steady (cache : Path) (c : Call) : Prop where
  alike : ∀ s s', SameFrom (pendingPath cache c.archive) s s' →
    match c.launch (downloader cache c.archive) s, c.launch (downloader cache c.archive) s' with
    | .error fault, .error fault' => fault = fault'
    | .ok process, .ok process' => process.ending = process'.ending ∧ ∀ time,
        ((process.after time).stdout = (process'.after time).stdout ∧
          (process.after time).stderr = (process'.after time).stderr) ∧
        ∀ l, s.files.locate s.cwd.parts (pendingPath cache c.archive) = .ok l →
          (process'.after time).files.bare? l = (process.after time).files.bare? l
    | _, _ => False
  unnumbered : c.Unnumbered cache

/-! ### Worlds that agree on a download -/

section Agreeing

variable {cache : Path} {base : Except Fault Location} {c : Call} {v w w' : World} {l : Location}
  {name : String}

/-- A place of a download in the directory of the cache. -/
def InWork (cache : Path) (base : Except Fault Location) (c : Call) (l : Location) : Prop :=
  ∃ name ∈ workNames c.archive, Files.placeIn base cache name = .ok l

/-- A world in which a download can be made that is in nobody's way: the directory of the cache is
there, and what is at the places of the download is plain. -/
structure Fits (cache : Path) (base : Except Fault Location) (c : Call) (w : World) : Prop where
  sound : w.files.Sound
  leads : w.files.Leads w.here cache base
  made : cache.text = "" ∨ Files.checkPath cache = .ok () ∧ ∃ d, base = .ok d
  plain : ∀ l, InWork cache base c l → w.files.Plain l
  free : ∀ l, Files.placeIn base cache (cacheName c.archive ++ ".tmp") = .ok l →
    w.files.get? l ≠ some .directory

/-- Two worlds that agree on what is at the places of a download. -/
structure Agree (cache : Path) (base : Except Fault Location) (c : Call) (w w' : World) : Prop where
  cwd : w'.cwd = w.cwd
  env : w'.env = w.env
  stop : SameStop w w'
  left : Fits cache base c w
  right : Fits cache base c w'
  same : ∀ l, InWork cache base c l → w'.files.bare? l = w.files.bare? l

/-- Two worlds agree, and the first one comes from a world by changes at the places of a download
alone. -/
structure Along (cache : Path) (base : Except Fault Location) (c : Call) (v w w' : World) :
    Prop where
  agree : Agree cache base c w w'
  abides : Abides v w
  tended : Files.Tended (InWork cache base c) v.files w.files

theorem inWork_cached (h : Files.placeIn base cache (cacheName c.archive) = .ok l) :
    InWork cache base c l := ⟨_, by simp [workNames], h⟩

theorem inWork_pending (h : Files.placeIn base cache (cacheName c.archive ++ ".tmp") = .ok l) :
    InWork cache base c l := ⟨_, by simp [workNames], h⟩

theorem Fits.locateHere (h : Fits cache base c w) (hname : name ∈ workNames c.archive) :
    w.files.locateHere w.here (cache.join name) = Files.placeIn base cache name :=
  h.leads.locateHere (properName_of_workNames hname)

theorem Fits.locate (h : Fits cache base c w) (hname : name ∈ workNames c.archive) :
    w.files.locate w.here (cache.join name) = Files.placeIn base cache name :=
  h.leads.locate (properName_of_workNames hname) fun l hl => (h.plain l ⟨name, hname, hl⟩).noLink

theorem Fits.step (h : Fits cache base c w) (hhere : v.here = w.here)
    (ht : Files.Tended (InWork cache base c) w.files v.files) : Fits cache base c v where
  sound := ht.sound h.sound
  leads := by
    rw [hhere]
    exact h.leads.of_passable ht.passable ht.back
  made := h.made
  plain := ht.plain h.plain
  free l hl hdir := h.free l hl (ht.back.directory l hdir)

/-- What is done at the places of a download, in two worlds that agree. -/
theorem Along.step {u u' : World} (h : Along cache base c v w w') (hu : Abides w u)
    (hu' : Abides w' u') (ht : Files.Tended (InWork cache base c) w.files u.files)
    (ht' : Files.Tended (InWork cache base c) w'.files u'.files)
    (hsame : ∀ l, InWork cache base c l → u'.files.bare? l = u.files.bare? l) :
    Along cache base c v u u' where
  agree :=
    { cwd := by rw [hu'.cwd, hu.cwd, h.agree.cwd]
      env := by rw [hu'.env, hu.env, h.agree.env]
      stop := h.agree.stop.abides hu hu'
      left := h.agree.left.step (congrArg Path.parts hu.cwd) ht
      right := h.agree.right.step (congrArg Path.parts hu'.cwd) ht'
      same := hsame }
  abides := h.abides.trans hu
  tended := h.tended.trans ht

/-- At a place of the download there is nothing in both worlds, or the same but for numbers. -/
theorem Agree.cases (h : Agree cache base c w w') (hl : InWork cache base c l) :
    (w.files.get? l = none ∧ w'.files.get? l = none) ∨
    ∃ node node', w.files.get? l = some node ∧ w'.files.get? l = some node' ∧
      node'.bare = node.bare := by
  have hsame := h.same l hl
  unfold Files.bare? at hsame
  cases hw : w.files.get? l <;> cases hw' : w'.files.get? l <;>
    rw [hw, hw'] at hsame
  · exact .inl ⟨rfl, rfl⟩
  · cases hsame
  · cases hsame
  · exact .inr ⟨_, _, rfl, rfl, Option.some.inj hsame⟩

theorem Agree.found (h : Agree cache base c w w') (hname : name ∈ workNames c.archive) :
    (∃ e, w.files.find w.here (cache.join name) = .error e ∧
      w'.files.find w'.here (cache.join name) = .error e) ∨
    ∃ l node node', w.files.find w.here (cache.join name) = .ok (l, node) ∧
      w'.files.find w'.here (cache.join name) = .ok (l, node') ∧ node'.bare = node.bare := by
  rw [Files.find_at (h.left.locate hname), Files.find_at (h.right.locate hname)]
  cases hplace : Files.placeIn base cache name with
  | error e => exact .inl ⟨e, rfl, rfl⟩
  | ok l =>
    dsimp only [bind, Except.bind]
    rcases h.cases ⟨name, hname, hplace⟩ with ⟨hw, hw'⟩ | ⟨node, node', hw, hw', hbare⟩ <;>
      rw [hw, hw']
    · exact .inl ⟨_, rfl, rfl⟩
    · exact .inr ⟨l, node, node', rfl, rfl, hbare⟩

/-! ### The steps of a download -/

theorem alike_ask {α : Type} {f : Files → Location → α}
    (h : ∀ w w', Agree cache base c w w' → f w.files w.here = f w'.files w'.here) :
    Act.Alike (Along cache base c v) (Act.ask f) (Act.ask f) :=
  fun w w' hw => ⟨h w w' hw.agree, hw⟩

theorem alike_exists (hname : name ∈ workNames c.archive) :
    Act.Alike (Along cache base c v) (Disk.exists? (cache.join name))
      (Disk.exists? (cache.join name)) := by
  refine alike_ask fun w w' h => ?_
  unfold Files.exists?
  rcases h.found hname with ⟨e, hw, hw'⟩ | ⟨l, node, node', hw, hw', -⟩ <;> rw [hw, hw']
  rfl

theorem readings_bare (node : Node) : readings node.bare = readings node := by
  cases node <;> rfl

theorem alike_mismatch (hname : name ∈ workNames c.archive) (checksum : Checksum) :
    Act.Alike (Along cache base c v) (mismatch? (cache.join name) checksum)
      (mismatch? (cache.join name) checksum) := by
  cases checksum with
  | placeholder raw => exact .pure _
  | pinned algorithm value =>
    unfold mismatch?
    refine .bind ?_ fun actual => .pure _
    refine alike_ask fun w w' h => ?_
    rcases h.found hname with ⟨e, hw, hw'⟩ | ⟨l, node, node', hw, hw', hbare⟩
    · rw [hw, hw']
    · rw [hw, hw']
      dsimp only [bind, Except.bind]
      rw [← readings_bare node, ← hbare, readings_bare]

theorem alike_makeAll :
    Act.Alike (Along cache base c v) (Disk.makeAll cache) (Disk.makeAll cache) := by
  have hmade : ∀ {w}, Fits cache base c w → outcome (Disk.makeAll cache) w = (.ok (), w) := by
    intro w h
    rcases h.made with hempty | ⟨hcheck, d, rfl⟩
    · exact makeAll_of_empty hempty
    · exact makeAll_of_leads h.leads hcheck
  intro w w' h
  rw [hmade h.agree.left, hmade h.agree.right]
  exact ⟨rfl, h⟩

/-- What a change of the files comes to is the same if it is refused for the same reason, or leaves
the same at the places of the download. -/
theorem alike_change {f : Files → Location → Except Fault Files}
    (h : ∀ w w', Agree cache base c w w' →
      (∃ e, f w.files w.here = .error e ∧ f w'.files w'.here = .error e) ∨
      ∃ fs fs', f w.files w.here = .ok fs ∧ f w'.files w'.here = .ok fs' ∧
        Files.Tended (InWork cache base c) w.files fs ∧
        Files.Tended (InWork cache base c) w'.files fs' ∧
        ∀ l, InWork cache base c l → fs'.bare? l = fs.bare? l) :
    Act.Alike (Along cache base c v) (Act.change f) (Act.change f) := by
  intro w w' hw
  rw [outcome_change, outcome_change]
  rcases h w w' hw.agree with ⟨e, he, he'⟩ | ⟨fs, fs', hfs, hfs', ht, ht', hsame⟩
  · rw [he, he']
    exact ⟨rfl, hw⟩
  · rw [hfs, hfs']
    exact ⟨rfl, hw.step (OnFiles.abides ⟨fs, rfl⟩) (OnFiles.abides ⟨fs', rfl⟩) ht ht' hsame⟩

theorem alike_removeFile (hname : name ∈ workNames c.archive) :
    Act.Alike (Along cache base c v) (Disk.removeFile (cache.join name))
      (Disk.removeFile (cache.join name)) := by
  refine alike_change fun w w' h => ?_
  rw [Files.removeFile_at (h.left.locateHere hname), Files.removeFile_at (h.right.locateHere hname)]
  cases hplace : Files.placeIn base cache name with
  | error e => exact .inl ⟨e, rfl, rfl⟩
  | ok l =>
    have hl : InWork cache base c l := ⟨name, hname, hplace⟩
    dsimp only [bind, Except.bind]
    rcases h.cases hl with ⟨hw, hw'⟩ | ⟨node, node', hw, hw', hbare⟩ <;> rw [hw, hw']
    · exact .inl ⟨_, rfl, rfl⟩
    dsimp only
    have hsort : node'.isDirectory = node.isDirectory := by
      rw [← Node.isDirectory_bare, hbare, Node.isDirectory_bare]
    by_cases hdir : node.isDirectory = true
    · exact .inl ⟨_, if_pos hdir, if_pos (hsort ▸ hdir)⟩
    have hnode : w.files.get? l ≠ some .directory := by
      rw [hw]
      rintro ⟨⟩
      exact hdir rfl
    have hnode' : w'.files.get? l ≠ some .directory := by
      rw [hw']
      rintro ⟨⟩
      exact hdir (hsort ▸ rfl)
    refine .inr ⟨_, _, if_neg hdir, if_neg (hsort ▸ hdir), ?_, ?_, fun m hm => ?_⟩
    · exact Files.tended_remove h.left.sound hl (h.left.plain l hl) hnode
    · exact Files.tended_remove h.right.sound hl (h.right.plain l hl) hnode'
    · have hsame := h.same m hm
      unfold Files.bare? at hsame ⊢
      rw [Files.get?_remove_file h.left.sound hnode, Files.get?_remove_file h.right.sound hnode']
      split
      · rfl
      · exact hsame

theorem Agree.directory_iff (h : Agree cache base c w w') (hl : InWork cache base c l) :
    w'.files.get? l = some .directory ↔ w.files.get? l = some .directory := by
  rcases h.cases hl with ⟨hw, hw'⟩ | ⟨node, node', hw, hw', hbare⟩ <;> rw [hw, hw']
  rw [Option.some.injEq, Option.some.injEq, ← not_iff_not, ← ne_eq, ← ne_eq,
    ← Files.isDirectory_eq_false, ← Files.isDirectory_eq_false, ← Node.isDirectory_bare, hbare,
    Node.isDirectory_bare]

/-- What putting a download in its place comes to. -/
theorem Fits.rename_eq (h : Fits cache base c w) :
    w.files.rename w.here (pendingPath cache c.archive) (cachedPath cache c.archive) =
      w.files.moveAt (Files.placeIn base cache (cacheName c.archive ++ ".tmp"))
        (Files.placeIn base cache (cacheName c.archive)) := by
  have hpending : cacheName c.archive ++ ".tmp" ∈ workNames c.archive := by simp [workNames]
  have hcached : cacheName c.archive ∈ workNames c.archive := by simp [workNames]
  refine Files.rename_at (h.locateHere hpending) (h.locateHere hcached) (fun l t hl ht => ?_)
    fun l hl => ⟨h.plain l (inWork_pending hl), h.free l hl⟩
  obtain ⟨d, hd, rfl⟩ := Files.placeIn_eq_ok (properName_of_workNames hpending) hl
  obtain ⟨d', hd', rfl⟩ := Files.placeIn_eq_ok (properName_of_workNames hcached) ht
  cases hd.symm.trans hd'
  simpa using (pending_ne c.archive).symm

theorem alike_rename :
    Act.Alike (Along cache base c v)
      (Disk.rename (pendingPath cache c.archive) (cachedPath cache c.archive))
      (Disk.rename (pendingPath cache c.archive) (cachedPath cache c.archive)) := by
  have hpending : cacheName c.archive ++ ".tmp" ∈ workNames c.archive := by simp [workNames]
  have hcached : cacheName c.archive ∈ workNames c.archive := by simp [workNames]
  have hpath := properName_of_workNames hpending
  have hpath' := properName_of_workNames hcached
  have hnames := pending_ne c.archive
  refine alike_change fun w w' h => ?_
  rw [h.left.rename_eq, h.right.rename_eq]
  unfold Files.moveAt
  cases hl : Files.placeIn base cache (cacheName c.archive ++ ".tmp") with
  | error e => exact .inl ⟨e, rfl, rfl⟩
  | ok l =>
    dsimp only [bind, Except.bind]
    rcases h.cases (inWork_pending hl) with ⟨hw, hw'⟩ | ⟨node, node', hw, hw', -⟩ <;> rw [hw, hw']
    · exact .inl ⟨_, rfl, rfl⟩
    dsimp only
    cases ht : Files.placeIn base cache (cacheName c.archive) with
    | error e => exact .inl ⟨e, rfl, rfl⟩
    | ok t =>
      dsimp only
      have hdir := h.directory_iff (inWork_cached ht)
      by_cases hw : w.files.get? t = some .directory
      · exact .inl ⟨_, if_pos hw, if_pos (hdir.2 hw)⟩
      have hown := And.intro (inWork_pending (c := c) hl) (inWork_cached (c := c) ht)
      have hfree := h.left.free l hl
      have hfree' := h.right.free l hl
      obtain ⟨d, hd, rfl⟩ := Files.placeIn_eq_ok hpath hl
      obtain ⟨d', hd', rfl⟩ := Files.placeIn_eq_ok hpath' ht
      obtain rfl : d = d' := Except.ok.inj (hd.symm.trans hd')
      subst hd
      refine .inr ⟨_, _, if_neg hw, if_neg (mt hdir.1 hw), ?_, ?_, fun m hm => ?_⟩
      · exact Files.tended_move hnames h.left.sound h.left.leads.directory hown h.left.plain
          hfree hw
      · exact Files.tended_move hnames h.right.sound h.right.leads.directory hown h.right.plain
          hfree' (mt hdir.1 hw)
      · have hsame := h.same m hm
        have hheld := h.same _ hown.1
        unfold Files.bare? at hsame hheld ⊢
        rw [Files.get?_moveTree_file hnames h.left.sound hfree hw,
          Files.get?_moveTree_file hnames h.right.sound hfree' (mt hdir.1 hw)]
        split
        · exact hheld
        · split
          · rfl
          · exact hsame

theorem alike_useCached :
    Attempt.Alike (Along cache base c v) (useCached cache c.archive)
      (useCached cache c.archive) := by
  have hcached : cacheName c.archive ∈ workNames c.archive := by simp [workNames]
  unfold useCached
  refine .bind (.lift (alike_exists hcached)) fun there => ?_
  split
  · refine .bind (.io (alike_mismatch hcached _)) fun found => ?_
    split
    · exact .pure _
    · exact .bind (.io (alike_removeFile hcached)) fun _ => .pure _
  · exact .pure _

theorem Agree.same_after (hc : c.Confined cache) (h : Agree cache base c w w')
    {process process' : Process}
    (hprocess : c.launch (downloader cache c.archive) w.site = .ok process)
    (hprocess' : c.launch (downloader cache c.archive) w'.site = .ok process') (time : Millis)
    (hheld : ∀ l, w.files.locate w.here (pendingPath cache c.archive) = .ok l →
      (process'.after time).files.bare? l = (process.after time).files.bare? l)
    (hl : InWork cache base c l) :
    (process'.after time).files.bare? l = (process.after time).files.bare? l := by
  have hmem : cacheName c.archive ++ ".tmp" ∈ workNames c.archive := by simp [workNames]
  have hlocate := h.left.locate hmem
  have hlocate' := h.right.locate hmem
  by_cases hpending : Files.placeIn base cache (cacheName c.archive ++ ".tmp") = .ok l
  · exact hheld l (hlocate.trans hpending)
  · -- the place of the cached file is not the one that is written to
    have hled : ∀ {w}, Fits cache base c w →
        ¬ w.files.LeadsTo w.here (pendingPath cache c.archive) l := by
      intro w hw hlead
      obtain ⟨m, hm, -⟩ := id hlead
      have hplace := (hw.locate hmem).symm.trans hm
      have hplain := hw.plain m (inWork_pending hplace)
      rw [hplain.eq_of_leadsTo hm hlead] at hpending
      exact hpending hplace
    have hsame := h.same l hl
    unfold Files.bare? at hsame ⊢
    rw [(hc w.site process hprocess time).elsewhere l (hled h.left),
      (hc w'.site process' hprocess' time).elsewhere l (hled h.right)]
    exact hsame

/-- The downloading program changes what is at the place that it is told to write to. -/
theorem Fits.tended_after (h : Fits cache base c w) (hc : c.Confined cache)
    (hn : c.Unnumbered cache) {process : Process}
    (hprocess : c.launch (downloader cache c.archive) w.site = .ok process) (time : Millis) :
    Files.Tended (InWork cache base c) w.files (process.after time).files := by
  have hmem : cacheName c.archive ++ ".tmp" ∈ workNames c.archive := by simp [workNames]
  have hlocate := h.locate hmem
  refine Files.tended_written (hc w.site process hprocess time) (fun l hl => ?_)
    (hn w.site process hprocess time)
  have hwork : InWork cache base c l := inWork_pending (hlocate.symm.trans hl)
  exact ⟨hwork, h.plain l hwork⟩

section Supervised

variable (hc : c.Confined cache) (hs : c.Steady cache)

include hc hs

theorem alike_supervise :
    Act.Alike (Along cache base c v)
      (supervise c.launch (downloader cache c.archive) c.timeout)
      (supervise c.launch (downloader cache c.archive) c.timeout) := by
  intro w w' h
  have hmem : cacheName c.archive ++ ".tmp" ∈ workNames c.archive := by simp [workNames]
  have hlocate := h.agree.left.locate hmem
  have hlocate' := h.agree.right.locate hmem
  have hfrom : SameFrom (pendingPath cache c.archive) w.site w'.site :=
    { cwd := h.agree.cwd
      env := h.agree.env
      place := hlocate'.trans hlocate.symm
      held := fun l hl => h.agree.same l (inWork_pending (hlocate.symm.trans hl)) }
  have hsteady := hs.alike _ _ hfrom
  cases hq : c.launch (downloader cache c.archive) w.site with
  | error fault =>
    cases hq' : c.launch (downloader cache c.archive) w'.site with
    | error fault' =>
      rw [hq, hq'] at hsteady
      obtain rfl : fault = fault' := hsteady
      rw [supervise_refused hq, supervise_refused hq']
      exact ⟨rfl, h⟩
    | ok process' =>
      rw [hq, hq'] at hsteady
      exact hsteady.elim
  | ok process =>
    cases hq' : c.launch (downloader cache c.archive) w'.site with
    | error fault' =>
      rw [hq, hq'] at hsteady
      exact hsteady.elim
    | ok process' =>
      rw [hq, hq'] at hsteady
      obtain ⟨hending, hafter⟩ := hsteady
      obtain ⟨hsame, time, ⟨hleft, hfiles⟩, hleft', hfiles'⟩ := supervise_alike c.timeout hq hq'
        hending h.agree.stop fun time => (hafter time).1
      refine ⟨hsame, h.step hleft hleft' ?_ ?_ fun l hl => ?_⟩
      · rw [hfiles]
        exact h.agree.left.tended_after hc hs.unnumbered hq time
      · rw [hfiles']
        exact h.agree.right.tended_after hc hs.unnumbered hq' time
      · rw [hfiles, hfiles']
        exact h.agree.same_after hc hq hq' time (hafter time).2 hl

/-! ### Whole downloads -/

theorem alike_downloadFile :
    Attempt.Alike (Along cache base c v)
      (downloadFile c.launch c.url (pendingPath cache c.archive) c.timeout)
      (downloadFile c.launch c.url (pendingPath cache c.archive) c.timeout) := by
  unfold downloadFile runHelper
  refine .bind (.bind (.orFail (alike_supervise hc hs) _) fun output => ?_) fun _ => .pure _
  split
  · exact .throw _
  · exact .throw _
  · split
    · exact .pure _
    · exact .throw _

theorem alike_downloadAfresh :
    Attempt.Alike (Along cache base c v) (downloadAfresh c.launch cache c.archive c.timeout)
      (downloadAfresh c.launch cache c.archive c.timeout) := by
  have hpending : cacheName c.archive ++ ".tmp" ∈ workNames c.archive := by simp [workNames]
  unfold downloadAfresh
  refine .bind (.tryCatch (alike_downloadFile hc hs) fun e => ?_) fun _ => ?_
  · exact .bind (.lift (alike_removeFile hpending)) fun _ => .throw e
  · refine .bind (.io (alike_mismatch hpending _)) fun found => ?_
    split
    · exact .bind (.io (alike_removeFile hpending)) fun _ => .throw _
    · exact .bind (.io alike_rename) fun _ => .pure _

/-- **A download depends on what is at its own places, and changes nothing else.** -/
theorem run_agrees (h : Agree cache base c w w') :
    (c.run cache w).1 = (c.run cache w').1 ∧
      Along cache base c w (c.run cache w).2 (c.run cache w').2 := by
  have hdownload : Attempt.Alike (Along cache base c w)
      (download c.launch cache c.archive c.timeout)
      (download c.launch cache c.archive c.timeout) := by
    unfold download
    refine .bind (.io alike_makeAll) fun _ => ?_
    refine .bind alike_useCached fun usable => ?_
    split
    · exact .pure _
    · exact alike_downloadAfresh hc hs
  exact hdownload w w' ⟨h, .refl w, .refl _ _⟩

end Supervised

end Agreeing

end Fetch

end Formulary
