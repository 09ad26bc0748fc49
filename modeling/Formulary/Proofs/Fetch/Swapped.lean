import Formulary.Proofs.Fetch.Agreement

/-!
# Downloads in either order

Downloads of different names come to the same in either order, and leave the same files
(`interchange_of_clear`), since each of them depends on its own places alone. Together with what
their names are and what they leave alone this is `downloads_apart`; what can be in the way of it is
shown by `linked_interferes`.
-/

namespace Formulary.Fetch

/-! ### Two downloads -/

section Two

variable {cache : Path} {base : Except Fault Location} {a b : Call} {v w : World} {l : Location}

/-- Downloads of different names work at different places. -/
theorem not_inWork_of_ne (hne : cacheName a.archive ≠ cacheName b.archive)
    (ha : InWork cache base a l) (hb : InWork cache base b l) : False := by
  obtain ⟨name, hname, hplace⟩ := ha
  obtain ⟨name', hname', hplace'⟩ := hb
  obtain ⟨d, -, rfl⟩ := Files.placeIn_eq_ok (properName_of_workNames hname) hplace
  obtain ⟨d', -, hsame⟩ := Files.placeIn_eq_ok (properName_of_workNames hname') hplace'
  have hnames : name = name' := by simpa using (List.append_inj' hsame rfl).2
  exact ne_of_workNames hne hname hname' hnames

/-- After one download the world still fits the other one, and agrees with the one before. -/
theorem Along.other (hne : cacheName a.archive ≠ cacheName b.archive) {w' : World}
    (h : Along cache base a v w w') (ha : Fits cache base a v) (hb : Fits cache base b v)
    (hstop : SameStop v v) : Agree cache base b v w := by
  have hkept : ∀ l, InWork cache base b l → w.files.get? l = v.files.get? l :=
    fun l hl => h.tended.elsewhere l fun hl' => not_inWork_of_ne hne hl' hl
  have hhere : w.here = v.here := congrArg Path.parts h.abides.cwd
  have hfits : Fits cache base b w := by
    refine ⟨h.tended.sound hb.sound, ?_, hb.made, fun l hl => ⟨fun target => ?_, ?_⟩,
      fun l hl => ?_⟩
    · rw [hhere]
      exact hb.leads.of_passable h.tended.passable h.tended.back
    · rw [hkept l hl]
      exact (hb.plain l hl).noLink target
    · intro f hf m g hm hg
      by_cases hown : InWork cache base a m
      · -- what the other download has left is at no other place
        have hplain := (h.tended.plain ha.plain m hown).lone g hg l f hm.symm hf
        by_contra hsame
        rw [Files.isSame_symm (by simpa using hsame)] at hplain
        cases hplain
      · rw [hkept l hl] at hf
        rw [h.tended.elsewhere m hown] at hg
        exact (hb.plain l hl).lone f hf m g hm hg
    · rw [hkept l (inWork_pending hl)]
      exact hb.free l hl
  refine ⟨h.abides.cwd, h.abides.env, hstop.abides (.refl v) h.abides, hb, hfits, fun l hl => ?_⟩
  unfold Files.bare?
  rw [hkept l hl]

theorem Agree.refl (h : Fits cache base a v)
    (hstop : SameStop v v) : Agree cache base a v v :=
  ⟨rfl, rfl, hstop, h, h, fun _ _ => rfl⟩

/-- Two downloads come to the same in either order, and leave the same files. -/
structure Interchange (cache : Path) (a b : Call) (w : World) : Prop where
  first : (a.run cache (b.run cache w).2).1 = (a.run cache w).1
  second : (b.run cache (a.run cache w).2).1 = (b.run cache w).1
  files : ∀ l, (b.run cache (a.run cache w).2).2.files.bare? l =
    (a.run cache (b.run cache w).2).2.files.bare? l

theorem interchange_of_fits (hne : cacheName a.archive ≠ cacheName b.archive)
    (hca : a.Confined cache) (hcb : b.Confined cache) (hsa : a.Steady cache) (hsb : b.Steady cache)
    (ha : Fits cache base a v) (hb : Fits cache base b v)
    (hstop : SameStop v v) : Interchange cache a b v := by
  obtain ⟨-, hfirst⟩ := run_agrees hca hsa (Agree.refl ha hstop)
  obtain ⟨-, hfirst'⟩ := run_agrees hcb hsb (Agree.refl hb hstop)
  -- each download after the other one agrees with the download alone
  have hthen := hfirst.other hne ha hb hstop
  have hthen' := hfirst'.other hne.symm hb ha hstop
  obtain ⟨hresult, hsecond⟩ := run_agrees hcb hsb hthen
  obtain ⟨hresult', hsecond'⟩ := run_agrees hca hsa hthen'
  obtain ⟨-, hlast⟩ := run_agrees hcb hsb
    (Agree.refl hthen.right (hstop.abides hfirst.abides hfirst.abides))
  obtain ⟨-, hlast'⟩ := run_agrees hca hsa
    (Agree.refl hthen'.right (hstop.abides hfirst'.abides hfirst'.abides))
  refine ⟨hresult'.symm, hresult.symm, fun l => ?_⟩
  by_cases hla : InWork cache base a l
  · have hkept := hlast.tended.elsewhere l fun hlb => not_inWork_of_ne hne hla hlb
    rw [hsecond'.agree.same l hla]
    unfold Files.bare?
    rw [hkept]
  by_cases hlb : InWork cache base b l
  · have hkept := hlast'.tended.elsewhere l hla
    rw [hsecond.agree.same l hlb]
    unfold Files.bare?
    rw [hkept]
  · unfold Files.bare?
    rw [hlast.tended.elsewhere l hlb, hfirst.tended.elsewhere l hla,
      hlast'.tended.elsewhere l hla, hfirst'.tended.elsewhere l hlb]

/-! ### The cache when its directory has been made -/

theorem opened_eq (cache : Path) (w : World) :
    opened cache w = (outcome (Disk.makeAll cache) w).2 := by
  unfold opened
  rfl

/-- A download goes on from the world in which the directory of the cache has been made. -/
theorem run_congr (c : Call)
    (h : outcome (Disk.makeAll cache) v = outcome (Disk.makeAll cache) w) :
    c.run cache v = c.run cache w := by
  unfold Call.run download
  rw [attempted_bind, attempted_bind, Attempt.io, attempted_orFail, attempted_orFail, h]

theorem run_of_refused (c : Call) {fault : Fault}
    (h : (outcome (Disk.makeAll cache) w).1 = .error fault) :
    c.run cache w = (.error (.io fault.message), opened cache w) := by
  unfold Call.run download
  rw [attempted_bind, Attempt.io, attempted_orFail, h, opened_eq]
  rfl

/-- Nothing is in the way of a download: what is at its places, when the directory of the cache has
been made, is no link and no file that is at a further place, and no directory is where the file is
downloaded to. -/
structure Call.Clear (cache : Path) (c : Call) (w : World) : Prop where
  plain : ∀ l, c.Works cache w l → (opened cache w).files.Plain l
  free : ∀ l, (opened cache w).files.locateHere w.here (pendingPath cache c.archive) = .ok l →
    (opened cache w).files.get? l ≠ some .directory

theorem fits_of_clear (hw : w.files.Sound) (ha : a.Clear cache w)
    (hleads : (opened cache w).files.Leads (opened cache w).here cache base)
    (hmade : cache.text = "" ∨ Files.checkPath cache = .ok () ∧ ∃ d, base = .ok d) :
    Fits cache base a (opened cache w) := by
  have hplace : ∀ name ∈ workNames a.archive,
      (opened cache w).files.locateHere w.here (cache.join name) = Files.placeIn base cache name :=
    fun name hname => here_opened cache w ▸ hleads.locateHere (properName_of_workNames hname)
  refine ⟨(grown_opened cache w).sound hw, hleads, hmade, fun l hl => ?_, fun l hl => ?_⟩
  · obtain ⟨name, hname, hl⟩ := hl
    exact ha.plain l ⟨name, hname, (hplace name hname).trans hl⟩
  · exact ha.free l ((hplace _ (by simp [workNames])).trans hl)

theorem leads_opened
    (h : outcome (Disk.makeAll cache) (opened cache w) = (.ok (), opened cache w)) :
    ∃ base, (opened cache w).files.Leads (opened cache w).here cache base ∧
      (cache.text = "" ∨ Files.checkPath cache = .ok () ∧ ∃ d, base = .ok d) := by
  by_cases hempty : cache.text = ""
  · have hnames : cache.names = [] := by
      have hcache : cache = ⟨""⟩ := congrArg Path.mk hempty
      rw [hcache]
      decide
    cases hx : (opened cache w).files.start (opened cache w).here cache with
    | error e => exact ⟨_, .nowhere hx, .inl hempty⟩
    | ok x =>
      have hway : (opened cache w).files.Way false 0 x cache.names x := by
        rw [hnames]
        exact .here x
      exact ⟨_, .there hx (Nat.zero_le _) hway, .inl hempty⟩
  · have hdir := (isDirectory_of_makeAll h).resolve_left hempty
    obtain ⟨hcheck, d, hleads⟩ := Files.leads_of_isDirectory hdir
    exact ⟨_, hleads, .inr ⟨hcheck, d, rfl⟩⟩

theorem interchange_of_clear (hne : cacheName a.archive ≠ cacheName b.archive)
    (hca : a.Confined cache) (hcb : b.Confined cache) (hsa : a.Steady cache) (hsb : b.Steady cache)
    (hw : w.files.Sound) (hstop : SameStop w w)
    (hagain : outcome (Disk.makeAll cache) (opened cache w) = outcome (Disk.makeAll cache) w)
    (ha : a.Clear cache w) (hb : b.Clear cache w) : Interchange cache a b w := by
  have hrun : ∀ c : Call, c.run cache (opened cache w) = c.run cache w :=
    fun c => run_congr c hagain
  rcases hmade : (outcome (Disk.makeAll cache) w).1 with fault | ⟨⟩
  · -- both downloads are refused for the same reason
    have hrefused : ∀ c : Call, c.run cache w = (.error (.io fault.message), opened cache w) :=
      fun c => run_of_refused c hmade
    refine ⟨?_, ?_, fun l => ?_⟩ <;> simp only [hrefused, hrun]
  · have hok : outcome (Disk.makeAll cache) (opened cache w) = (.ok (), opened cache w) := by
      rw [hagain, opened_eq, ← hmade]
    obtain ⟨base, hleads, hthere⟩ := leads_opened hok
    have habides : Abides w (opened cache w) := by
      rw [opened_eq]
      exact (onFiles_makeAll cache w).abides
    have hfits := interchange_of_fits hne hca hcb hsa hsb (fits_of_clear hw ha hleads hthere)
      (fits_of_clear hw hb hleads hthere) (hstop.abides habides habides)
    obtain ⟨hfirst, hsecond, hfiles⟩ := hfits
    rw [hrun, hrun] at hfirst hsecond
    refine ⟨hfirst, hsecond, fun l => ?_⟩
    have hl := hfiles l
    rwa [hrun, hrun] at hl

/-- A name of a single thing in a directory. -/
structure SingleIn (cache : Path) (name : String) : Prop where
  proper : ProperName name
  isAbsolute : (cache.join name).isAbsolute = cache.isAbsolute
  names : (cache.join name).names = cache.names ++ [name]

/-- **Downloads of different archives do not interfere.** The names that a download works with are
names of single things in the cache, and archives that are told apart by their checksums, or by the
first digits of their URLs' digests, have none in common. A download leaves alone what is at the
places of another one, unless the downloading program is told to write to a path that leads there.
And where nothing is in the way, two downloads come to the same in either order. -/
theorem downloads_apart (cache : Path) (a b : Call) (hca : a.Confined cache)
    (hcb : b.Confined cache) :
    (∀ name ∈ workNames a.archive, SingleIn cache name) ∧
    (cacheName a.archive = cacheName b.archive ↔ SameKey a.archive b.archive) ∧
    (cacheName a.archive ≠ cacheName b.archive →
      (∀ name ∈ workNames a.archive, ∀ name' ∈ workNames b.archive, name ≠ name') ∧
      (∀ w l, b.Works cache w l → LeftAlone l w (a.run cache w).2 ∨
        (¬ Usable cache a.archive (opened cache w) ∧
          (a.site cache w).files.LeadsTo w.here (pendingPath cache a.archive) l)) ∧
      ∀ w, w.files.Sound → SameStop w w →
        outcome (Disk.makeAll cache) (opened cache w) = outcome (Disk.makeAll cache) w →
        a.Steady cache → b.Steady cache → a.Clear cache w → b.Clear cache w →
          Interchange cache a b w) := by
  refine ⟨fun name hname => ?_, cacheName_eq_iff _ _, fun hne => ⟨?_, ?_, ?_⟩⟩
  · have hproper := properName_of_workNames hname
    exact ⟨hproper, cache.isAbsolute_join hproper.relative, cache.names_join hproper⟩
  · exact fun name hname name' hname' => ne_of_workNames hne hname hname'
  · exact fun w l hl => apart_run hca hne hl
  · intro w hw hstop hagain hsa hsb ha hb
    exact interchange_of_clear hne hca hcb hsa hsb hw hstop hagain ha hb

end Two

/-! ### Downloads that write -/

theorem write_at {fs : Files} {cwd l : Location} {p : Path} (h : fs.locate cwd p = .ok l)
    (bytes : Bytes) :
    (((fs.write cwd p bytes).toOption.getD fs).get? l = fs.get? l ∧
      ∃ node, fs.get? l = some node ∧ ∀ f, node ≠ .file f) ∨
    ∃ f changed, (fs.get? l = none ∧ f = {} ∨ fs.get? l = some (.file f)) ∧
      ((fs.write cwd p bytes).toOption.getD fs).get? l =
        some (.file { f with data := bytes, changed }) := by
  -- a file is emptied, or made, and then filled
  have hfilled : l ≠ [] → ∀ f : File,
      ((fs.change l { f with data := [] }).append l bytes).get? l =
        some (.file { f with data := bytes, changed := fs.turn + 1 }) := by
    intro hl f
    rw [Files.get?_change_append hl, Files.get?_putFile hl, if_pos rfl]
    rfl
  have hempty : l ≠ [] → ∀ f : File, (fs.change l f).get? l ≠ some .full := by
    intro hl f
    rw [Files.get?_change, Files.get?_putFile hl, if_pos rfl]
    simp
  have hne : fs.get? l ≠ some .directory → l ≠ [] := by
    rintro hdir rfl
    exact hdir rfl
  unfold Files.write Files.openForWriting
  rw [h]
  dsimp only [bind, Except.bind]
  cases hget : fs.get? l with
  | none =>
    have hl := hne (by simp [hget])
    refine .inr ⟨{}, fs.turn + 1, .inl ⟨rfl, rfl⟩, ?_⟩
    have hfull := hempty hl {}
    simpa [pure, Except.pure, Except.toOption, hfull] using hfilled hl {}
  | some node =>
    cases node with
    | file f =>
      have hl := hne (by simp [hget])
      refine .inr ⟨f, fs.turn + 1, .inr rfl, ?_⟩
      have hfull := hempty hl { f with data := [] }
      simpa [pure, Except.pure, Except.toOption, hfull] using hfilled hl f
    | directory => exact .inl ⟨hget, _, rfl, by simp⟩
    | full =>
      refine .inl ⟨?_, _, rfl, by simp⟩
      dsimp only [pure, Except.pure]
      split
      · exact hget
      · simp [Files.append, Except.toOption, hget]
    | _ =>
      refine .inl ⟨?_, _, rfl, by simp⟩
      simp [pure, Except.pure, Files.append, Except.toOption, hget]

/-- What there is to read when bytes have been written to where there was something to read. -/
def overwritten (bytes : Bytes) : Option Node → Node
  | none => .file { data := bytes }
  | some (.file f) => .file { f with data := bytes }
  | some node => node

theorem bare_write {fs : Files} {cwd l : Location} {p : Path} (h : fs.locate cwd p = .ok l)
    (bytes : Bytes) :
    ((fs.write cwd p bytes).toOption.getD fs).bare? l = some (overwritten bytes (fs.bare? l)) := by
  unfold Files.bare?
  rcases write_at h bytes with ⟨hsame, node, hnode, hno⟩ | ⟨f, changed, hf, hwritten⟩
  · rw [hsame, hnode]
    cases node with
    | file f => exact absurd rfl (hno f)
    | _ => rfl
  · rw [hwritten]
    rcases hf with ⟨hnone, rfl⟩ | hf
    · rw [hnone]
      rfl
    · rw [hf]
      rfl

/-- The downloading program of a delivery writes, and that is all. -/
theorem launch_delivery (cache : Path) (declared : String) (bytes : Bytes) (site : Site) :
    (delivery declared bytes).launch (downloader cache (delivery declared bytes).archive) site =
      .ok (.instant 0 {
        files := (site.files.write site.cwd.parts
          (pendingPath cache (delivery declared bytes).archive) bytes).toOption.getD
            site.files }) := by
  unfold delivery downloader
  dsimp only

theorem steady_delivery (cache : Path) (declared : String) (bytes : Bytes) :
    (delivery declared bytes).Steady cache where
  alike s s' h := by
    rw [launch_delivery, launch_delivery]
    dsimp only [Process.instant]
    refine ⟨rfl, fun time => ⟨⟨rfl, rfl⟩, fun l hl => ?_⟩⟩
    rw [bare_write hl, bare_write (h.place.trans hl), h.held l hl]
  unnumbered s process hprocess time l f hl hf := by
    rw [launch_delivery] at hprocess
    obtain rfl := Except.ok.inj hprocess
    have hwrite := write_at hl bytes
    dsimp only [Process.instant] at hf
    rw [hf] at hwrite
    rcases hwrite with ⟨hsame, node, hnode, hno⟩ | ⟨g, changed, hg, hwritten⟩
    · rw [hnode] at hsame
      exact absurd (Option.some.inj hsame).symm (hno f)
    · obtain rfl := Node.file.inj (Option.some.inj hwritten)
      exact hg.imp (fun ⟨_, hempty⟩ => by rw [hempty]) fun hg => ⟨g, hg, rfl⟩

/-! ### A cache with an archive -/

theorem opened_filled : opened "/cache" filled = filled := by
  have hdir : filled.files.isDirectory filled.here "/cache" = true := by decide +kernel
  obtain ⟨hcheck, d, hleads⟩ := Files.leads_of_isDirectory hdir
  rw [opened_eq, makeAll_of_leads hleads hcheck]

theorem clear_filled {c : Call} {algorithm : Digest.Algorithm} {value : String} {l : Location}
    (hc : Checksum.parse c.declared = .pinned algorithm value)
    (hplace : filled.files.locateHere filled.here
      (Path.join "/cache" (pinnedName algorithm value ++ ".tmp")) = .ok l)
    (hfree : filled.files.get? l ≠ some .directory) : c.Clear "/cache" filled := by
  refine ⟨fun m _ => ?_, fun m hm => ?_⟩
  · rw [opened_filled]
    exact Files.plain_of_entries (by simp [filled]) m
  · rw [opened_filled, pendingPath, cacheName_eq (a := c.archive) hc] at hm
    rw [opened_filled]
    obtain rfl : m = l := Except.ok.inj (hm.symm.trans hplace)
    exact hfree

/-- An archive that is in the cache, and another one that is put beside it. -/
theorem downloads_apart_filled :
    (∀ l, (delivery oneDigest [3]).Works "/cache" filled l →
      LeftAlone l filled ((delivery twoDigest [2]).run "/cache" filled).2 ∨
        (¬ Usable "/cache" (delivery twoDigest [2]).archive (opened "/cache" filled) ∧
          ((delivery twoDigest [2]).site "/cache" filled).files.LeadsTo filled.here
            (pendingPath "/cache" (delivery twoDigest [2]).archive) l)) ∧
    Interchange "/cache" (delivery twoDigest [2]) (delivery oneDigest [3]) filled := by
  have hone := parse_oneDigest
  have htwo := parse_twoDigest
  have hne : cacheName (delivery twoDigest [2]).archive ≠
      cacheName (delivery oneDigest [3]).archive := by
    rw [cacheName_eq (a := (delivery twoDigest [2]).archive) htwo,
      cacheName_eq (a := (delivery oneDigest [3]).archive) hone]
    decide
  have hfiles : filled.files.Sound :=
    Files.sound_of_entries (by decide +kernel) (by simp [filled])
  obtain ⟨-, -, hapart⟩ := downloads_apart "/cache" (delivery twoDigest [2])
    (delivery oneDigest [3]) (confined_delivery _ _ _) (confined_delivery _ _ _)
  obtain ⟨-, halone, hinterchange⟩ := hapart hne
  refine ⟨halone filled, hinterchange filled hfiles (fun _ _ _ _ => rfl) ?_
    (steady_delivery _ _ _) (steady_delivery _ _ _) ?_ ?_⟩
  · rw [opened_filled]
  · exact clear_filled htwo (l := ["cache", pinnedName .sha256 twoDigest ++ ".tmp"])
      (by decide +kernel) (by decide)
  · exact clear_filled hone (l := ["cache", pinnedName .sha256 oneDigest ++ ".tmp"])
      (by decide +kernel) (by decide)

/-! ### What can be in the way -/

/-- A download with a program that writes nothing and ends with a code. -/
def fruitless (declared : String) (code : Nat) : Call where
  url := "https://example.org"
  declared := declared
  launch := .printing code fun _ => []
  timeout := 1000

theorem confined_fruitless (cache : Path) (declared : String) (code : Nat) :
    (fruitless declared code).Confined cache := by
  intro site process hprocess time
  obtain rfl := Except.ok.inj hprocess
  exact .refl _ _ _

theorem steady_fruitless (cache : Path) (declared : String) (code : Nat) :
    (fruitless declared code).Steady cache where
  alike _ _ h := ⟨rfl, fun _ => ⟨⟨rfl, rfl⟩, h.held⟩⟩
  unnumbered _ process hprocess _ _ f _ hf := by
    obtain rfl := Except.ok.inj hprocess
    exact .inr ⟨f, hf, rfl⟩

/-- A world in which a stop is asked for when it has been looked for twice. -/
def interrupted : World where
  files := { entries := [(["cache"], .directory)] }
  stopRequested := fun k => decide (2 ≤ k)

def blocked : World where
  files := { entries := [(["file"], .file {})] }

def loosePlace : Location := ["cache", "unverified_50d7a905e3046b88.tmp"]

def occupied : World where
  files := { entries := [(["cache"], .directory), (loosePlace, .directory)] }

/-- Two downloads interfere where a link leads from the one to the other: what was there is
overwritten, and is not found any more. Nor do they come to the same in either order if a stop is
asked for between them, if the directory of the cache can be made for neither of them but fails them
for different reasons, or if the way to the cache leads by a directory that one of them takes for
its file. -/
theorem linked_interferes :
    (∀ cache declared bytes code,
      ((delivery declared bytes).Confined cache ∧ (delivery declared bytes).Steady cache) ∧
      (fruitless declared code).Confined cache ∧ (fruitless declared code).Steady cache) ∧
    pinnedName .sha256 oneDigest ≠ pinnedName .sha256 twoDigest ∧ linked.files.Sound ∧
    (linked.files.get? onePlace).map Node.contents = some [1] ∧
    (((delivery twoDigest [2]).run "/cache" linked).2.files.get? onePlace).map Node.contents =
      some [2] ∧
    ¬ Interchange "/cache" (fruitless oneDigest 1) (delivery twoDigest [2]) linked ∧
    ¬ Interchange "/cache" (fruitless oneDigest 1) (fruitless twoDigest 1) interrupted ∧
    ¬ Interchange "/new/../file/cache" (fruitless oneDigest 1) (fruitless twoDigest 1) blocked ∧
    ¬ Interchange "/cache/unverified_50d7a905e3046b88.tmp/.." (fruitless "" 0) (fruitless twoDigest 1)
      occupied := by
  have hdelivered : ∀ cache w, (delivery twoDigest [2]).run cache w = _ :=
    run_of_parse parse_twoDigest
  have hone : ∀ code cache w, (fruitless oneDigest code).run cache w = _ :=
    fun code => run_of_parse parse_oneDigest
  have htwo : ∀ code cache w, (fruitless twoDigest code).run cache w = _ :=
    fun code => run_of_parse parse_twoDigest
  refine ⟨fun cache declared bytes code =>
      ⟨⟨confined_delivery _ _ _, steady_delivery _ _ _⟩, confined_fruitless _ _ _, steady_fruitless _ _ _⟩,
    by decide, Files.sound_of_entries (by decide +kernel) (by simp [linked, filled]),
    by decide +kernel, ?_, fun h => ?_, fun h => ?_, fun h => ?_, fun h => ?_⟩
  · rw [hdelivered]
    decide +kernel
  · -- the archive that was there is lost
    have hfirst := h.first
    rw [hone, hdelivered, hone] at hfirst
    exact absurd hfirst (by decide +kernel)
  · have hfirst := h.first
    rw [hone, htwo, hone] at hfirst
    exact absurd hfirst (by decide +kernel)
  · have hfirst := h.first
    rw [hone, htwo, hone] at hfirst
    exact absurd hfirst (by decide +kernel)
  · have hfiles := h.files loosePlace
    rw [htwo, htwo] at hfiles
    exact absurd hfiles (by decide +kernel)

end Formulary.Fetch
