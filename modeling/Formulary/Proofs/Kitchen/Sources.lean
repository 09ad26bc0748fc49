import Formulary.Kitchen.Cook
import Formulary.Proofs.Descriptor
import Formulary.Proofs.Fetch.Unpacking

/-!
# No unverified archive is unpacked

The source of a release has the checksum that the formula declares. As long as a kitchen demands
checksums, nothing at all is started for a release without a pinned one, and with a pinned one only
bytes of the declared digest are unpacked: `guarded_fetch` for fetching alone, `guarded_build` for
the stage of a build. There the toolchain comes after the source, and which program that is the
formula says.
-/

namespace Formulary

/-! ### The source of a release -/

theorem Source.checksum_of_archive {s : Source} {package : Package} {a : Archive}
    (h : s.archive? package = .ok (some a)) : a.checksum = Checksum.parse (s.checksum.getD "") := by
  unfold Source.archive? at h
  split at h
  · cases h
  · dsimp only at h
    split at h
    · cases h
    · cases h
      rfl

theorem Descriptor.source_of_make {package : Package} {archive : Option Archive}
    {repository : Option Repository} {d : Descriptor}
    (h : make package archive repository = .ok d) :
    (∃ a, archive = some a ∧ d.source = .archive a) ∨ archive = none ∧ repository.isSome := by
  unfold make at h
  split at h
  · cases h
  obtain ⟨⟨source, version⟩, hchosen, h⟩ := bind_eq_ok.1 h
  dsimp only at h
  split at h
  · cases h
  cases h
  unfold chooseSource at hchosen
  split at hchosen
  · cases hchosen
  · cases hchosen
  · obtain ⟨_, -, hsource⟩ := map_eq_ok.1 hchosen
    cases hsource
    exact .inl ⟨_, rfl, rfl⟩
  · exact .inr ⟨rfl, rfl⟩

theorem Formula.source_of_release {f : Formula} {d : Descriptor}
    (h : f.descriptor .release = .ok d) :
    ∃ a, d.source = .archive a ∧ a.checksum = Checksum.parse (f.source.checksum.getD "") := by
  change f.releaseDescriptor = .ok d at h
  unfold releaseDescriptor at h
  obtain ⟨archive, harchive, h⟩ := bind_eq_ok.1 h
  dsimp only at h
  split at h
  · cases h
  next honly =>
  rcases Descriptor.source_of_make h with ⟨a, rfl, hsource⟩ | ⟨rfl, hrepository⟩
  · exact ⟨a, hsource, Source.checksum_of_archive harchive⟩
  · rw [hrepository] at honly
    exact absurd rfl honly

namespace Kitchen

/-- What is known of a program that unpacks. -/
structure Unpacks (raw : String) (l : Launch) : Prop where
  pinned : (Checksum.parse raw).isPinned = true
  /-- The bytes of the archive have the digest that was declared. -/
  verified : ∃ algorithm digits, Checksum.Declares raw algorithm digits ∧
    Fetch.IsUnpacking algorithm (String.ofList digits).toLower l

/-- If a program unpacks, then verified bytes. -/
def IsSafe (raw : String) (l : Launch) : Prop := l.command.program = "tar" → Unpacks raw l

/-- The toolchain's command line, in the directory of a source. -/
def toolchain (f : Formula) (r : Resolution) (dir : Path) : Command :=
  let i := Invocation.ofBuild f.build r
  { program := i.program, args := i.args, env := i.env, dir := some dir }

/-- The toolchain is started. -/
def IsToolchain (f : Formula) (r : Resolution) (l : Launch) : Prop :=
  ∃ dir, l.command = toolchain f r dir

/-- What may be started for a source whose checksum is declared by a text, and with it when it is
there. -/
structure Guarded (raw : String) (With : Launch → Prop) (before after : List Launch) : Prop where
  /-- Nothing at all without a pinned checksum. -/
  refused : (Checksum.parse raw).isPinned = false → after = before
  /-- For the source nothing that unpacks other than verified bytes. -/
  safe : ∃ fetching working, after = before ++ fetching ++ working ∧
    (∀ l ∈ fetching, IsSafe raw l) ∧ ∀ l ∈ working, With l

variable {k : Kitchen} {f : Formula} {d : Descriptor} {cache : Path} {w : World}
  {P : Launch → Prop}

theorem isSafe_of_declares {raw : String} {algorithm : Digest.Algorithm} {digits : List Char}
    (hdeclares : Checksum.Declares raw algorithm digits) {l : Launch}
    (h : Fetch.IsDownload l ∨ Fetch.IsUnpacking algorithm (String.ofList digits).toLower l) :
    IsSafe raw l := by
  intro htar
  rcases h with h | h
  · rw [Fetch.IsDownload, htar] at h
    exact absurd h (by decide)
  · refine ⟨?_, algorithm, digits, hdeclares, h⟩
    rw [Checksum.parse_of_declares hdeclares]
    rfl

/-! ### Gates -/

theorem checkDependencies_launches (names : List String) :
    Attempt.Launches (ExceptT.mk (checkDependencies names)) P (fun _ v => v = w) w := by
  have hworld : (outcome (checkDependencies names) w).2 = w := by
    unfold checkDependencies
    rw [outcome_bind]
    split <;> rfl
  refine ⟨?_, fun _ _ => ?_⟩
  · rw [attempted_mk, hworld]
    exact (Quiet.refl w).starts
  · rw [attempted_mk, hworld]

theorem checkSource_launches (k : Kitchen) (d : Descriptor) :
    Attempt.Launches (ExceptT.mk (pure (k.settings.checkSource d))) P
      (fun _ v => v = w ∧ k.settings.checkSource d = .ok ()) w :=
  ⟨(Quiet.refl w).starts, fun _ h => ⟨rfl, h⟩⟩

theorem enterBuild_launches (k : Kitchen) (d : Descriptor) :
    (k.enterBuild d).Launches P
      (fun _ v => Grown w v ∧ k.settings.checkSource d = .ok ()) w := by
  unfold enterBuild
  refine (checkDependencies_launches _).bind fun _ v hv => ?_
  subst hv
  refine (checkSource_launches k d).bind fun _ v hv => ?_
  obtain ⟨rfl, hsource⟩ := hv
  exact (Attempt.Launches.of_grows (grows_makeTemporary _)).mono (fun _ => id)
    fun _ _ hgrown => ⟨hgrown, hsource⟩

theorem isPinned_of_checkSource (hd : f.descriptor .release = .ok d)
    (hverify : k.settings.allowUnverified = false) (h : k.settings.checkSource d = .ok ()) :
    (Checksum.parse (f.source.checksum.getD "")).isPinned = true := by
  obtain ⟨a, hsource, hchecksum⟩ := Formula.source_of_release hd
  unfold Settings.checkSource at h
  rw [hsource, hverify] at h
  dsimp only at h
  rw [Bool.or_false] at h
  rw [← hchecksum]
  split at h
  · assumption
  · cases h

/-! ### Sources and what is made of them -/

theorem fetcher_launches (hd : f.descriptor .release = .ok d)
    (hpinned : (Checksum.parse (f.source.checksum.getD "")).isPinned = true)
    (hfetcher : k.fetcher = Fetch.standard k.launch cache) (hlaunch : k.launch.Sound)
    (hw : w.files.Sound) (target : Path) (timeout : Millis) :
    (k.fetcher d.source target timeout).Launches (IsSafe (f.source.checksum.getD ""))
      (fun _ _ => True) w := by
  obtain ⟨a, hsource, hchecksum⟩ := Formula.source_of_release hd
  rw [hfetcher, hsource]
  cases hparse : Checksum.parse (f.source.checksum.getD "") with
  | placeholder =>
    rw [hparse] at hpinned
    cases hpinned
  | pinned algorithm value =>
    rw [hparse] at hchecksum
    obtain ⟨digits, hdeclares, rfl⟩ := Checksum.parse_eq_pinned hparse
    exact (Fetch.archive_launches hchecksum (Checksum.noSlash_of_declares hdeclares) hlaunch hw
      cache target timeout).mono (fun _ => isSafe_of_declares hdeclares) fun _ _ => id

theorem compile_launches (k : Kitchen) (f : Formula) (r : Resolution) (dir : Path)
    (w : World) : (k.compile f r dir).Launches (IsToolchain f r) (fun _ _ => True) w := by
  unfold compile
  dsimp only
  split
  -- with or without a directory to make first, the rest is the same
  on_goal 1 => refine (Attempt.Launches.of_grows (grows_makeAll _)).bind fun _ v _ => ?_
  all_goals
    refine (Attempt.Launches.orFail (R := fun _ _ => True)
      (starts_supervise k.launch (toolchain f r dir) _ ⟨dir, rfl⟩) fun _ _ => trivial).bind
      fun output u _ => ?_
    split
    · exact .throw _
    · refine (Attempt.Launches.lift (R := fun _ _ => True) (Quiet.refl u).starts trivial).bind
        fun there u' _ => ?_
      split
      · exact .pure trivial
      · exact .throw _

/-- Behind a gate that asks for a checksum, nothing is fetched without one, and else nothing is
unpacked but verified bytes. -/
theorem gated_launches {α : Type} {gate : Attempt α} (hd : f.descriptor .release = .ok d)
    (hverify : k.settings.allowUnverified = false)
    (hfetcher : k.fetcher = Fetch.standard k.launch cache) (hlaunch : k.launch.Sound)
    (hw : w.files.Sound)
    (hgate : ∀ P, gate.Launches P (fun _ v => Grown w v ∧ k.settings.checkSource d = .ok ()) w)
    (target : α → Path) :
    ((Checksum.parse (f.source.checksum.getD "")).isPinned = false →
      Attempt.Launches (gate >>= fun a => k.fetcher d.source (target a) k.settings.timeout)
        (fun _ => False) (fun _ _ => False) w) ∧
    Attempt.Launches (gate >>= fun a => k.fetcher d.source (target a) k.settings.timeout)
      (IsSafe (f.source.checksum.getD "")) (fun _ _ => True) w := by
  refine ⟨fun hraw => (hgate _).bind fun a v hv => ?_, (hgate _).bind fun a v hv => ?_⟩
  · rw [isPinned_of_checkSource hd hverify hv.2] at hraw
    cases hraw
  · exact fetcher_launches hd (isPinned_of_checkSource hd hverify hv.2) hfetcher hlaunch
      (hv.1.sound hw) _ _

/-- The source of a build: its gates, and the fetch behind them. -/
def enterAndFetch (k : Kitchen) (d : Descriptor) : Attempt Path := do
  let dir ← k.enterBuild d
  k.fetcher d.source dir k.settings.timeout

theorem outcomeWith_build_world (k : Kitchen) (f : Formula) (d : Descriptor) (r : Resolution)
    (s : Session) (w : World) :
    (outcomeWith (k.build f d r) s w).2.2 =
      (attempted (k.enterAndFetch d >>= k.compile f r) w).2 := by
  unfold build enterAndFetch
  rw [bind_assoc, outcomeWith_bind, outcomeWith_lift, outcome_run, attempted_bind]
  rcases attempted (k.enterBuild d) w with ⟨e | dir, v⟩ <;> rfl

theorem guarded_fetch (hd : f.descriptor .release = .ok d)
    (hverify : k.settings.allowUnverified = false)
    (hfetcher : k.fetcher = Fetch.standard k.launch cache) (hlaunch : k.launch.Sound)
    (hw : w.files.Sound) (target : Path) :
    Guarded (f.source.checksum.getD "") (fun _ => False) w.started
      (attempted (k.fetch d target) w).2.started := by
  have hgate : ∀ P, Attempt.Launches (ExceptT.mk (pure (k.settings.checkSource d))) P
      (fun _ v => Grown w v ∧ k.settings.checkSource d = .ok ()) w := by
    refine fun P => (checkSource_launches k d).mono (fun _ => id) fun _ v hv => ?_
    obtain ⟨rfl, hsource⟩ := hv
    exact ⟨.refl _, hsource⟩
  obtain ⟨hrefused, hfetched⟩ :=
    gated_launches hd hverify hfetcher hlaunch hw hgate fun _ => target
  obtain ⟨fetching, hfetching, hall⟩ := hfetched.starts.news
  refine ⟨fun hraw => (hrefused hraw).starts.started_eq, fetching, [], ?_, hall, by simp⟩
  rw [List.append_nil]
  exact hfetching

theorem guarded_build (hd : f.descriptor .release = .ok d)
    (hverify : k.settings.allowUnverified = false)
    (hfetcher : k.fetcher = Fetch.standard k.launch cache) (hlaunch : k.launch.Sound)
    (hw : w.files.Sound) (r : Resolution) (s : Session) :
    Guarded (f.source.checksum.getD "") (IsToolchain f r) w.started
      (outcomeWith (k.build f d r) s w).2.2.started := by
  have hgate : ∀ P, (k.enterBuild d).Launches P
      (fun _ v => Grown w v ∧ k.settings.checkSource d = .ok ()) w :=
    fun P => enterBuild_launches k d
  obtain ⟨hrefused, hfetched⟩ := gated_launches hd hverify hfetcher hlaunch hw hgate id
  rw [outcomeWith_build_world]
  obtain ⟨v, hfirst, hrest⟩ := hfetched.parts fun dir u _ => compile_launches k f r dir u
  obtain ⟨fetching, hfetching, hall⟩ := hfirst.news
  obtain ⟨working, hworking, hown⟩ := hrest.news
  refine ⟨fun hraw => ?_, fetching, working, ?_, hall, hown⟩
  · have hnone : (k.enterAndFetch d >>= k.compile f r).Launches (fun _ => False)
        (fun _ _ => False) w := (hrefused hraw).bind fun _ _ h => h.elim
    exact hnone.starts.started_eq
  · rw [← hfetching]
    exact hworking

/-- **As long as checksums are demanded, nothing is started for a release without a pinned one, and
for its source nothing that unpacks other than verified bytes,** whatever programs do and whatever
the cache holds. In a build the toolchain may be started with the source. -/
theorem guarded_release (hd : f.descriptor .release = .ok d)
    (hverify : k.settings.allowUnverified = false)
    (hfetcher : k.fetcher = Fetch.standard k.launch cache) (hlaunch : k.launch.Sound)
    (hw : w.files.Sound) :
    (∀ target, Guarded (f.source.checksum.getD "") (fun _ => False) w.started
      (attempted (k.fetch d target) w).2.started) ∧
    ∀ r s, Guarded (f.source.checksum.getD "") (IsToolchain f r) w.started
      (outcomeWith (k.build f d r) s w).2.2.started :=
  ⟨guarded_fetch hd hverify hfetcher hlaunch hw, guarded_build hd hverify hfetcher hlaunch hw⟩

/-! ### A toolchain that unpacks -/

/-- A formula for an empty archive, whose toolchain unpacks another one. -/
def unpackingFormula : Formula :=
  { Formula.archived with
    build := { toolchain := "tar", verb := "-xf", stdArgs := false, target := "/other.tar" } }

/-- A kitchen in which all programs do nothing, and do it well. -/
def idle : Kitchen := .standard { sourceCache := "/cache" } .idle

/-- The empty archive in the cache, and another one. -/
def stocked : World where
  files := {
    entries := [(["tmp"], .directory), (["cache"], .directory),
      (["cache", "sha256_" ++ Formula.emptyDigest], .file {}), (["other.tar"], .file { data := [1] })] }

/-- The empty archive is unpacked from the cache, which is as it should be. -/
theorem guarded_unpacking :
    (∀ target, Guarded Formula.emptyDigest (fun _ => False) []
      (attempted (idle.fetch .archived target) stocked).2.started) ∧
    (∀ r s, Guarded Formula.emptyDigest (IsToolchain unpackingFormula r) []
      (outcomeWith (idle.build unpackingFormula .archived r) s stocked).2.2.started) ∧
    (attempted (idle.fetch .archived "/tmp") stocked).2.started.map
      (fun l => (l.command.program, l.command.args)) =
        [("tar", ["-xf", "/cache/sha256_" ++ Formula.emptyDigest, "-C", "/tmp/source"])] := by
  have hfiles : stocked.files.Sound :=
    Files.sound_of_entries (by decide) (by simp [stocked])
  obtain ⟨hfetch, hbuild⟩ := guarded_release (f := unpackingFormula) (d := .archived)
    (k := idle) (w := stocked) Formula.descriptor_archived rfl rfl (Launcher.sound_printing _ _) hfiles
  exact ⟨hfetch, hbuild, by decide +kernel⟩

/-- The toolchain may be a program that unpacks, and what it unpacks nobody has verified. -/
theorem toolchain_unpacks :
    unpackingFormula.descriptor .release = .ok .archived ∧
    ∃ l ∈ (outcome (idle.cook unpackingFormula .archived .first)
        stocked).2.started,
      l.command.program = "tar" ∧ l.command.args = ["-xf", "/other.tar"] ∧
      (l.site.files.read l.site.cwd.parts "/other.tar").toOption.map (Digest.digest .sha256) ≠
        some Formula.emptyDigest := by
  decide +kernel

end Kitchen

end Formulary
