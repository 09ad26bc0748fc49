import Formulary.Descriptor
import Formulary.Proofs.Results
import Formulary.Proofs.Version
import Formulary.Resolution

/-!
# Which formulas can be described

A formula has a descriptor for a mode just if it is `Describable` in it: its name is not blank, and
it declares exactly what the mode needs. `Describes` says what the descriptor is then
(`descriptor_eq_ok_iff`). Every refusal says what is wrong with the formula, and no mode looks at
what is declared for the other one alone: `described_exactly`.
-/

namespace Formulary

theorem Text.not_isBlank_of_isDigit {c : Char} (h : c.isDigit = true) : isBlank c = false := by
  have hbound : 48 ≤ c.toNat ∧ c.toNat ≤ 57 := by
    simpa [Char.isDigit, UInt32.le_iff_toNat_le] using h
  simp [isBlank]
  omega

/-! ### Packages with a source -/

namespace Descriptor

variable {package : Package} {archive : Option Archive} {repository : Option Repository}
  {d : Descriptor} {source : SourceRef} {version : String}

/-- A descriptor says of a package what the package says of itself. -/
structure Of (package : Package) (d : Descriptor) : Prop where
  name : d.name = package.name
  desc : d.desc = package.desc
  homepage : d.homepage = package.homepage
  license : d.license = package.license
  buildDependencies : d.buildDependencies = package.dependsOn

theorem make_eq_ok_iff :
    make package archive repository = .ok d ↔
      Text.blankText package.name = false ∧
      chooseSource package archive repository = .ok (d.source, d.version) ∧
      Text.blankText d.version = false ∧ Of package d := by
  unfold make
  constructor
  · intro h
    split at h
    · cases h
    next hname =>
    obtain ⟨⟨source, version⟩, hchosen, h⟩ := bind_eq_ok.1 h
    dsimp only at h
    split at h
    · cases h
    next hversion =>
    cases h
    exact ⟨Bool.eq_false_iff.2 hname, hchosen, Bool.eq_false_iff.2 hversion,
      ⟨rfl, rfl, rfl, rfl, rfl⟩⟩
  · rintro ⟨hname, hchosen, hversion, hof⟩
    obtain ⟨name, desc, homepage, license, version, source, dependencies⟩ := d
    obtain ⟨rfl, rfl, rfl, rfl, rfl⟩ := hof
    rw [hname, hchosen]
    change (if Text.blankText version = true then _ else _) = _
    rw [hversion]
    rfl

/-- An archive has the version of its package, or where the package has none, the one that can be
inferred from its address. -/
def HasVersion (package : Package) (url version : String) : Prop :=
  package.version = some version ∨
    package.version = none ∧ Version.infer? url = some version

theorem archiveVersion_eq_ok_iff {a : Archive} :
    archiveVersion package a = .ok version ↔ HasVersion package a.url version := by
  unfold archiveVersion HasVersion
  cases package.version with
  | some declared => simp
  | none => cases Version.infer? a.url <;> simp

theorem chooseSource_eq_ok_iff :
    chooseSource package archive repository = .ok (source, version) ↔
      (∃ a, archive = some a ∧ repository = none ∧ source = .archive a ∧
        HasVersion package a.url version) ∨
      ∃ r, archive = none ∧ repository = some r ∧ source = .repository r ∧
        version = headVersion := by
  unfold chooseSource
  cases archive with
  | none => cases repository <;> simp [eq_comm]
  | some a =>
    cases repository with
    | some r => simp
    | none =>
      simp only [map_eq_ok, archiveVersion_eq_ok_iff]
      simp [eq_comm, and_comm]

theorem make_repository_eq_ok_iff {r : Repository} :
    make package none (some r) = .ok d ↔
      Text.blankText package.name = false ∧ d.source = .repository r ∧ d.version = headVersion ∧
      Of package d := by
  rw [make_eq_ok_iff, chooseSource_eq_ok_iff]
  constructor
  · rintro ⟨hname, ⟨a, ha, -⟩ | ⟨r', -, hr, hsource, hversion⟩, -, hof⟩
    · cases ha
    · cases hr
      exact ⟨hname, hsource, hversion, hof⟩
  · rintro ⟨hname, hsource, hversion, hof⟩
    refine ⟨hname, .inr ⟨r, rfl, rfl, hsource, hversion⟩, ?_, hof⟩
    rw [hversion]
    decide

end Descriptor

/-! ### Descriptors of formulas -/

variable {f : Formula} {mode : Mode} {d : Descriptor} {source : SourceRef} {version : String}

theorem Source.archive?_eq_ok_iff {s : Source} {package : Package} {archive : Option Archive} :
    s.archive? package = .ok archive ↔
      (s.url = none ∧ archive = none) ∨
      ∃ url, s.url = some url ∧ Text.holds (expandedUrl package url) "%(" = false ∧
        archive = some ⟨expandedUrl package url, Checksum.parse (s.checksum.getD "")⟩ := by
  unfold archive?
  cases s.url with
  | none =>
    constructor
    · rintro ⟨⟩
      exact .inl ⟨rfl, rfl⟩
    · rintro (⟨-, rfl⟩ | ⟨url, hurl, -⟩)
      · rfl
      · cases hurl
  | some url =>
    constructor
    · intro h
      dsimp only at h
      split at h
      · cases h
      next hwhole =>
      cases h
      exact .inr ⟨url, rfl, Bool.eq_false_iff.2 hwhole, rfl⟩
    · rintro (⟨hurl, -⟩ | ⟨url', hurl, hwhole, rfl⟩)
      · cases hurl
      · cases hurl
        dsimp only
        rw [hwhole]
        rfl

namespace Formula

/-- The source that a formula declares for a mode, and the version that it gives: an archive that is
the formula's only source and whose address is complete, the development source, or where there is
none a repository that is the formula's only source. -/
inductive Declares (f : Formula) : Mode → SourceRef → String → Prop where
  | archive {url version : String} (hurl : f.source.url = some url) (hvcs : f.source.vcs = none)
      (hwhole : Text.holds (Source.expandedUrl f.package url) "%(" = false)
      (hversion : Descriptor.HasVersion f.package (Source.expandedUrl f.package url) version) :
      f.Declares .release (.archive ⟨Source.expandedUrl f.package url,
        Checksum.parse (f.source.checksum.getD "")⟩) version
  | head {h : HeadSource} (hhead : f.head = some h) :
      f.Declares .head (.repository ⟨h.vcs, h.branch⟩) Descriptor.headVersion
  | repository {vcs : String} (hhead : f.head = none) (hvcs : f.source.vcs = some vcs)
      (hurl : f.source.url = none) :
      f.Declares .head (.repository ⟨vcs, f.source.branch⟩) Descriptor.headVersion

/-- What a formula's descriptor for a mode is. -/
structure Describes (f : Formula) (mode : Mode) (d : Descriptor) : Prop where
  named : Text.blankText f.package.name = false
  declared : f.Declares mode d.source d.version
  versioned : Text.blankText d.version = false
  of : Descriptor.Of f.package d

theorem releaseDescriptor_eq_ok_iff : f.releaseDescriptor = .ok d ↔ f.Describes .release d := by
  unfold releaseDescriptor
  rw [bind_eq_ok]
  constructor
  · rintro ⟨archive, harchive, h⟩
    dsimp only at h
    split at h
    · cases h
    next honly =>
    obtain ⟨hname, hchosen, hversion, hof⟩ := Descriptor.make_eq_ok_iff.1 h
    refine ⟨hname, ?_, hversion, hof⟩
    rcases Descriptor.chooseSource_eq_ok_iff.1 hchosen with
      ⟨a, rfl, hrepository, hsource, hgiven⟩ | ⟨r, rfl, hrepository, -, -⟩
    · rcases Source.archive?_eq_ok_iff.1 harchive with ⟨-, hnone⟩ | ⟨url, hurl, hwhole, ha⟩
      · cases hnone
      · cases ha
        rw [hsource]
        exact .archive hurl (Option.map_eq_none_iff.1 hrepository) hwhole hgiven
    · -- a repository alone has been refused before
      rw [hrepository] at honly
      exact absurd rfl honly
  · rintro ⟨hname, hdeclared, hversion, hof⟩
    generalize hsource : d.source = source at hdeclared
    generalize hgiven : d.version = version at hdeclared
    cases hdeclared with
    | archive hurl hvcs hwhole hhas =>
      refine ⟨_, Source.archive?_eq_ok_iff.2 (.inr ⟨_, hurl, hwhole, rfl⟩), ?_⟩
      have hrepository : f.source.repository? = none := Option.map_eq_none_iff.2 hvcs
      change Descriptor.make _ _ _ = _
      rw [Descriptor.make_eq_ok_iff, hsource, hgiven]
      refine ⟨hname, ?_, hgiven ▸ hversion, hof⟩
      exact Descriptor.chooseSource_eq_ok_iff.2 (.inl ⟨_, rfl, hrepository, rfl, hhas⟩)

theorem headDescriptor_eq_ok_iff : f.headDescriptor = .ok d ↔ f.Describes .head d := by
  unfold headDescriptor
  constructor
  · intro h
    split at h
    · next head hhead =>
      obtain ⟨hname, hsource, hversion, hof⟩ := Descriptor.make_repository_eq_ok_iff.1 h
      have hdeclared : f.Declares .head d.source d.version := by
        rw [hsource, hversion]
        exact .head hhead
      exact ⟨hname, hdeclared, hversion ▸ by decide, hof⟩
    · next hhead =>
      split at h
      · next honly =>
        obtain ⟨hsome, hurl⟩ := Bool.and_eq_true_iff.1 honly
        obtain ⟨vcs, hvcs⟩ := Option.isSome_iff_exists.1 hsome
        rw [Source.repository?, hvcs] at h
        obtain ⟨hname, hsource, hversion, hof⟩ := Descriptor.make_repository_eq_ok_iff.1 h
        have hdeclared : f.Declares .head d.source d.version := by
          rw [hsource, hversion]
          exact .repository hhead hvcs (Option.isNone_iff_eq_none.1 hurl)
        exact ⟨hname, hdeclared, hversion ▸ by decide, hof⟩
      · cases h
  · rintro ⟨hname, hdeclared, -, hof⟩
    generalize hsource : d.source = source at hdeclared
    generalize hgiven : d.version = version at hdeclared
    cases hdeclared with
    | head hhead =>
      rw [hhead]
      exact Descriptor.make_repository_eq_ok_iff.2 ⟨hname, hsource, hgiven, hof⟩
    | repository hhead hvcs hurl =>
      rw [hhead, Source.repository?, hvcs, hurl]
      exact Descriptor.make_repository_eq_ok_iff.2 ⟨hname, hsource, hgiven, hof⟩

/-- **A formula is described as it declares itself,** in every mode. -/
theorem descriptor_eq_ok_iff : f.descriptor mode = .ok d ↔ f.Describes mode d := by
  cases mode with
  | release => exact releaseDescriptor_eq_ok_iff
  | head => exact headDescriptor_eq_ok_iff

/-! ### What a formula needs -/

theorem blankText_of_infer? {url version : String} (h : Version.infer? url = some version) :
    Text.blankText version = false := by
  obtain ⟨name, rest, before, -, -, hstarts, -⟩ := Version.infer?_eq_some_iff.1 h
  obtain ⟨d, hd, hdigit⟩ := hstarts.digit
  rw [Text.blankText, List.all_eq_false]
  exact ⟨d, List.mem_of_head? hd, by simp [Text.not_isBlank_of_isDigit hdigit]⟩

/-- A formula declares all that a mode needs. For a release that is an archive as the only source,
with a complete address, and a version which is not blank or, where the package has none, can be
inferred. For the head it is a development source, or a repository as the only source. -/
def Describable (f : Formula) : Mode → Prop
  | .release => f.source.vcs = none ∧ ∃ url, f.source.url = some url ∧
      Text.holds (Source.expandedUrl f.package url) "%(" = false ∧
      ((∃ version, f.package.version = some version ∧ Text.blankText version = false) ∨
        f.package.version = none ∧ ∃ version,
          Version.infer? (Source.expandedUrl f.package url) = some version)
  | .head => f.head.isSome = true ∨ f.source.vcs.isSome = true ∧ f.source.url = none

theorem describable_iff :
    f.Describable mode ↔
      ∃ source version, f.Declares mode source version ∧ Text.blankText version = false := by
  cases mode with
  | release =>
    constructor
    · rintro ⟨hvcs, url, hurl, hwhole, ⟨version, hv, hblank⟩ | ⟨hnone, version, hv⟩⟩
      · exact ⟨_, version, .archive hurl hvcs hwhole (.inl hv), hblank⟩
      · exact ⟨_, version, .archive hurl hvcs hwhole (.inr ⟨hnone, hv⟩), blankText_of_infer? hv⟩
    · rintro ⟨source, version, hdeclared, hblank⟩
      cases hdeclared with
      | archive hurl hvcs hwhole hversion =>
        refine ⟨hvcs, _, hurl, hwhole, ?_⟩
        rcases hversion with hv | ⟨hnone, hv⟩
        · exact .inl ⟨version, hv, hblank⟩
        · exact .inr ⟨hnone, version, hv⟩
  | head =>
    constructor
    · intro h
      cases hhead : f.head with
      | some head => exact ⟨_, _, .head hhead, by decide⟩
      | none =>
        rcases h with hsome | ⟨hvcs, hurl⟩
        · rw [hhead] at hsome
          cases hsome
        · obtain ⟨vcs, hvcs⟩ := Option.isSome_iff_exists.1 hvcs
          exact ⟨_, _, .repository hhead hvcs hurl, by decide⟩
    · rintro ⟨source, version, hdeclared, -⟩
      cases hdeclared with
      | head hhead => exact .inl (Option.isSome_iff_exists.2 ⟨_, hhead⟩)
      | repository hhead hvcs hurl => exact .inr ⟨Option.isSome_iff_exists.2 ⟨_, hvcs⟩, hurl⟩

/-- **A formula can be described in a mode just if its name is not blank and it declares all that
the mode needs.** -/
theorem exists_descriptor_iff :
    (∃ d, f.descriptor mode = .ok d) ↔
      Text.blankText f.package.name = false ∧ f.Describable mode := by
  simp only [descriptor_eq_ok_iff, describable_iff]
  constructor
  · rintro ⟨d, hname, hdeclared, hversion, -⟩
    exact ⟨hname, d.source, d.version, hdeclared, hversion⟩
  · rintro ⟨hname, source, version, hdeclared, hversion⟩
    exact ⟨⟨f.package.name, f.package.desc, f.package.homepage, f.package.license, version, source,
      f.package.dependsOn⟩, hname, hdeclared, hversion, rfl, rfl, rfl, rfl, rfl⟩

theorem Declares.mode_eq (h : f.Declares mode source version) : source.mode = mode := by
  cases h <;> rfl

theorem Declares.version_eq (h : f.Declares .head source version) :
    version = Descriptor.headVersion := by
  cases h <;> rfl

theorem headDescriptor_of_head {source : Source} {version : Option String}
    (h : f.head.isSome = true) :
    { f with source, package := { f.package with version } }.headDescriptor = f.headDescriptor := by
  obtain ⟨head, hhead⟩ := Option.isSome_iff_exists.1 h
  unfold headDescriptor
  rw [hhead]
  rfl

/-- No mode gives a formula with a blank name a descriptor. -/
theorem blankText_of_descriptor (h : f.descriptor mode = .ok d) :
    Text.blankText f.package.name = false :=
  (descriptor_eq_ok_iff.1 h).named

end Formula

/-! ### Refusals -/

/-- A failure is for the formula's own sake. -/
def Failure.IsMalformed (e : Failure) : Prop := ∃ detail, e = .malformedDescriptor detail

variable {package : Package} {archive : Option Archive} {repository : Option Repository}
  {e : Failure}

theorem Descriptor.isMalformed_of_chooseSource
    (h : chooseSource package archive repository = .error e) : e.IsMalformed := by
  unfold chooseSource at h
  split at h
  · cases h
    exact ⟨_, rfl⟩
  · cases h
    exact ⟨_, rfl⟩
  · rw [map_eq_error] at h
    unfold archiveVersion at h
    split at h
    · cases h
    · split at h
      · cases h
      · cases h
        exact ⟨_, rfl⟩
  · cases h

theorem Descriptor.isMalformed_of_make (h : make package archive repository = .error e) :
    e.IsMalformed := by
  unfold make at h
  split at h
  · cases h
    exact ⟨_, rfl⟩
  rcases bind_eq_error.1 h with hchosen | ⟨chosen, -, h⟩
  · exact isMalformed_of_chooseSource hchosen
  · dsimp only at h
    split at h
    · cases h
      exact ⟨_, rfl⟩
    · cases h

theorem Source.isMalformed_of_archive? {s : Source} (h : s.archive? package = .error e) :
    e.IsMalformed := by
  unfold archive? at h
  split at h
  · cases h
  · dsimp only at h
    split at h
    · cases h
      exact ⟨_, rfl⟩
    · cases h

/-- **No descriptor is refused but for what is wrong with the formula.** -/
theorem Formula.isMalformed_of_descriptor (h : f.descriptor mode = .error e) : e.IsMalformed := by
  cases mode with
  | release =>
    rcases bind_eq_error.1 (show f.releaseDescriptor = .error e from h) with
      harchive | ⟨archive, -, h⟩
    · exact Source.isMalformed_of_archive? harchive
    · dsimp only at h
      split at h
      · cases h
        exact ⟨_, rfl⟩
      · exact Descriptor.isMalformed_of_make h
  | head =>
    change f.headDescriptor = .error e at h
    unfold headDescriptor at h
    split at h
    · exact Descriptor.isMalformed_of_make h
    · split at h
      · exact Descriptor.isMalformed_of_make h
      · cases h
        exact ⟨_, rfl⟩

/-! ### Descriptors and what they depend on -/

namespace Formula

/-- **Exactly the well-formed formulas are described.** A formula has a descriptor for a mode just
if its name is not blank and it declares all that the mode needs. The descriptor is the one that
`Describes` fixes: its source is an archive for a release and a repository for the head, its version
is never blank, and the rest is the package's. Every refusal is for the formula's own sake. A
development source does not matter to the release; where there is one, neither the source nor the
package's version matters to the head. -/
theorem described_exactly (f : Formula) (mode : Mode) :
    ((∃ d, f.descriptor mode = .ok d) ↔
      Text.blankText f.package.name = false ∧ f.Describable mode) ∧
    (∀ d, f.descriptor mode = .ok d ↔ f.Describes mode d) ∧
    (∀ d, f.descriptor mode = .ok d → d.mode = mode ∧ Text.blankText d.version = false ∧
      (mode = .head → d.version = Descriptor.headVersion)) ∧
    (∀ e, f.descriptor mode = .error e → e.IsMalformed) ∧
    (∀ head, { f with head }.descriptor .release = f.descriptor .release) ∧
    (f.head.isSome = true → ∀ source version,
      { f with source, package := { f.package with version } }.descriptor .head =
        f.descriptor .head) := by
  refine ⟨exists_descriptor_iff, fun d => descriptor_eq_ok_iff, fun d h => ?_,
    fun e h => isMalformed_of_descriptor h, fun head => rfl,
    fun h source version => headDescriptor_of_head h⟩
  obtain ⟨-, hdeclared, hversion, -⟩ := descriptor_eq_ok_iff.1 h
  refine ⟨hdeclared.mode_eq, hversion, ?_⟩
  rintro rfl
  exact hdeclared.version_eq

/-! ### Formulas and their descriptors -/

def cloned : Formula where
  package := { name := "demo" }
  source := { vcs := some "https://example.org/demo.git" }
  build := { target := "." }

def emptyDigest : String := "e3b0c44298fc1c149afbf4c8996fb92427ae41e4649b934ca495991b7852b855"

def archived : Formula where
  package := { name := "demo", version := some "1.0" }
  source := { url := some "https://example.org/demo.tar", checksum := some emptyDigest }
  build := { target := "." }

/-- A formula with an archive and a development source, and no version of its own. -/
def wellFormed : Formula where
  package := { name := "demo", license := some "MIT", dependsOn := ["go"] }
  source := { url := some "https://example.org/%(name)s-1.0.tar.gz" }
  head := some { vcs := "https://example.org/demo.git" }
  build := { target := "." }

/-- It is described in both modes, and its head would be without the archive. -/
theorem wellFormed_described :
    (∃ d, wellFormed.descriptor .release = .ok d ∧ d.mode = .release ∧
      Text.blankText d.version = false) ∧
    (∃ d, wellFormed.descriptor .head = .ok d ∧ d.mode = .head ∧ d.version = "HEAD") ∧
    { wellFormed with source := {} }.descriptor .head = wellFormed.descriptor .head := by
  have hname : Text.blankText wellFormed.package.name = false := by decide
  have hhead : wellFormed.head.isSome = true := by decide
  have hrelease : wellFormed.Describable .release :=
    ⟨rfl, _, rfl, by decide +kernel, .inr ⟨rfl, "1.0", by decide +kernel⟩⟩
  obtain ⟨d, hd⟩ := (described_exactly wellFormed .release).1.2 ⟨hname, hrelease⟩
  obtain ⟨hmode, hversion, -⟩ := (described_exactly wellFormed .release).2.2.1 d hd
  obtain ⟨d', hd'⟩ := (described_exactly wellFormed .head).1.2 ⟨hname, .inl hhead⟩
  obtain ⟨hmode', -, hversion'⟩ := (described_exactly wellFormed .head).2.2.1 d' hd'
  exact ⟨⟨d, hd, hmode, hversion⟩, ⟨d', hd', hmode', hversion' rfl⟩,
    (described_exactly wellFormed .head).2.2.2.2.2 hhead {} none⟩

/-- A formula whose version is a single blank, though one could be inferred. -/
def blankVersion : Formula :=
  { archived with
    package := { name := "demo", version := some " " }
    source := { url := some "https://example.org/demo-1.0.tar.gz" } }

/-- A version that is given is used, even a blank one: none is inferred in its place, and the
formula is refused. -/
theorem blankVersion_refused :
    Text.blankText blankVersion.package.name = false ∧ blankVersion.source.vcs = none ∧
    (∃ url, blankVersion.source.url = some url ∧
      Text.holds (Source.expandedUrl blankVersion.package url) "%(" = false ∧
      Version.infer? (Source.expandedUrl blankVersion.package url) = some "1.0") ∧
    blankVersion.descriptor .release =
      .error (.malformedDescriptor "package version cannot be empty") := by
  refine ⟨by decide, rfl, ⟨_, rfl, by decide +kernel, by decide +kernel⟩, by decide +kernel⟩

end Formula

/-- What such a formula describes at its head. -/
def Descriptor.cloned : Descriptor where
  name := "demo"
  desc := none
  homepage := none
  license := none
  version := "HEAD"
  source := .repository ⟨"https://example.org/demo.git", none⟩
  buildDependencies := []

/-- What the formula of the empty archive describes for a release. -/
def Descriptor.archived : Descriptor :=
  { cloned with
    version := "1.0"
    source := .archive ⟨"https://example.org/demo.tar", .pinned .sha256 Formula.emptyDigest⟩ }

theorem Formula.descriptor_cloned : cloned.descriptor .head = .ok .cloned := by decide +kernel

theorem Formula.descriptor_archived : archived.descriptor .release = .ok .archived := by
  decide +kernel

/-- What these formulas are built for: the root `p`, at the beginning of 1970. -/
def Context.first : Context := ⟨"/p", 0, "user", none⟩

end Formulary
