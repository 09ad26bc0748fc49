import Formulary.Proofs.CommandLine.ExitCodes
import Formulary.Proofs.Kitchen.Causes

/-!
# Checksums that are warned of

The check of a formula warns of its archive's checksum if that is missing or a placeholder. It looks
at the text that is declared, and a build looks at the checksum of its descriptor, where a missing text
has become an empty one; both find the same (`warned_iff_refused`). No other step refuses an archive
for its checksum, so the commands that do so are foreseen by the one that only checks:
`refusals_foreseen`.
-/

namespace Formulary

/-! ### Warnings about the checksum -/

/-- The warning is about the checksum of the source. -/
inductive Warning.OfChecksum : Warning → Prop
  | placeholder (raw : String) : OfChecksum (.placeholderChecksum raw)
  | missing : OfChecksum .noChecksum

namespace Formula

variable {f : Formula} {warnings : List Warning} {d : Descriptor} {s : Kitchen.Settings}

theorem ofChecksum_of_mem {x : Warning} (h : x ∈ f.checksumWarnings) : x.OfChecksum := by
  unfold checksumWarnings at h
  split at h
  · split at h
    · cases h
    · obtain rfl := List.mem_singleton.1 h
      exact .placeholder _
  · split at h
    · obtain rfl := List.mem_singleton.1 h
      exact .missing
    · cases h

theorem not_ofChecksum_of_mem {x : Warning} (h : x ∈ f.completenessWarnings) : ¬ x.OfChecksum := by
  simp only [completenessWarnings, List.mem_append] at h
  rintro ⟨⟩ <;> rcases h with ((h | h) | h) | h <;> split at h <;> simp at h

theorem not_ofChecksum_of_release {x : Warning} {version : List Warning}
    (h : f.checkRelease = .ok version) (hx : x ∈ version) : ¬ x.OfChecksum := by
  unfold checkRelease at h
  split at h
  · obtain ⟨d, -, h⟩ := bind_eq_ok.1 h
    cases h
    split at hx
    · cases hx
    · obtain rfl := List.mem_singleton.1 hx
      rintro ⟨⟩
  · cases h
    cases hx

theorem mem_checksumWarnings_iff (h : f.validate = .ok warnings) {x : Warning} :
    x ∈ f.checksumWarnings ↔ x ∈ warnings ∧ x.OfChecksum := by
  obtain ⟨-, -, h⟩ := bind_eq_ok.1 h
  obtain ⟨version, hrelease, h⟩ := bind_eq_ok.1 h
  obtain ⟨-, -, h⟩ := bind_eq_ok.1 h
  cases h
  simp only [List.mem_append]
  refine ⟨fun hx => ⟨.inl (.inr hx), ofChecksum_of_mem hx⟩, ?_⟩
  rintro ⟨(hx | hx) | hx, hchecksum⟩
  · exact absurd hchecksum (not_ofChecksum_of_release hrelease hx)
  · exact hx
  · exact absurd hchecksum (not_ofChecksum_of_mem hx)

/-- An archive's checksum is warned of just if the descriptor's would not be pinned. -/
theorem checksumWarnings_eq_nil_iff (hurl : f.source.url.isSome) :
    f.checksumWarnings = [] ↔ (Checksum.parse (f.source.checksum.getD "")).isPinned = true := by
  unfold checksumWarnings
  cases f.source.checksum with
  | some raw =>
    dsimp only [Option.getD_some]
    split
    · next h => exact iff_of_true rfl h
    · next h => exact iff_of_false (by simp) h
  | none =>
    dsimp only [Option.getD_none]
    rw [if_pos hurl]
    exact iff_of_false (by simp) (by decide)

/-- **A check warns of the checksum of an archive just if a build that demands one refuses the
release.** -/
theorem warned_iff_refused (hurl : f.source.url.isSome) (h : f.validate = .ok warnings)
    (hd : f.descriptor .release = .ok d) (hverify : s.allowUnverified = false) :
    (∃ x ∈ warnings, x.OfChecksum) ↔
      ∃ url text, s.checkSource d = .error (.unverifiedChecksum url text) := by
  obtain ⟨a, hsource, hchecksum⟩ := source_of_release hd
  have hwarned : (∃ x ∈ warnings, x.OfChecksum) ↔ a.checksum.isPinned = false := by
    rw [hchecksum, ← Bool.not_eq_true, ← checksumWarnings_eq_nil_iff hurl, List.eq_nil_iff_forall_not_mem]
    simp only [mem_checksumWarnings_iff h, not_forall, not_not]
  rw [hwarned]
  simp only [Kitchen.checkSource_eq_error_iff, hsource]
  constructor
  · exact fun hpinned => ⟨_, _, a, rfl, hpinned, hverify, rfl⟩
  · rintro ⟨_, _, a', ha, hpinned, -, -⟩
    cases ha
    exact hpinned

end Formula

/-! ### The commands -/

def CommandLine.Transcript.Says (t : CommandLine.Transcript) (line : String) : Prop :=
  ∃ before after, t.stdout = before ++ line ++ "\n" ++ after

namespace CommandLine

open Work

variable {p : Path} {w : World} {f : Formula} {warnings : List Warning}

theorem linesText_append (l m : List String) : linesText (l ++ m) = linesText l ++ linesText m := by
  simp [linesText]

theorem linesText_cons (line : String) (l : List String) :
    linesText (line :: l) = line ++ "\n" ++ linesText l := by
  simp [linesText]

/-- What the command that only checks says of a formula that passes. -/
theorem stdout_validate (hf : (attempted (Formula.fromFile p) w).1 = .ok f)
    (h : f.validate = .ok warnings) :
    ∃ before after, (outcome (validate p).transcript w).1.2.stdout =
      before ++ linesText (warnings.map warningLine) ++ after := by
  have hcheck := attempted_checkFormula hf
  rw [h] at hcheck
  obtain ⟨v, hcheck⟩ : ∃ v, attempted (checkFormula p) w = (.ok (f, warnings), v) :=
    ⟨_, Prod.ext hcheck rfl⟩
  obtain ⟨said, hchecked⟩ := told_orRefuse .load (checkFormula p)
    { stdout := "" ++ ("Reading formula: " ++ p.text ++ "\n") } w
  rw [hcheck] at hchecked
  rw [said_transcript]
  unfold validate
  rw [told_bind, told_say]
  dsimp only
  rw [told_bind, hchecked]
  dsimp only
  rw [told_bind, told_sayAll]
  dsimp only
  rw [told_bind, told_sayAll]
  dsimp only
  rw [told_bind, told_say]
  dsimp only
  cases warnings with
  | nil => exact ⟨_, _, String.append_assoc ..⟩
  | cons => exact ⟨_, _, String.append_assoc ..⟩

theorem says_of_validate (hf : (attempted (Formula.fromFile p) w).1 = .ok f)
    (h : f.validate = .ok warnings) {x : Warning} (hx : x ∈ warnings) :
    Transcript.Says (outcome (validate p).transcript w).1.2 (warningLine x) := by
  obtain ⟨before, after, hstdout⟩ := stdout_validate hf h
  obtain ⟨l, m, rfl⟩ := List.append_of_mem hx
  rw [List.map_append, List.map_cons, linesText_append, linesText_cons] at hstdout
  refine ⟨before ++ linesText (l.map warningLine), linesText (m.map warningLine) ++ after, ?_⟩
  rw [hstdout]
  simp only [String.append_assoc]

/-! ### Refusals -/

/-- The command that only checks lets the formula in a file pass, but warns of its checksum. -/
structure Warned (p : Path) (w : World) : Prop where
  passed : (outcome (validate p).transcript w).1.1 = 0
  warned : ∃ f warnings x, (attempted (Formula.fromFile p) w).1 = .ok f ∧
    f.validate = .ok warnings ∧ x ∈ warnings ∧ x.OfChecksum ∧
    (outcome (validate p).transcript w).1.2.Says (warningLine x)

theorem warned_of_loaded {l : Loaded} {s : Kitchen.Settings} {e : Failure}
    (hl : Loaded.ofContent (w.files.read w.here p) .release = .ok l)
    (h : s.checkSource l.descriptor = .error e) : Warned p w := by
  obtain ⟨f, hf, hl⟩ := bind_eq_ok.1 hl
  obtain ⟨warnings, hwarnings, hl⟩ := bind_eq_ok.1 hl
  obtain ⟨d, hd, hl⟩ := bind_eq_ok.1 hl
  cases hl
  obtain ⟨a, -, -, hverify, rfl⟩ := Kitchen.checkSource_eq_error_iff.1 h
  have hdeclared := (Formula.descriptor_eq_ok_iff.1 hd).declared
  have hurl : f.source.url.isSome := by
    generalize d.source = source at hdeclared
    cases hdeclared with
    | archive hurl => simp [hurl]
  obtain ⟨x, hx, hchecksum⟩ := (Formula.warned_iff_refused hurl hwarnings hd hverify).2 ⟨_, _, h⟩
  have hread : (attempted (Formula.fromFile p) w).1 = .ok f := by
    rw [Formula.attempted_fromFile, hf]
  exact ⟨(exitCode_validate hread).2 ⟨warnings, hwarnings⟩,
    f, warnings, x, hread, hwarnings, hx, hchecksum, says_of_validate hread hwarnings hx⟩

theorem exitCode_eq_refused_iff {e : Failure} {stage : Stage} :
    e.exitCode stage = 33 ↔ stage = .build ∧ e.Unverified := by
  rw [Failure.unverified_iff]
  have hdigit := e.reasonCode_le
  constructor
  · intro h
    change stage.index * 10 + e.reasonCode = 33 at h
    cases stage <;> simp only [Stage.index] at h <;> simp only [reduceCtorEq, true_and, false_and] <;>
      omega
  · rintro ⟨rfl, h⟩
    simp [Failure.exitCode, failureCode, Stage.index, h]

theorem not_unverified_of_standard (settings : Kitchen.Settings) (launch : Launcher)
    (source : SourceRef) (target : Path) (timeout : Millis) :
    ((Kitchen.standard settings launch).fetcher source target timeout).Ends (fun _ => True)
      fun e => ¬ e.Unverified :=
  (Fetch.standard_ends launch settings.sourceCache timeout source target).mono (fun _ => id)
    fun _ => Failure.OfFetch.not_unverified

/-- Who cooks a release that is refused for its checksum has been warned. -/
theorem warned_of_cook {e : Equipment} {q : CookRequest} (hmode : q.variation.mode = .release)
    (h : (outcome (cook e q).transcript w).1.1 = 33) : Warned q.formula w := by
  rw [exitCode_cook, hmode] at h
  cases hl : Loaded.ofContent (w.files.read w.here q.formula) .release with
  | error failure =>
    rw [hl] at h
    cases (exitCode_eq_refused_iff.1 h).1
  | ok l =>
    rw [hl] at h
    dsimp only at h
    unfold Report.exitCode at h
    rcases Kitchen.failedBy_cook (cookKitchen e q w) l.formula l.descriptor
      (surroundings q.root q.variation w) w with hverified | ⟨stage, failure, hstate, -, hcause⟩
    · rw [hverified] at h
      cases h
    · rw [hstate] at h
      obtain ⟨rfl, hunverified⟩ := exitCode_eq_refused_iff.1 h
      cases hcause with
      | stopped =>
        obtain ⟨_, _, hcancelled⟩ := hunverified
        cases hcancelled
      | build _ hfailed =>
        exact warned_of_loaded hl (Kitchen.refused_of_unverified
          (not_unverified_of_standard _ _) hfailed hunverified)

/-- Who fetches the source of a release that is refused for its checksum has been warned. -/
theorem warned_of_fetch {e : Equipment} {q : FetchRequest} (hmode : q.mode = .release)
    (h : (outcome (fetch e q).transcript w).1.1 = 33) : Warned q.formula w := by
  rw [exitCode_fetch, hmode] at h
  cases hl : Loaded.ofContent (w.files.read w.here q.formula) .release with
  | error failure =>
    rw [hl] at h
    cases (exitCode_eq_refused_iff.1 h).1
  | ok l =>
    rw [hl] at h
    dsimp only at h
    rcases htarget : targetIn q.target w with ⟨fault | target, v⟩
    · rw [htarget] at h
      cases h
    · rw [htarget] at h
      dsimp only at h
      have hfetched := attempted_bind (ExceptT.mk (pure ((fetchKitchen e q v).settings.checkSource
        l.descriptor))) (fun _ => (fetchKitchen e q v).fetcher l.descriptor.source target
          (fetchKitchen e q v).settings.timeout) v
      rw [attempted_mk, outcome_pure] at hfetched
      unfold Kitchen.fetch at h
      rw [hfetched] at h
      cases hpolicy : (fetchKitchen e q v).settings.checkSource l.descriptor with
      | error failure => exact warned_of_loaded hl hpolicy
      | ok _ =>
        rw [hpolicy] at h
        dsimp only at h
        cases hsource : (attempted ((fetchKitchen e q v).fetcher l.descriptor.source target
          (fetchKitchen e q v).settings.timeout) v).1 with
        | ok root =>
          rw [hsource] at h
          cases h
        | error failure =>
          rw [hsource] at h
          exact absurd (exitCode_eq_refused_iff.1 h).2
            ((not_unverified_of_standard _ _ _ _ _ v).2 failure hsource)

/-- **The check of a formula foresees refusals for a checksum.** It warns of the checksum of an archive
just if a build that demands checksums refuses the release. So the commands that cook a release or
fetch its source end with 33 only for formulas that pass the check with such a warning, which the
command that only checks says. -/
theorem refusals_foreseen :
    (∀ (f : Formula) (warnings : List Warning), f.source.url.isSome → f.validate = .ok warnings →
      ∃ d, f.descriptor .release = .ok d ∧ ∀ s : Kitchen.Settings, s.allowUnverified = false →
        ((∃ x ∈ warnings, x.OfChecksum) ↔
          ∃ url text, s.checkSource d = .error (.unverifiedChecksum url text))) ∧
    (∀ (e : Equipment) (q : CookRequest) (w : World), q.variation.mode = .release →
      (outcome (cook e q).transcript w).1.1 = 33 → Warned q.formula w) ∧
    ∀ (e : Equipment) (q : FetchRequest) (w : World), q.mode = .release →
      (outcome (fetch e q).transcript w).1.1 = 33 → Warned q.formula w := by
  refine ⟨fun f warnings hurl h => ?_, fun e q w => warned_of_cook, fun e q w => warned_of_fetch⟩
  obtain ⟨d, hd⟩ := (Formula.declared_of_validate h).1 hurl
  exact ⟨d, hd, fun s => Formula.warned_iff_refused hurl h hd⟩

/-! ### A checksum that is yet to come -/

/-- A formula whose checksum is a placeholder. -/
def pendingFormula : Formula :=
  { Formula.archived with
    source := { url := some "https://example.org/demo.tar", checksum := some "pending" } }

def pendingShelf : World where
  files := {
    entries := [(["tmp"], .directory), (["demo.toml"], .ofData (Text.encode
      "package.name = \"demo\"\npackage.version = \"1.0\"\nsource.url = \"https://example.org/demo.tar\"\nsource.checksum = \"pending\"\nbuild.target = \".\"")
      false)] }

def pendingCook : CookRequest where
  formula := "/demo.toml"
  root := "/p"
  variation := {}
  sourceCache := none
  timeout := 60
  testTimeout := 60
  allowUnverified := false
  keepBuildDir := false
  json := false

def pendingFetch : FetchRequest where
  formula := "/demo.toml"
  mode := .release
  target := none
  sourceCache := none
  timeout := 60
  allowUnverified := false

def bare : Equipment where
  launch := fun _ _ => .error .noEntry

/-- The formula is refused, as its check has foreseen. -/
theorem refusal_of_pending_foreseen :
    pendingFormula.validate = .ok [.notSemantic "1.0", .placeholderChecksum "pending",
      .noDescription, .noLicense, .noHomepage, .noTests] ∧
    (∃ d, pendingFormula.descriptor .release = .ok d ∧
      ∃ url text, (Kitchen.Settings.standard []).checkSource d =
        .error (.unverifiedChecksum url text)) ∧
    (outcome (cook bare pendingCook).transcript pendingShelf).1.1 = 33 ∧
    (outcome (fetch bare pendingFetch).transcript pendingShelf).1.1 = 33 ∧
    Warned pendingCook.formula pendingShelf ∧ Warned pendingFetch.formula pendingShelf := by
  have hchecked : pendingFormula.validate = .ok [.notSemantic "1.0",
      .placeholderChecksum "pending", .noDescription, .noLicense, .noHomepage, .noTests] := by
    decide +kernel
  have hcook : (outcome (cook bare pendingCook).transcript pendingShelf).1.1 = 33 := by
    decide +kernel
  have hfetch : (outcome (fetch bare pendingFetch).transcript pendingShelf).1.1 = 33 := by
    decide +kernel
  obtain ⟨d, hd, hforeseen⟩ := refusals_foreseen.1 pendingFormula _ rfl hchecked
  refine ⟨hchecked, ⟨d, hd, (hforeseen _ rfl).1 ⟨_, .tail _ (.head _), .placeholder _⟩⟩, hcook,
    hfetch, ?_, ?_⟩
  · exact refusals_foreseen.2.1 bare pendingCook pendingShelf rfl hcook
  · exact refusals_foreseen.2.2 bare pendingFetch pendingShelf rfl hfetch

end CommandLine

end Formulary
