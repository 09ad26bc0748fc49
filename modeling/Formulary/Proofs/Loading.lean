import Formulary.CommandLine.Commands
import Formulary.Proofs.CommandLine.Works
import Formulary.Proofs.Descriptor

/-!
# Checked formulas and loaded ones

A formula that passes its check has a descriptor for a release that it declares and for a head that
it declares. One that is only a repository has one for the head as well, unless its name is blank:
the check refuses no blank name, every descriptor does. So the formulas that the check lets pass and
that can be loaded are those whose names are not blank: `loaded_iff_validated`.
-/

namespace Formulary

/-! ### Descriptors of formulas -/

namespace Formula

variable {f : Formula} {warnings : List Warning}

/-- What a check has seen to: what is declared can be described, and something is. -/
theorem declared_of_validate (h : f.validate = .ok warnings) :
    (f.source.url.isSome → ∃ d, f.descriptor .release = .ok d) ∧
    (f.head.isSome → ∃ d, f.descriptor .head = .ok d) ∧
    (f.source.url.isSome ∨ f.source.vcs.isSome) := by
  obtain ⟨-, -, h⟩ := bind_eq_ok.1 h
  obtain ⟨versionWarnings, hrelease, h⟩ := bind_eq_ok.1 h
  obtain ⟨_, hsources, -⟩ := bind_eq_ok.1 h
  refine ⟨fun hurl => ?_, fun hhead => ?_, ?_⟩
  · unfold checkRelease at hrelease
    rw [if_pos hurl] at hrelease
    obtain ⟨d, hd, -⟩ := bind_eq_ok.1 hrelease
    exact ⟨d, hd⟩
  · unfold checkSources at hsources
    dsimp only at hsources
    rw [if_pos hhead] at hsources
    obtain ⟨d, hd, -⟩ := bind_eq_ok.1 hsources
    exact ⟨d, hd⟩
  · by_contra hnone
    rw [not_or, Option.not_isSome_iff_eq_none, Option.not_isSome_iff_eq_none] at hnone
    unfold checkSources at hsources
    rw [hnone.1, hnone.2] at hsources
    dsimp only at hsources
    -- with or without a head to describe first, the check ends in a refusal
    split at hsources
    · obtain ⟨_, -, hrefused⟩ := bind_eq_ok.1 hsources
      cases hrefused
    · cases hsources

/-- **A formula that passes its check has a descriptor for some mode just if its name is not
blank.** -/
theorem descriptor_iff_of_validate (h : f.validate = .ok warnings) :
    (∃ mode d, f.descriptor mode = .ok d) ↔ Text.blankText f.package.name = false := by
  refine ⟨fun ⟨_, _, hd⟩ => blankText_of_descriptor hd, fun hname => ?_⟩
  obtain ⟨hrelease, hhead, hdeclared⟩ := declared_of_validate h
  by_cases hurl : f.source.url.isSome
  · exact ⟨.release, hrelease hurl⟩
  have hvcs := hdeclared.resolve_left hurl
  rw [Option.not_isSome_iff_eq_none] at hurl
  exact ⟨.head, exists_descriptor_iff.2 ⟨hname, .inr ⟨hvcs, hurl⟩⟩⟩

end Formula

/-! ### The load stage and the command that only checks -/

section Commands

variable {p : Path} {w : World} {f : Formula}

theorem Loaded.exists_fromFile_iff (hf : (attempted (Formula.fromFile p) w).1 = .ok f)
    (mode : Mode) :
    (∃ l, (attempted (Loaded.fromFile p mode) w).1 = .ok l) ↔
      (∃ warnings, f.validate = .ok warnings) ∧ ∃ d, f.descriptor mode = .ok d := by
  unfold Loaded.fromFile
  rw [attempted_bind_of_ok hf, attempted_bind, attempted_mk, outcome_pure]
  rcases f.validate with e | warnings
  · simp
  dsimp only
  rw [attempted_bind, attempted_mk, outcome_pure]
  rcases f.descriptor mode with e | d
  · simp
  · simp

theorem CommandLine.attempted_checkFormula (hf : (attempted (Formula.fromFile p) w).1 = .ok f) :
    (attempted (checkFormula p) w).1 = f.validate.map (f, ·) := by
  unfold checkFormula
  rw [attempted_bind_of_ok hf, attempted_bind, attempted_mk, outcome_pure]
  rcases f.validate with e | warnings
  · rfl
  · rfl

theorem CommandLine.exitCode_validate (hf : (attempted (Formula.fromFile p) w).1 = .ok f) :
    (outcome (validate p).transcript w).1.1 = 0 ↔ ∃ warnings, f.validate = .ok warnings := by
  have hcheck := attempted_checkFormula hf
  rw [Work.exitCode_transcript]
  unfold validate
  obtain ⟨said, hfirst⟩ := (Work.onlySays_say _).bind _ {} w
  obtain ⟨said', hchecked⟩ := Work.told_orRefuse .load (checkFormula p) said w
  rw [hfirst, Work.told_bind, hchecked]
  rcases hr : attempted (checkFormula p) w with ⟨e | ⟨f', warnings⟩, v⟩
  · rw [hr] at hcheck
    obtain hrefused := map_eq_error.1 hcheck.symm
    simp [hrefused, Failure.exitCode, failureCode, Stage.index]
  · rw [hr] at hcheck
    obtain ⟨warnings', hpassed, -⟩ := map_eq_ok.1 hcheck.symm
    dsimp only
    obtain ⟨said₁, h₁⟩ := (Work.onlySays_sayAll (sourceLines f')).bind _ said v
    obtain ⟨said₂, h₂⟩ := (Work.onlySays_sayAll (warnings.map warningLine)).bind _ said₁ v
    obtain ⟨said₃, h₃⟩ := (Work.onlySays_say "Formula validation passed").bind _ said₂ v
    rw [h₁, h₂, h₃]
    refine iff_of_true ?_ ⟨warnings', hpassed⟩
    cases warnings with
    | nil => rfl
    | cons => rfl

/-- **Of the formulas that can be read, those can be loaded in some mode that the check lets pass
and whose names are not blank.** -/
theorem CommandLine.loaded_iff_validated (hf : (attempted (Formula.fromFile p) w).1 = .ok f) :
    (∃ mode l, (attempted (Loaded.fromFile p mode) w).1 = .ok l) ↔
      (outcome (validate p).transcript w).1.1 = 0 ∧ Text.blankText f.package.name = false := by
  rw [exitCode_validate hf]
  simp only [Loaded.exists_fromFile_iff hf]
  refine ⟨fun ⟨mode, hchecked, d, hd⟩ => ⟨hchecked, Formula.blankText_of_descriptor hd⟩, ?_⟩
  rintro ⟨⟨warnings, hchecked⟩, hname⟩
  obtain ⟨mode, d, hd⟩ := (Formula.descriptor_iff_of_validate hchecked).2 hname
  exact ⟨mode, ⟨warnings, hchecked⟩, d, hd⟩

end Commands

/-! ### A blank name -/

/-- A formula that is only a repository, under a name of a single blank. -/
def blankFormula : Formula := { Formula.cloned with package := { name := " " } }

/-- A blank name passes the check, and no mode has a descriptor for it. -/
theorem blankFormula_passes :
    blankFormula.validate = .ok [.noDescription, .noLicense, .noHomepage, .noTests] ∧
    ∀ mode d, blankFormula.descriptor mode ≠ .ok d := by
  refine ⟨by decide +kernel, fun mode d hd => ?_⟩
  exact absurd (Formula.blankText_of_descriptor hd) (by decide)

/-- A file with the same formula under a name that is not blank. -/
def shelf : World where
  files := {
    entries := [(["demo.toml"], .ofData (Text.encode
      "package.name = \"demo\"\nsource.vcs = \"https://example.org/demo.git\"\nbuild.target = \".\"")
      false)] }

theorem loaded_cloned :
    (attempted (Formula.fromFile "/demo.toml") shelf).1 = .ok .cloned ∧
    (outcome (CommandLine.validate "/demo.toml").transcript shelf).1.1 = 0 ∧
    ∃ mode l, (attempted (Loaded.fromFile "/demo.toml" mode) shelf).1 = .ok l := by
  have hread : (attempted (Formula.fromFile "/demo.toml") shelf).1 = .ok .cloned := by
    decide +kernel
  have hchecked : Formula.cloned.validate =
      .ok [.noDescription, .noLicense, .noHomepage, .noTests] := by decide +kernel
  have hcode := (CommandLine.exitCode_validate hread).2 ⟨_, hchecked⟩
  exact ⟨hread, hcode, (CommandLine.loaded_iff_validated hread).2 ⟨hcode, by decide⟩⟩

end Formulary
