import Formulary.CommandLine.Commands
import Formulary.Proofs.CommandLine.Works
import Formulary.Proofs.Loading

/-!
# Exit codes

Which code a command ends with, whatever it says on its way: it follows from the formula's file, from
what is resolved and from what the work of the command comes to. Whether a formula can be loaded is
decided by what reading its file gives (`Loaded.ofContent`), wherever the file is.
-/

namespace Formulary

/-! ### The content of a formula's file -/

/-- The formula that is in a file, from what reading the file gives. -/
def Formula.ofContent : Except Fault Bytes → Except Failure Formula
  | .ok bytes =>
    match Text.decode? bytes with
    | some text => Formula.read text
    | none => .error (fileFailure .notText)
  | .error fault => .error (fileFailure fault)

/-- The formula that is loaded for a build, from what reading its file gives. -/
def Loaded.ofContent (content : Except Fault Bytes) (mode : Mode) : Except Failure Loaded := do
  let formula ← Formula.ofContent content
  let warnings ← formula.validate
  let descriptor ← formula.descriptor mode
  return { formula, descriptor, warnings }

variable (p : Path) (w : World)

theorem Formula.attempted_fromFile :
    attempted (fromFile p) w = (ofContent (w.files.read w.here p), w) := by
  unfold fromFile
  have hread : outcome (Disk.read p) w = (w.files.read w.here p, w) := rfl
  rw [attempted_bind, attempted_orFail, hread]
  rcases w.files.read w.here p with fault | bytes
  · rfl
  · dsimp only [Except.mapError, ofContent]
    cases Text.decode? bytes <;> rfl

/-- **Loading leaves the world alone, and what it gives is decided by what reading the file gives.** -/
theorem Loaded.attempted_fromFile (mode : Mode) :
    attempted (fromFile p mode) w = (ofContent (w.files.read w.here p) mode, w) := by
  unfold fromFile ofContent
  rw [attempted_bind, Formula.attempted_fromFile]
  rcases Formula.ofContent (w.files.read w.here p) with e | f
  · rfl
  dsimp only
  rw [attempted_bind, attempted_mk, outcome_pure]
  rcases hchecked : f.validate with e | warnings
  · simp only [bind, Except.bind, hchecked]
  dsimp only
  rw [attempted_bind, attempted_mk, outcome_pure]
  simp only [bind, Except.bind, hchecked]
  rcases f.descriptor mode with e | d
  · rfl
  · rfl

namespace CommandLine

/-! ### How a command ends -/

namespace Work

section Laws

variable {α : Type} {work : Work α} {next : α → Work Nat} {talk : Work Unit} {code : Nat}
  {v w : World}

/-- A command ends with an exit code, whatever has been said before. -/
def EndsWith (work : Work Nat) (code : Nat) (w : World) : Prop :=
  ∀ said, (told work said w).1 = .ok code ∨ (told work said w).1 = .error code

theorem EndsWith.exitCode {work : Work Nat} (h : EndsWith work code w) :
    (outcome work.transcript w).1.1 = code := by
  rw [exitCode_transcript]
  rcases h {} with h | h <;> rw [h]

theorem endsWith_pure (code : Nat) (w : World) : EndsWith (pure code) code w := fun _ => .inl rfl

theorem EndsWith.bind {a : α} (h : ∀ said, ∃ said', told work said w = (.ok a, said', v))
    (hnext : EndsWith (next a) code v) : EndsWith (work >>= next) code w := by
  intro said
  obtain ⟨said', h⟩ := h said
  rw [told_bind, h]
  exact hnext said'

theorem EndsWith.of_error (h : ∀ said, ∃ said', told work said w = (.error code, said', v)) :
    EndsWith (work >>= next) code w := by
  intro said
  obtain ⟨said', h⟩ := h said
  rw [told_bind, h]
  exact .inr rfl

theorem EndsWith.lift {x : Act α} (h : EndsWith (next (outcome x w).1) code (outcome x w).2) :
    EndsWith (liftM x >>= next) code w := .bind (fun said => ⟨said, rfl⟩) h

theorem EndsWith.say {next : Unit → Work Nat} (htalk : OnlySays talk)
    (h : EndsWith (next ()) code w) : EndsWith (talk >>= next) code w :=
  .bind (fun said => htalk said w) h

theorem EndsWith.ite {work work' : Work Nat} (q : Prop) [Decidable q] (h : EndsWith work code w)
    (h' : EndsWith work' code w) : EndsWith (if q then work else work') code w := by
  split
  · exact h
  · exact h'

theorem EndsWith.orRefuse {stage : Stage} {attempt : Attempt α} {a : α}
    (h : attempted attempt w = (.ok a, v)) (hnext : EndsWith (next a) code v) :
    EndsWith (Work.orRefuse stage attempt >>= next) code w := by
  refine .bind (fun said => ?_) hnext
  obtain ⟨said', htold⟩ := told_orRefuse stage attempt said w
  rw [h] at htold
  exact ⟨said, htold⟩

theorem EndsWith.refused {stage : Stage} {attempt : Attempt α} {e : Failure}
    (h : (attempted attempt w).1 = .error e) :
    EndsWith (Work.orRefuse stage attempt >>= next) (e.exitCode stage) w := by
  refine .of_error (v := (attempted attempt w).2) fun said => ?_
  obtain ⟨said', htold⟩ := told_orRefuse stage attempt said w
  rcases hattempt : attempted attempt w with ⟨result, u⟩
  rw [hattempt] at h htold
  obtain rfl : result = .error e := h
  exact ⟨said', htold⟩

end Laws

/-! ### Saying something -/

theorem OnlySays.and {work work' : Work Unit} (h : OnlySays work) (h' : OnlySays work') :
    OnlySays (work >>= fun _ => work') := by
  intro said w
  obtain ⟨said₁, h₁⟩ := h.bind (fun _ => work') said w
  obtain ⟨said₂, h₂⟩ := h' said₁ w
  exact ⟨said₂, h₁.trans h₂⟩

theorem OnlySays.ite {work work' : Work Unit} (q : Prop) [Decidable q] (h : OnlySays work)
    (h' : OnlySays work') : OnlySays (if q then work else work') := by
  split
  · exact h
  · exact h'

theorem onlySays_complain (line : String) : OnlySays (complain line) := fun _ _ => ⟨_, rfl⟩

theorem onlySays_forM_complain (lines : List String) : OnlySays (lines.forM complain) := by
  induction lines with
  | nil => exact fun said _ => ⟨said, rfl⟩
  | cons line rest ih => exact (onlySays_complain line).and ih

end Work

open Work

theorem onlySays_showReport (r : Report) (json : Bool) : OnlySays (showReport r json) := by
  unfold showReport
  refine .ite _ (onlySays_say _) ((onlySays_sayAll _).and ?_)
  exact .ite _ (onlySays_say _) (onlySays_forM_complain _)

theorem onlySays_showResults (r : SmokeReport) (json : Bool) : OnlySays (showResults r json) := by
  unfold showResults
  exact .ite _ (onlySays_say _) (onlySays_sayAll _)

/-! ### What a command works with -/

def cookKitchen (e : Equipment) (q : CookRequest) (w : World) : Kitchen :=
  .standard { (outcome (settingsFor q.sourceCache q.timeout q.allowUnverified) w).1 with
    testTimeout := Kitchen.seconds q.testTimeout, keepBuildDir := q.keepBuildDir } e.launch

def fetchKitchen (e : Equipment) (q : FetchRequest) (w : World) : Kitchen :=
  .standard (outcome (settingsFor q.sourceCache q.timeout q.allowUnverified) w).1 e.launch

def surroundings (root : Path) (v : Variation) (w : World) : Context :=
  (outcome (contextFor root v) w).1

/-- The directory of a command that only fetches, and the world when it is there. -/
def targetIn (target : Option Path) (w : World) : Except Fault Path × World :=
  match target with
  | some p => ((outcome (Disk.makeAll p) w).1.map fun _ => p, (outcome (Disk.makeAll p) w).2)
  | none => outcome (Disk.makeTemporary "kettle-fetch-") w

/-- What a command loads and resolves, or the code it ends with. -/
def loadedAndResolved (p root : Path) (v : Variation) (w : World) :
    Except Nat (Loaded × Resolution) :=
  match Loaded.ofContent (w.files.read w.here p) v.mode with
  | .error e => .error (e.exitCode .load)
  | .ok l =>
    match Resolution.resolve l.formula l.descriptor (surroundings root v w) with
    | .error e => .error (e.exitCode .resolve)
    | .ok r => .ok (l, r)

/-- The exit code of trying out a program, from the verdict or from what keeps it from one. -/
def verdictCode : Except Failure Unit → Nat
  | .ok _ => 0
  | .error e => e.exitCode .verify

/-! ### Exit codes of the commands -/

theorem endsWith_cookLoaded (e : Equipment) (q : CookRequest) (l : Loaded) :
    EndsWith (cookLoaded e q l) (outcome ((cookKitchen e q w).cook l.formula l.descriptor
      (surroundings q.root q.variation w)) w).1.exitCode w := by
  unfold cookLoaded
  -- whatever is announced before, the rest is the same
  refine .ite _ (.say (onlySays_sayAll _) (.ite _ (.say (onlySays_say _) (.say (onlySays_say _) ?_))
    (.say (onlySays_say _) ?_))) ?_
  all_goals exact .lift (.lift (.lift (.say (onlySays_showReport _ _) (endsWith_pure _ _))))

theorem exitCode_cook (e : Equipment) (q : CookRequest) :
    (outcome (cook e q).transcript w).1.1 =
      match Loaded.ofContent (w.files.read w.here q.formula) q.variation.mode with
      | .ok l => (outcome ((cookKitchen e q w).cook l.formula l.descriptor
          (surroundings q.root q.variation w)) w).1.exitCode
      | .error failure => failure.exitCode .load := by
  refine EndsWith.exitCode ?_
  unfold cook
  refine .ite _ (.say (onlySays_say _) (.lift ?_)) (.lift ?_)
  all_goals
    rw [outcome_run, Loaded.attempted_fromFile]
    cases Loaded.ofContent (w.files.read w.here q.formula) q.variation.mode with
    | error failure => exact .say (onlySays_showReport _ _) (endsWith_pure _ _)
    | ok l => exact endsWith_cookLoaded w e q l

theorem told_loadAndResolve (p root : Path) (v : Variation) (said : Transcript) :
    ∃ said', told (loadAndResolve p root v) said w = (loadedAndResolved p root v w, said', w) := by
  obtain ⟨said₁, hload⟩ := told_orRefuse .load (Loaded.fromFile p v.mode) said w
  unfold loadAndResolve loadedAndResolved
  rw [told_bind, hload, Loaded.attempted_fromFile]
  cases Loaded.ofContent (w.files.read w.here p) v.mode with
  | error e => exact ⟨_, rfl⟩
  | ok l =>
    dsimp only
    rw [told_bind, told_lift]
    dsimp only
    obtain ⟨said₂, hresolve⟩ := told_orRefuse .resolve (ExceptT.mk (pure
      (Resolution.resolve l.formula l.descriptor (surroundings root v w)))) said w
    rw [attempted_mk, outcome_pure] at hresolve
    change ∃ said', told (orRefuse .resolve (ExceptT.mk (pure
      (Resolution.resolve l.formula l.descriptor (surroundings root v w)))) >>= _) said w = _
    rw [told_bind, hresolve]
    cases Resolution.resolve l.formula l.descriptor (surroundings root v w) with
    | error e => exact ⟨_, rfl⟩
    | ok r => exact ⟨_, rfl⟩

theorem endsWith_loadAndResolve {p root : Path} {v : Variation} {w : World}
    {next : Loaded × Resolution → Work Nat} {code : Nat}
    (h : match loadedAndResolved p root v w with
      | .ok loaded => EndsWith (next loaded) code w
      | .error ended => code = ended) :
    EndsWith (loadAndResolve p root v >>= next) code w := by
  have htold := told_loadAndResolve w p root v
  cases hresult : loadedAndResolved p root v w with
  | error ended =>
    rw [hresult] at h htold
    subst h
    exact .of_error htold
  | ok loaded =>
    rw [hresult] at h htold
    exact .bind htold h

theorem exitCode_resolve (q : ResolveRequest) :
    (outcome (resolve q).transcript w).1.1 =
      match loadedAndResolved q.formula q.root q.variation w with
      | .ok _ => 0
      | .error code => code := by
  refine EndsWith.exitCode (endsWith_loadAndResolve ?_)
  cases loadedAndResolved q.formula q.root q.variation w with
  | error code => rfl
  | ok loaded =>
    exact .ite _ (.say (onlySays_say _) (endsWith_pure 0 w))
      (.say (onlySays_sayAll _) (endsWith_pure 0 w))

theorem exitCode_test (e : Equipment) (q : TestRequest) :
    (outcome (test e q).transcript w).1.1 =
      match loadedAndResolved q.formula q.root q.variation w with
      | .ok (l, r) => verdictCode ((attempted (Smoke.run e.launch r.artifact l.formula.tests
          r.expectations (Kitchen.seconds q.testTimeout)) w).1 >>= SmokeReport.verdict)
      | .error code => code := by
  refine EndsWith.exitCode (endsWith_loadAndResolve ?_)
  cases loadedAndResolved q.formula q.root q.variation w with
  | error code => rfl
  | ok loaded =>
    obtain ⟨l, r⟩ := loaded
    dsimp only
    rcases htried : attempted (Smoke.run e.launch r.artifact l.formula.tests r.expectations
      (Kitchen.seconds q.testTimeout)) w with ⟨failure | report, v⟩
    · refine .ite _ (.say (onlySays_say _) ?_) ?_
      all_goals exact .refused (congrArg Prod.fst htried)
    · refine .ite _ (.say (onlySays_say _) ?_) ?_
      all_goals
        refine .orRefuse htried (.say (onlySays_showResults _ _) ?_)
        dsimp only [bind, Except.bind]
        cases report.verdict with
        | ok _ => exact .ite _ (.say (onlySays_say _) (endsWith_pure 0 v)) (endsWith_pure 0 v)
        | error failure => exact .say (onlySays_complain _) (endsWith_pure _ v)

theorem told_fetchTarget (e : Equipment) (target : Option Path) (said : Transcript) :
    ∃ said', told (fetchTarget e target) said w =
      ((targetIn target w).1.mapError (fun _ => 1), said', (targetIn target w).2) := by
  cases target with
  | some p =>
    unfold fetchTarget orFail targetIn
    dsimp only
    rw [told_bind, told_bind, told_lift]
    rcases outcome (Disk.makeAll p) w with ⟨fault | _, v⟩
    · exact ⟨_, rfl⟩
    · exact ⟨_, rfl⟩
  | none =>
    unfold fetchTarget orFail targetIn
    dsimp only
    rw [told_bind, told_lift]
    rcases outcome (Disk.makeTemporary "kettle-fetch-") w with ⟨fault | p, v⟩
    · exact ⟨_, rfl⟩
    · exact ⟨_, rfl⟩

theorem exitCode_fetch (e : Equipment) (q : FetchRequest) :
    (outcome (fetch e q).transcript w).1.1 =
      match Loaded.ofContent (w.files.read w.here q.formula) q.mode with
      | .error failure => failure.exitCode .load
      | .ok l =>
        match targetIn q.target w with
        | (.error _, _) => 1
        | (.ok target, v) =>
          match (attempted ((fetchKitchen e q v).fetch l.descriptor target) v).1 with
          | .error failure => failure.exitCode .build
          | .ok _ => 0 := by
  refine EndsWith.exitCode ?_
  unfold fetch
  have hload := Loaded.attempted_fromFile q.formula w q.mode
  cases hcontent : Loaded.ofContent (w.files.read w.here q.formula) q.mode with
  | error failure =>
    rw [hcontent] at hload
    exact .refused (congrArg Prod.fst hload)
  | ok l =>
    rw [hcontent] at hload
    refine .orRefuse hload ?_
    have htarget := told_fetchTarget w e q.target
    rcases hmade : targetIn q.target w with ⟨fault | target, v⟩
    · rw [hmade] at htarget
      exact .of_error htarget
    · rw [hmade] at htarget
      refine .bind htarget (.lift (.say (onlySays_say _) ?_))
      dsimp only
      rcases hfetched : attempted ((fetchKitchen e q v).fetch l.descriptor target) v with
        ⟨failure | root, u⟩
      · exact .refused (congrArg Prod.fst hfetched)
      · exact .orRefuse hfetched (.say (onlySays_say _) (endsWith_pure 0 u))

end CommandLine

end Formulary
