import Formulary.Proofs.Descriptor
import Formulary.Proofs.Kitchen.Stages

/-!
# Reports agree with what happened

A run of a kitchen asks for the four stages in their order, so it ends in one of five ways: one of
the stages was not got through, or the assertions were judged. `Ended` lists them, `ended_stages`
shows that there are no others, and the report of each is looked at once.
-/

namespace Formulary

/-- A look at whether a stop has been asked for is all that happened. -/
def World.looked (w : World) : World := { w with looks := w.looks + 1 }

/-- The records tell of a stage that succeeded. -/
def Succeeded (records : List StageRecord) (stage : Stage) : Prop :=
  ∃ r ∈ records, r.stage = stage ∧ r.succeeded = true

@[simp] theorem succeeded_nil (stage : Stage) : ¬ Succeeded [] stage := by
  simp [Succeeded]

@[simp] theorem succeeded_cons (r : StageRecord) (records : List StageRecord) (stage : Stage) :
    Succeeded (r :: records) stage ↔
      (r.stage = stage ∧ r.succeeded = true) ∨ Succeeded records stage := by
  simp [Succeeded]

@[simp] theorem succeeded_append (records rest : List StageRecord) (stage : Stage) :
    Succeeded (records ++ rest) stage ↔ Succeeded records stage ∨ Succeeded rest stage := by
  simp [Succeeded, or_and_right, exists_or]

namespace Kitchen

/-! ### One stage -/

/-- A stage does not let a run go on, whose records so far are given: the run is to stop, or the
action of the stage fails. -/
inductive Fell {α : Type} (action : Cooking (Except Failure α)) (stage : Stage)
    (records : List StageRecord) (s : Session) (w : World) : Pipeline → Session → World → Prop
  | stopped (h : w.stopRequested w.looks = true) : Fell action stage records s w
    ⟨.ofFailure stage (.cancelled stage.display), records, some (.cancelled stage.display)⟩
    s w.looked
  | failed {e : Failure} {t : Session} {v : World} (duration : Nat)
    (hgoing : w.stopRequested w.looks = false)
    (h : outcomeWith action s w.looked = (.error e, t, v)) : Fell action stage records s w
    ⟨.ofFailure stage e, records ++ [⟨stage, false, duration⟩], some e⟩ t v

/-- A stage lets a run go on with what its action gives. -/
structure Got {α : Type} (action : Cooking (Except Failure α)) (a : α) (s : Session) (w : World)
    (t : Session) (v : World) : Prop where
  going : w.stopRequested w.looks = false
  given : outcomeWith action s w.looked = (.ok a, t, v)

/-- A stage that leads on comes out in one of these ways, so what holds for both of them, whatever is
done with it, holds. -/
theorem run_cases {α β : Type} {p : Pipeline} {stage : Stage} {action : Cooking (Except Failure α)}
    {g : Option α × Pipeline → Cooking β} {s : Session} {w : World}
    {Q : β × Session × World → Prop} (h : p.state.next? = some stage)
    (fell : ∀ p' t v, Fell action stage p.records s w p' t v → Q (outcomeWith (g (none, p')) t v))
    (got : ∀ a duration t v, Got action a s w t v →
      Q (outcomeWith (g (some a, ⟨.after stage, p.records ++ [⟨stage, true, duration⟩],
        p.failure⟩)) t v)) :
    Q (outcomeWith (p.run watch stage action >>= g) s w) := by
  rw [outcomeWith_bind]
  cases hc : w.stopRequested w.looks with
  | true =>
    have hcancelled : (outcomeWith watch.cancelled s w).1 = true := hc
    rw [Pipeline.outcomeWith_run_of_stopped h hcancelled]
    exact fell _ _ _ (.stopped hc)
  | false =>
    have hgoing : (outcomeWith watch.cancelled s w).1 = false := hc
    obtain ⟨duration, hgiven, hleft⟩ := Pipeline.outcomeWith_run_of_entered action h hgoing
    -- looking at the clock changes nothing
    have hrun : outcomeWith (p.run watch stage action) s w =
        (p.settle stage (outcomeWith action s w.looked).1 duration,
          (outcomeWith action s w.looked).2) := Prod.ext hgiven hleft
    rw [hrun]
    rcases hr : outcomeWith action s w.looked with ⟨e | a, t, v⟩
    · exact fell _ _ _ (.failed duration hc hr)
    · exact got a duration t v ⟨hc, hr⟩

/-- What holds however a stage that leads on comes out, and whatever is done with that, holds: the
run is to stop, or the action fails or succeeds. -/
theorem run_bind {α β : Type} {p : Pipeline} {stage : Stage} {action : Cooking (Except Failure α)}
    {g : Option α × Pipeline → Cooking β} {s : Session} {w : World}
    {Q : β × Session × World → Prop} (h : p.state.next? = some stage)
    (stopped : Q (outcomeWith (g (none, p.fail stage (.cancelled stage.display))) s w.looked))
    (failed : ∀ e duration t v, outcomeWith action s w.looked = (.error e, t, v) →
      Q (outcomeWith (g (none, ⟨.ofFailure stage e, p.records ++ [⟨stage, false, duration⟩],
          some e⟩)) t v))
    (passed : ∀ a duration t v, outcomeWith action s w.looked = (.ok a, t, v) →
      Q (outcomeWith (g (some a, ⟨.after stage, p.records ++ [⟨stage, true, duration⟩],
          p.failure⟩)) t v)) :
    Q (outcomeWith (p.run watch stage action >>= g) s w) := by
  refine run_cases h (fun p' t v hfell => ?_) fun a duration t v hgot =>
    passed a duration t v hgot.given
  cases hfell with
  | stopped => exact stopped
  | failed duration _ h => exact failed _ duration t v h

/-! ### Ways to end -/

/-- A run that got through the stages of some records and not through the next one. -/
inductive Broken (records : List StageRecord) (stage : Stage) (P : Failure → Prop) : Pipeline → Prop
  | stopped : Broken records stage P
    ⟨.ofFailure stage (.cancelled stage.display), records, some (.cancelled stage.display)⟩
  | failed (e : Failure) (duration : Nat) (h : P e) : Broken records stage P
    ⟨.ofFailure stage e, records ++ [⟨stage, false, duration⟩], some e⟩

/-- How a run in a world can end, with what it kept. -/
inductive Ended (k : Kitchen) (f : Formula) (d : Descriptor) (c : Context) (w : World) :
    Course → Session → Prop
  | unresolved {p : Pipeline} (hp : Broken [] .resolve Failure.InTurn p) :
    Ended k f d c w { pipeline := p } {}
  | unbuilt {p : Pipeline} {r : Resolution} {s : Session} (t₁ : Nat)
    (hr : Resolution.resolve f d c = .ok r)
    (hp : Broken [⟨.resolve, true, t₁⟩] .build
      (fun e => e.InTurn ∨ k.Refused d w.looked.looked e) p)
    (hs : s.installed = [] ∧ s.smoke = none) :
    Ended k f d c w { pipeline := p, resolution := some r } s
  | incomplete {p : Pipeline} {r : Resolution} {a : Path} {s : Session} (t₁ t₂ : Nat)
    (hr : Resolution.resolve f d c = .ok r)
    (hp : Broken [⟨.resolve, true, t₁⟩, ⟨.build, true, t₂⟩] .postInstall Failure.InTurn p)
    (hs : s.smoke = none) :
    Ended k f d c w { pipeline := p, resolution := some r, artifact := some a } s
  | untried {p : Pipeline} {r : Resolution} {a : Path} {s : Session} (t₁ t₂ t₃ : Nat)
    (hr : Resolution.resolve f d c = .ok r)
    (hp : Broken [⟨.resolve, true, t₁⟩, ⟨.build, true, t₂⟩, ⟨.postInstall, true, t₃⟩] .verify
      Failure.InTurn p)
    (hs : s.smoke = none) :
    Ended k f d c w { pipeline := p, resolution := some r, artifact := some a } s
  | judged {r : Resolution} {a : Path} {s : Session} {result : Except Failure Unit}
    (t₁ t₂ t₃ t₄ : Nat) (hr : Resolution.resolve f d c = .ok r) (report : SmokeReport)
    (hids : report.results.map AssertionResult.id = Smoke.idsFrom 0 f.tests)
    (hv : result = report.verdict) (hs : s.smoke = some report) :
    Ended k f d c w {
      pipeline := (Pipeline.settle ⟨.postInstalled,
        [⟨.resolve, true, t₁⟩, ⟨.build, true, t₂⟩, ⟨.postInstall, true, t₃⟩], none⟩ .verify
        result t₄).2
      resolution := some r, artifact := some a } s

/-- **A run ends in one of these ways.** -/
theorem ended_stages (k : Kitchen) (f : Formula) (d : Descriptor) (c : Context) (w : World) :
    Ended k f d c w (outcomeWith (k.stages f d c) {} w).1
      (outcomeWith (k.stages f d c) {} w).2.1 := by
  let Q : Course × Session × World → Prop := fun x => Ended k f d c w x.1 x.2.1
  change Q (outcomeWith (k.stages f d c) {} w)
  refine run_bind rfl (.unresolved .stopped) (fun e t s v h => ?_) fun r t₁ s v h => ?_
  · simp only [outcomeWith_pure, Prod.mk.injEq] at h
    obtain ⟨he, rfl, -⟩ := h
    exact .unresolved (.failed e t (Resolution.unresolved_of_resolve he).inTurn)
  simp only [outcomeWith_pure, Prod.mk.injEq] at h
  obtain ⟨hr, rfl, rfl⟩ := h
  obtain ⟨hbuild, hkept⟩ := k.build_ends f d r {} w.looked.looked
  refine run_bind rfl (.unbuilt t₁ hr .stopped ⟨rfl, rfl⟩) (fun e t s v h => ?_)
    fun a t₂ s v h => ?_
  · rw [h] at hbuild hkept
    exact .unbuilt t₁ hr (.failed e t (hbuild e rfl)) hkept
  rw [h] at hkept
  have hs : s.smoke = none := hkept.2
  obtain ⟨hcompleted, hsmoke⟩ := k.postInstall_ends f r s v.looked
  refine run_bind rfl (.incomplete t₁ t₂ hr .stopped hs) (fun e t s' v' h => ?_)
    fun _ t₃ s' v' h => ?_
  · rw [h] at hcompleted hsmoke
    exact .incomplete t₁ t₂ hr (.failed e t (hcompleted e rfl)) (hsmoke.trans hs)
  rw [h] at hsmoke
  have hs' : s'.smoke = none := hsmoke.trans hs
  have hverify := k.verify_ends f r (Resolution.length_expectations hr) s' v'.looked
  refine run_bind rfl (.untried t₁ t₂ t₃ hr .stopped hs') (fun e t₄ u x h => ?_)
    fun _ t₄ u x h => ?_
  · rw [h] at hverify
    rcases hverify with ⟨e', he', hgiven, hsame⟩ | ⟨report, hids, hgiven, hjudged⟩
    · cases hgiven
      cases hsame
      exact .untried t₁ t₂ t₃ hr (.failed e t₄ he') hs'
    · exact .judged t₁ t₂ t₃ t₄ hr report hids hgiven (congrArg Session.smoke hjudged)
  · rw [h] at hverify
    rcases hverify with ⟨e', -, hgiven, -⟩ | ⟨report, hids, hgiven, hjudged⟩
    · cases hgiven
    · exact .judged t₁ t₂ t₃ t₄ hr report hids hgiven (congrArg Session.smoke hjudged)

/-! ### Reports -/

/-- The report of a run in a world agrees with what happened. -/
structure Faithful (k : Kitchen) (f : Formula) (d : Descriptor) (c : Context) (w : World)
    (r : Report) : Prop where
  /-- The run is over. -/
  finished : r.state = .verified ∨ ∃ stage reason code, r.state = .failed stage reason code
  exitCode : r.exitCode ≠ 99
  /-- No stage is asked for out of turn; only the fetcher can say so. -/
  inTurn : ∀ origin stage, r.failure = some (.invalidTransition origin stage) →
    k.Refused d w.looked.looked (.invalidTransition origin stage)
  failure : r.failure = none ↔ r.state = .verified
  artifact : r.artifact.isSome ↔ Succeeded r.stages .build
  installed : r.installed ≠ [] → Succeeded r.stages .build
  unresolved : ¬ Succeeded r.stages .resolve → r.flags = []
  resolved : Succeeded r.stages .resolve →
    ∃ res, Resolution.resolve f d c = .ok res ∧ r.flags = res.flags
  /-- There is a result for each assertion, and they decide about the run. -/
  smoke : ∀ report, r.smoke = some report →
    report.results.map AssertionResult.id = Smoke.idsFrom 0 f.tests ∧
    (r.state = .verified ↔ report.passed = true) ∧
    (r.state ≠ .verified → r.failure = some (.verificationFailed report.failed f.tests.length))
  verified : r.state = .verified → r.smoke.isSome ∧
    ∃ t₁ t₂ t₃ t₄, r.stages = [⟨.resolve, true, t₁⟩, ⟨.build, true, t₂⟩, ⟨.postInstall, true, t₃⟩,
      ⟨.verify, true, t₄⟩]
  output : r.output = r.failure.bind Failure.capturedOutput

/-- A run that broke off failed with some failure, and nothing that it recorded after the stages it
got through succeeded. -/
theorem Broken.exists_eq {records : List StageRecord} {stage : Stage} {P : Failure → Prop}
    {p : Pipeline} (hp : Broken records stage P p) :
    ∃ e tail, p = ⟨.ofFailure stage e, records ++ tail, some e⟩ ∧
      (∀ other, ¬ Succeeded tail other) ∧ (e.InTurn ∨ P e) := by
  cases hp with
  | stopped =>
    refine ⟨_, [], by rw [List.append_nil], by simp, .inl ?_⟩
    simp [Failure.InTurn]
  | failed e duration h => exact ⟨e, [⟨stage, false, duration⟩], rfl, by simp, .inr h⟩

theorem ofFailure_ne_verified (stage : Stage) (e : Failure) :
    RunState.ofFailure stage e ≠ .verified := by
  simp [RunState.ofFailure]

theorem exitCode_ofFailure_ne (stage : Stage) (e : Failure) :
    (RunState.ofFailure stage e).exitCode ≠ 99 := by
  have := e.reasonCode_le
  cases stage <;> simp only [RunState.ofFailure, RunState.exitCode, failureCode, Stage.index] <;>
    omega

section Reports

variable {k : Kitchen} {f : Formula} {d : Descriptor} {c : Context} {w : World}

/-- A run that broke off has a report that agrees with it, if what it resolved, built and installed
does, and if the assertions were the cause wherever they were judged. -/
theorem Broken.faithful {records : List StageRecord} {stage : Stage} {P : Failure → Prop}
    {course : Course} {s : Session} (hp : Broken records stage P course.pipeline)
    (hP : ∀ e, P e → e.InTurn ∨ k.Refused d w.looked.looked e)
    (hartifact : course.artifact.isSome ↔ Succeeded records .build)
    (hinstalled : s.installed ≠ [] → Succeeded records .build)
    (hnone : ¬ Succeeded records .resolve → course.resolution = none)
    (hsome : Succeeded records .resolve →
      ∃ res, Resolution.resolve f d c = .ok res ∧ course.resolution = some res)
    (hs : ∀ report, s.smoke = some report →
      report.results.map AssertionResult.id = Smoke.idsFrom 0 f.tests ∧ report.passed = false ∧
      course.pipeline.failure = some (.verificationFailed report.failed f.tests.length)) :
    Faithful k f d c w (reportOf d course s) := by
  obtain ⟨e, tail, hpipe, htail, he⟩ := hp.exists_eq
  have hsucc : ∀ other, Succeeded (reportOf d course s).stages other ↔ Succeeded records other := by
    intro other
    simp [reportOf, hpipe, htail]
  have hstate : (reportOf d course s).state = .ofFailure stage e := by
    simp [reportOf, hpipe]
  have hfailure : (reportOf d course s).failure = some e := by
    simp [reportOf, hpipe]
  have hne : RunState.ofFailure stage e ≠ .verified := ofFailure_ne_verified stage e
  exact {
    finished := .inr ⟨_, _, _, hstate⟩
    exitCode := by
      unfold Report.exitCode
      rw [hstate]
      exact exitCode_ofFailure_ne stage e
    inTurn := by
      intro origin other h
      obtain rfl := Option.some.inj (hfailure.symm.trans h)
      rcases he.elim .inl (hP _) with he | he
      · exact absurd rfl (he origin other)
      · exact he
    failure := by simp [hfailure, hstate, hne]
    artifact := hartifact.trans (hsucc .build).symm
    installed := fun h => (hsucc .build).2 (hinstalled h)
    unresolved := by
      intro h
      simp [reportOf, hnone (fun hr => h ((hsucc .resolve).2 hr))]
    resolved := by
      intro h
      obtain ⟨res, hres, hc⟩ := hsome ((hsucc .resolve).1 h)
      exact ⟨res, hres, by simp [reportOf, hc]⟩
    smoke := by
      intro report h
      obtain ⟨hids, hpassed, hcause⟩ := hs report h
      exact ⟨hids, by simp [hstate, hne, hpassed], fun _ => hcause⟩
    verified := fun h => absurd (hstate.symm.trans h) hne
    output := rfl }

theorem verdict_of_passed {report : SmokeReport} (h : report.passed = true) :
    report.verdict = .ok () := by
  rw [SmokeReport.verdict, if_pos h]

theorem verdict_of_not_passed {report : SmokeReport} (h : report.passed = false) :
    report.verdict = .error (.verificationFailed report.failed report.results.length) := by
  rw [SmokeReport.verdict, if_neg (by simp [h])]

/-- **However a run ends, its report agrees with what happened.** -/
theorem Ended.faithful {course : Course} {s : Session} (h : Ended k f d c w course s) :
    Faithful k f d c w (reportOf d course s) := by
  cases h with
  | unresolved hp =>
    exact hp.faithful (fun e he => .inl he) (by simp) (by simp) (by simp) (by simp) (by simp)
  | unbuilt t₁ hr hp hs =>
    exact hp.faithful (fun e he => he) (by simp) (by simp [hs.1]) (by simp) (by simp [hr])
      (by simp [hs.2])
  | incomplete t₁ t₂ hr hp hs =>
    exact hp.faithful (fun e he => .inl he) (by simp) (by simp) (by simp) (by simp [hr])
      (by simp [hs])
  | untried t₁ t₂ t₃ hr hp hs =>
    exact hp.faithful (fun e he => .inl he) (by simp) (by simp) (by simp) (by simp [hr])
      (by simp [hs])
  | judged t₁ t₂ t₃ t₄ hr report hids hv hs =>
    have hlength : report.results.length = f.tests.length := by
      simpa [Smoke.idsFrom] using congrArg List.length hids
    cases hpassed : report.passed with
    | true =>
      rw [verdict_of_passed hpassed] at hv
      subst hv
      exact {
        finished := .inl rfl
        exitCode := by simp [Report.exitCode, reportOf, Pipeline.settle, RunState.after,
          RunState.exitCode]
        inTurn := by simp [reportOf, Pipeline.settle]
        failure := by simp [reportOf, Pipeline.settle, RunState.after]
        artifact := by simp [reportOf, Pipeline.settle]
        installed := by simp [reportOf, Pipeline.settle]
        unresolved := by simp [reportOf, Pipeline.settle]
        resolved := fun _ => ⟨_, hr, rfl⟩
        smoke := by
          intro report' h
          obtain rfl := Option.some.inj (hs.symm.trans h)
          refine ⟨hids, ?_, fun hne => absurd rfl hne⟩
          simp [hpassed, reportOf, Pipeline.settle, RunState.after]
        verified := fun _ => ⟨by simp [reportOf, hs], t₁, t₂, t₃, t₄, rfl⟩
        output := rfl }
    | false =>
      rw [verdict_of_not_passed hpassed, hlength] at hv
      subst hv
      have hp : Broken [⟨.resolve, true, t₁⟩, ⟨.build, true, t₂⟩, ⟨.postInstall, true, t₃⟩] .verify
          Failure.InTurn _ :=
        .failed (.verificationFailed report.failed f.tests.length) t₄ (by simp [Failure.InTurn])
      refine hp.faithful (fun e he => .inl he) (by simp) (by simp) (by simp) (by simp [hr]) ?_
      intro report' h
      obtain rfl := Option.some.inj (hs.symm.trans h)
      exact ⟨hids, hpassed, rfl⟩

/-- **The report of a run agrees with what happened**, whatever the formula, the fetcher and the
programs do, and whenever a stop is asked for. -/
theorem faithful_cook (k : Kitchen) (f : Formula) (d : Descriptor) (c : Context) (w : World) :
    Faithful k f d c w (outcome (k.cook f d c) w).1 :=
  (ended_stages k f d c w).faithful

end Reports

/-! ### A fetcher that speaks out of turn -/

/-- A kitchen whose fetcher claims that a stage was asked for out of turn. -/
def contrary : Kitchen where
  settings := { sourceCache := "/cache" }
  launch := fun _ _ => .error .noEntry
  fetcher := fun _ _ _ => throw (.invalidTransition "loaded" "verify")

/-- A report can tell of a stage out of turn: a fetcher need not be honest. -/
theorem failure_contrary :
    Formula.cloned.descriptor .head = .ok .cloned ∧
    (outcome (contrary.cook .cloned .cloned .first)
      { files := { entries := [(["tmp"], .directory)] } }).1.failure =
        some (.invalidTransition "loaded" "verify") :=
  ⟨Formula.descriptor_cloned, by decide +kernel⟩

end Kitchen

end Formulary
