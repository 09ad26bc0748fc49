import Formulary.Proofs.CommandLine.ExitCodes
import Formulary.Proofs.Mentions
import Formulary.Proofs.Smoke.Behaviour
import Formulary.Proofs.Unbound

/-!
# Commands that agree

All commands that work on a formula end with the same code where it cannot be loaded, and all that
resolve it where it cannot be resolved, at whatever time they do. A program that was built and tried
out, and that behaves alike when it is only tried out, is judged alike: `exitCodes_agree`.
-/

namespace Formulary.CommandLine

/-- The exit code of what is asked for in a world. -/
def exitCode (e : Equipment) (request : Request) (w : World) : Nat :=
  (outcome (perform e request).transcript w).1.1

/-! ### Commands that work on a formula -/

/-- What is asked for in a world loads a formula of a mode, whose file is read as some content. -/
inductive Loads (content : Except Fault Bytes) (mode : Mode) : Request → World → Prop
  | cook {q : CookRequest} {w : World} (hcontent : w.files.read w.here q.formula = content)
    (hmode : q.variation.mode = mode) : Loads content mode (.cook q) w
  | resolve {q : ResolveRequest} {w : World} (hcontent : w.files.read w.here q.formula = content)
    (hmode : q.variation.mode = mode) : Loads content mode (.resolve q) w
  | fetch {q : FetchRequest} {w : World} (hcontent : w.files.read w.here q.formula = content)
    (hmode : q.mode = mode) : Loads content mode (.fetch q) w
  | test {q : TestRequest} {w : World} (hcontent : w.files.read w.here q.formula = content)
    (hmode : q.variation.mode = mode) : Loads content mode (.test q) w

/-- What is asked for in a world also resolves it, under a variation. -/
inductive Resolves (content : Except Fault Bytes) (v : Variation) : Request → World → Prop
  | cook {q : CookRequest} {w : World} (hcontent : w.files.read w.here q.formula = content)
    (hv : q.variation = v) : Resolves content v (.cook q) w
  | resolve {q : ResolveRequest} {w : World} (hcontent : w.files.read w.here q.formula = content)
    (hv : q.variation = v) : Resolves content v (.resolve q) w
  | test {q : TestRequest} {w : World} (hcontent : w.files.read w.here q.formula = content)
    (hv : q.variation = v) : Resolves content v (.test q) w

section Failing

variable {content : Except Fault Bytes} {w : World} {request : Request}

theorem loadedAndResolved_of_unloaded {v : Variation} {p root : Path} {failure : Failure}
    (h : Loaded.ofContent content v.mode = .error failure)
    (hcontent : w.files.read w.here p = content) :
    loadedAndResolved p root v w = .error (failure.exitCode .load) := by
  unfold loadedAndResolved
  rw [hcontent, h]

/-- **A formula that cannot be loaded ends every command with the same code.** -/
theorem exitCode_of_unloaded {mode : Mode} {failure : Failure}
    (h : Loaded.ofContent content mode = .error failure) (e : Equipment)
    (hloads : Loads content mode request w) : exitCode e request w = failure.exitCode .load := by
  unfold exitCode
  cases hloads with
  | cook hcontent hmode =>
    change (outcome (cook e _).transcript w).1.1 = _
    rw [exitCode_cook, hcontent, hmode, h]
  | resolve hcontent hmode =>
    subst hmode
    change (outcome (CommandLine.resolve _).transcript w).1.1 = _
    rw [exitCode_resolve, loadedAndResolved_of_unloaded h hcontent]
  | fetch hcontent hmode =>
    change (outcome (fetch e _).transcript w).1.1 = _
    rw [exitCode_fetch, hcontent, hmode, h]
  | test hcontent hmode =>
    subst hmode
    change (outcome (test e _).transcript w).1.1 = _
    rw [exitCode_test, loadedAndResolved_of_unloaded h hcontent]

variable {v : Variation} {l : Loaded} {c : Context} {failure : Failure}

/-- In what a formula cannot be resolved, and whether, it cannot anywhere with a commit just as
known. -/
theorem resolve_surroundings (hc : c.commit = v.commit)
    (h : Resolution.resolve l.formula l.descriptor c = .error failure) (root : Path) (w : World) :
    Resolution.resolve l.formula l.descriptor (surroundings root v w) = .error failure := by
  have hcommit : (surroundings root v w).commit.isSome = c.commit.isSome := by
    rw [hc]
    rfl
  rw [← failing_eq_error_iff] at h ⊢
  rw [Resolution.resolve_fails_alike _ _ hcommit, h]

theorem loadedAndResolved_of_unresolved {p : Path} (hl : Loaded.ofContent content v.mode = .ok l)
    (hc : c.commit = v.commit)
    (h : Resolution.resolve l.formula l.descriptor c = .error failure)
    (hcontent : w.files.read w.here p = content) (root : Path) :
    loadedAndResolved p root v w = .error (failure.exitCode .resolve) := by
  unfold loadedAndResolved
  rw [hcontent, hl]
  dsimp only
  rw [resolve_surroundings hc h]

/-- **A formula that cannot be resolved ends every command that resolves it with the same code.** -/
theorem exitCode_of_unresolved (hl : Loaded.ofContent content v.mode = .ok l)
    (hc : c.commit = v.commit)
    (h : Resolution.resolve l.formula l.descriptor c = .error failure) (e : Equipment)
    (hresolves : Resolves content v request w) (hgoing : ∀ n, w.stopRequested n = false) :
    exitCode e request w = failure.exitCode .resolve := by
  unfold exitCode
  cases hresolves with
  | cook hcontent hv =>
    subst hv
    change (outcome (cook e _).transcript w).1.1 = _
    rw [exitCode_cook, hcontent, hl]
    dsimp only [Report.exitCode]
    rw [Kitchen.cook_of_unresolved (hgoing _) (resolve_surroundings hc h _ w)]
    rfl
  | resolve hcontent hv =>
    subst hv
    change (outcome (CommandLine.resolve _).transcript w).1.1 = _
    rw [exitCode_resolve, loadedAndResolved_of_unresolved hl hc h hcontent]
  | test hcontent hv =>
    subst hv
    change (outcome (test e _).transcript w).1.1 = _
    rw [exitCode_test, loadedAndResolved_of_unresolved hl hc h hcontent]

end Failing

/-! ### Programs that are tried out twice -/

theorem verdictCode_eq (x : Except Failure Unit) :
    verdictCode x =
      match x.mapError Failure.reasonCode with
      | .ok _ => 0
      | .error reason => failureCode .verify reason := by
  cases x <;> rfl

theorem verdictCode_eq_zero_iff (x : Except Failure Unit) :
    verdictCode x = 0 ↔ x.mapError Failure.reasonCode = .ok () := by
  rw [verdictCode_eq]
  cases x with
  | ok _ => simp [Except.mapError]
  | error e => simp [Except.mapError, failureCode, Stage.index]

theorem outcomeWith_verify (k : Kitchen) (f : Formula) (r : Resolution) (s : Kitchen.Session)
    (w : World) : (outcomeWith (k.verify f r) s w).1 =
      ((attempted (Smoke.run k.launch r.artifact f.tests r.expectations k.settings.testTimeout)
        w).1 >>= SmokeReport.verdict) := by
  unfold Kitchen.verify
  rw [outcomeWith_bind, outcomeWith_lift, outcome_run]
  rcases attempted (Smoke.run k.launch r.artifact f.tests r.expectations k.settings.testTimeout) w
    with ⟨e | report, v⟩ <;> rfl

/-- At another time a formula whose expectations do not mention the time has the same program, of
which the same is expected. -/
theorem resolve_retried {f : Formula} {d : Descriptor} {c : Context} {r : Resolution}
    (hr : Resolution.resolve f d c = .ok r)
    (htimeless : ∀ t ∈ f.tests, "build_date" ∉ templateKeys t.expect) (date : Int) :
    ∃ r', Resolution.resolve f d (c.at date) = .ok r' ∧ r'.artifact = r.artifact ∧
      r'.expectations = r.expectations := by
  have hcommit : (c.at date).commit.isSome = c.commit.isSome := rfl
  have hfails := Resolution.resolve_fails_alike f d hcommit
  rw [hr] at hfails
  obtain ⟨r', hr', -⟩ := map_eq_ok.1 hfails
  obtain ⟨hexpectations, hroot, hartifact⟩ := Resolution.resolve_eq_ok hr
  obtain ⟨hexpectations', hroot', hartifact'⟩ := Resolution.resolve_eq_ok hr'
  refine ⟨r', hr', hartifact'.trans hartifact.symm, ?_⟩
  have hsame : (f.tests.mapM fun test => substitute test.expect
      (bindVariables d f.bindings (c.at date))) =
        f.tests.mapM fun test => substitute test.expect (bindVariables d f.bindings c) :=
    mapM_congr fun test htest =>
      substitute_of_agree (agreeOn_at (htimeless test htest) d f.bindings c date)
  rw [hexpectations, hexpectations'] at hsame
  exact Except.ok.inj hsame

/-- What a command tries out, each assertion with what it expects. -/
def assertions (l : Loaded) (r : Resolution) : List (Assertion × String) :=
  l.formula.tests.zip r.expectations

/-- A run of a command that cooks a formula comes to trying out its program, and another command is
asked to try it out in a world of its own: the installation is the same, and so are who acts and the
commit, and the program behaves alike. -/
structure Retried (e e' : Equipment) (content : Except Fault Bytes) (l : Loaded) (q : CookRequest)
    (q' : TestRequest) (w w' : World) (r : Resolution) (s : Kitchen.Session) (u : World) :
    Prop where
  loaded : Loaded.ofContent content q.variation.mode = .ok l
  read : w.files.read w.here q.formula = content
  read' : w'.files.read w'.here q'.formula = content
  going : ∀ n, w.stopRequested n = false
  going' : ∀ n, w'.stopRequested n = false
  variation : q'.variation = q.variation
  /-- Where it is installed and who acts is the same, though the time may be another. -/
  surroundings : ∃ date, surroundings q'.root q'.variation w' =
    (surroundings q.root q.variation w).at date
  timeout : q'.testTimeout = q.testTimeout
  timeless : ∀ t ∈ l.formula.tests, "build_date" ∉ templateKeys t.expect
  comes : Kitchen.Comes (cookKitchen e q w) l.formula l.descriptor
    (CommandLine.surroundings q.root q.variation w) w r .verify s u
  /-- The same is seen in each trial that a run comes to. -/
  shown : (Smoke.tried e.launch r.artifact (Kitchen.seconds q.testTimeout) (assertions l r)
      u.looked).map (Smoke.Trial.shown e.launch r.artifact (Kitchen.seconds q.testTimeout)) =
    (Smoke.tried e'.launch r.artifact (Kitchen.seconds q.testTimeout) (assertions l r) w').map
      (Smoke.Trial.shown e'.launch r.artifact (Kitchen.seconds q.testTimeout))

namespace Retried

variable {e e' : Equipment} {content : Except Fault Bytes} {l : Loaded} {q : CookRequest}
  {q' : TestRequest} {w w' : World} {r : Resolution} {s : Kitchen.Session} {u : World}

theorem going_verify (h : Retried e e' content l q q' w w' r s u) :
    ∀ n, u.stopRequested n = false := (Kitchen.Comes.abides h.comes).going h.going

theorem exitCode_cook (h : Retried e e' content l q q' w w' r s u) :
    exitCode e (.cook q) w = verdictCode ((attempted (Smoke.run e.launch r.artifact l.formula.tests
      r.expectations (Kitchen.seconds q.testTimeout)) u.looked).1 >>= SmokeReport.verdict) := by
  obtain ⟨hcode, -⟩ := Kitchen.cook_of_tried h.comes (h.going_verify _)
  change (outcome (cook e q).transcript w).1.1 = _
  rw [CommandLine.exitCode_cook, h.read, h.loaded]
  dsimp only
  rw [hcode, outcomeWith_verify]
  rfl

theorem exitCode_test (h : Retried e e' content l q q' w w' r s u) :
    exitCode e' (.test q') w' = verdictCode ((attempted (Smoke.run e'.launch r.artifact
      l.formula.tests r.expectations (Kitchen.seconds q.testTimeout)) w').1 >>=
        SmokeReport.verdict) := by
  obtain ⟨date, hsurroundings⟩ := h.surroundings
  obtain ⟨r', hr', hartifact, hexpectations⟩ := resolve_retried h.comes.resolved h.timeless date
  have hboth : loadedAndResolved q'.formula q'.root q'.variation w' = .ok (l, r') := by
    unfold loadedAndResolved
    rw [h.read', congrArg Variation.mode h.variation, h.loaded]
    dsimp only
    rw [hsurroundings, hr']
  change (outcome (test e' q').transcript w').1.1 = _
  rw [CommandLine.exitCode_test, hboth]
  dsimp only
  rw [hartifact, hexpectations, h.timeout]

/-- **A program that behaves alike is judged alike.** -/
theorem exitCode_eq (h : Retried e e' content l q q' w w' r s u) :
    exitCode e' (.test q') w' = exitCode e (.cook q) w := by
  rw [h.exitCode_cook, h.exitCode_test, verdictCode_eq, verdictCode_eq, Smoke.tallied_run,
    Smoke.tallied_run]
  have hsame := Smoke.tallied_of_shown e.launch r.artifact (Kitchen.seconds q.testTimeout)
    (w := u.looked) h.going_verify h.going' h.shown
  unfold assertions at hsame
  rw [hsame]

theorem exitCode_eq_zero_iff (h : Retried e e' content l q q' w w' r s u) :
    exitCode e (.cook q) w = 0 ↔
      ∀ t ∈ Smoke.trials e.launch r.artifact (Kitchen.seconds q.testTimeout) 0 (assertions l r)
        u.looked, t.Holds e.launch r.artifact (Kitchen.seconds q.testTimeout) := by
  rw [h.exitCode_cook, verdictCode_eq_zero_iff, Smoke.tallied_run]
  exact Smoke.tallied_eq_ok_iff_holds e.launch r.artifact (Kitchen.seconds q.testTimeout)
    (w := u.looked) h.going_verify (assertions l r)

end Retried

/-! ### All of them -/

/-- **The commands agree on exit codes.** Where a formula cannot be loaded, all commands that load it
end with the same code; where it cannot be resolved, all that resolve it do. Where a run tries out
its program, another command that finds it behaving alike ends as the run does, and that is with 0
just if every assertion holds. -/
theorem exitCodes_agree :
    (∀ content mode failure, Loaded.ofContent content mode = .error failure →
      ∀ e request w, Loads content mode request w →
        exitCode e request w = 10 + failure.reasonCode) ∧
    (∀ content (v : Variation) l c failure, Loaded.ofContent content v.mode = .ok l →
      c.commit = v.commit → Resolution.resolve l.formula l.descriptor c = .error failure →
      ∀ e request w, Resolves content v request w → (∀ n, w.stopRequested n = false) →
        exitCode e request w = 20 + failure.reasonCode) ∧
    ∀ e e' content l q q' w w' r s u, Retried e e' content l q q' w w' r s u →
      Stage.verify ∈ (outcome ((cookKitchen e q w).cook l.formula l.descriptor
        (surroundings q.root q.variation w)) w).1.stages.map StageRecord.stage ∧
      exitCode e' (.test q') w' = exitCode e (.cook q) w ∧
      (exitCode e (.cook q) w = 0 ↔
        ∀ t ∈ Smoke.trials e.launch r.artifact (Kitchen.seconds q.testTimeout) 0 (assertions l r)
          u.looked, t.Holds e.launch r.artifact (Kitchen.seconds q.testTimeout)) := by
  refine ⟨fun content mode failure h e request w hloads => exitCode_of_unloaded h e hloads,
    fun content v l c failure hl hc h e request w hresolves hgoing =>
      exitCode_of_unresolved hl hc h e hresolves hgoing,
    fun e e' content l q q' w w' r s u h => ⟨?_, h.exitCode_eq, h.exitCode_eq_zero_iff⟩⟩
  exact (Kitchen.cook_of_tried h.comes (h.going_verify _)).2

/-! ### A program that greets -/

/-- A machine on which everything that is started greets, and leaves a program that does. -/
def greeting : Equipment where
  launch := fun _ site => .ok
    (.instant 0 ⟨[104, 105], [], site.files.put ["p", "bin", "greet"] (.ofData [] true)⟩)

/-- A formula of a repository, with a flag and a test. -/
def greetingText (flag : String) : Bytes :=
  Text.encode ("package.name = \"greet\"\nsource.vcs = \"https://example.org/greet.git\"\n" ++
    "build.target = \".\"\nbuild.flags = [\"" ++ flag ++ "\"]\n[[test]]\nexpect = \"hi\"")

/-- A world, begun at some time, with a file of that formula. -/
def greetingShelf (flag : String) (epoch : Int) : World where
  files := { entries := [(["tmp"], .directory), (["greet.toml"], .ofData (greetingText flag) false)] }
  epoch := epoch

def greetingCook : CookRequest where
  formula := "/greet.toml"
  root := "/p"
  variation := { mode := .head }
  sourceCache := none
  timeout := 60
  testTimeout := 60
  allowUnverified := false
  keepBuildDir := false
  json := false

def greetingTest : TestRequest where
  formula := "/greet.toml"
  root := "/p"
  variation := { mode := .head }
  testTimeout := 60
  json := false

/-- The commands end alike without a formula, with one that cannot be resolved, and with one whose
program greets as it should, whenever it is tried out. -/
theorem exitCodes_of_greeting_agree :
    (exitCode greeting (.cook greetingCook) { files := {} } = 19 ∧
      exitCode greeting (.test greetingTest) { files := {} } = 19) ∧
    (exitCode greeting (.cook greetingCook) (greetingShelf "%(nope)s" 0) = 22 ∧
      exitCode greeting (.test greetingTest) (greetingShelf "%(nope)s" 7) = 22) ∧
    exitCode greeting (.cook greetingCook) (greetingShelf "-v" 0) = 0 ∧
      exitCode greeting (.test greetingTest) (greetingShelf "-v" 7) =
        exitCode greeting (.cook greetingCook) (greetingShelf "-v" 0) := by
  refine ⟨?_, ?_, ?_⟩
  · have hunloaded := exitCodes_agree.1 (.error .noEntry) .head (Formula.fileFailure .noEntry) rfl
      greeting
    exact ⟨hunloaded (.cook greetingCook) { files := {} } (.cook (by decide +kernel) rfl),
      hunloaded (.test greetingTest) { files := {} } (.test (by decide +kernel) rfl)⟩
  · have hloaded : (Loaded.ofContent (.ok (greetingText "%(nope)s")) .head).map (fun l =>
        (Resolution.resolve l.formula l.descriptor .first).map fun _ => ()) =
          .ok (.error (.unresolvedVariable "nope" "%(nope)s")) := by decide +kernel
    obtain ⟨l, hl, hr⟩ := map_eq_ok.1 hloaded
    have hunresolved := exitCodes_agree.2.1 _ { mode := .head } l .first _ hl rfl
      (map_eq_error.1 hr) greeting
    exact ⟨hunresolved (.cook greetingCook) (greetingShelf "%(nope)s" 0)
        (.cook (by decide +kernel) rfl) fun _ => rfl,
      hunresolved (.test greetingTest) (greetingShelf "%(nope)s" 7)
        (.test (by decide +kernel) rfl) fun _ => rfl⟩
  · let w := greetingShelf "-v" 0
    let k := cookKitchen greeting greetingCook w
    let c := surroundings greetingCook.root greetingCook.variation w
    let built (l : Loaded) (r : Resolution) :=
      outcomeWith (k.build l.formula l.descriptor r) {} w.looked.looked
    let completed (l : Loaded) (r : Resolution) :=
      outcomeWith (k.postInstall l.formula r) (built l r).2.1 (built l r).2.2.looked
    let shown (l : Loaded) (r : Resolution) (u : World) :=
      (Smoke.tried greeting.launch r.artifact 60000 (assertions l r) u).map
        (Smoke.Trial.shown greeting.launch r.artifact 60000)
    have hmade : (Loaded.ofContent (.ok (greetingText "-v")) .head).map (fun l =>
        (Resolution.resolve l.formula l.descriptor c).map fun r => decide (
          (∀ t ∈ l.formula.tests, "build_date" ∉ templateKeys t.expect) ∧
          (built l r).1 = .ok r.artifact ∧ (completed l r).1 = .ok () ∧
          shown l r (completed l r).2.2.looked = shown l r (greetingShelf "-v" 7) ∧
          shown l r (greetingShelf "-v" 7) ≠ [])) = .ok (.ok true) := by decide +kernel
    obtain ⟨l, hl, hresolved⟩ := map_eq_ok.1 hmade
    obtain ⟨r, hr, hdone⟩ := map_eq_ok.1 hresolved
    obtain ⟨htimeless, hbuilt, hcompleted, hshown, -⟩ := of_decide_eq_true hdone
    have hcomes : Kitchen.Comes k l.formula l.descriptor c w r .postInstall (built l r).2.1
        (built l r).2.2 :=
      .postInstall (.build rfl hr) ⟨rfl, Prod.ext hbuilt rfl⟩
    have hretried : Retried greeting greeting (.ok (greetingText "-v")) l greetingCook greetingTest
        w (greetingShelf "-v" 7) r (completed l r).2.1 (completed l r).2.2 := {
      loaded := hl
      read := by decide +kernel
      read' := by decide +kernel
      going := fun _ => rfl
      going' := fun _ => rfl
      variation := rfl
      surroundings := ⟨7, by decide +kernel⟩
      timeout := rfl
      timeless := htimeless
      comes := .verify hcomes
        ⟨(Kitchen.Comes.abides hcomes).going (fun _ => rfl) _, Prod.ext hcompleted rfl⟩
      shown := hshown }
    have hagree := (exitCodes_agree.2.2 _ _ _ _ _ _ _ _ _ _ _ hretried).2.1
    exact ⟨by decide +kernel, hagree⟩

end Formulary.CommandLine
