import Formulary.Proofs.Install.Landing
import Formulary.Proofs.Kitchen.Artifact

/-!
# The calls of a run

Besides acting on files a run makes calls: it asks the fetcher for the source, and has the toolchain
started, the programs of completion steps and those of assertions. `Traced` actions tell which calls
they make, wherever they start. The parts of a run are written here once more with them. They are
given no fetcher and no launcher, but only `Outside`, through which each call leaves its trace, so
none can be made without one.

But for the traces these are the parts a run consists of: `action_cook`.
-/

namespace Formulary

/-! ### Calls -/

/-- What a call is for. -/
inductive Purpose where
  | source
  | toolchain
  | script (c : Completions) (shell : Shell)
  /-- Trying the assertion at a position. -/
  | assertion (position : Nat)
  deriving DecidableEq

/-- A call, with what came back and the world after it. -/
inductive Call where
  | source (answer : Except Failure Path) (after : World)
  | toolchain (answer : Except Fault Output) (after : World)
  | script (c : Completions) (shell : Shell) (answer : Except Fault Output) (after : World)
  | assertion (position : Nat) (answer : Except Fault Output) (after : World)

namespace Call

/-- What it was for. -/
def purpose : Call → Purpose
  | source _ _ => .source
  | toolchain _ _ => .toolchain
  | script c shell _ _ => .script c shell
  | assertion position _ _ => .assertion position

/-- What came back lets a run go on that builds a program at a place. The toolchain must have ended
well and left the program; a program that is asked for a script must have ended well with one;
after an assertion a run goes on however it came out, unless it was stopped. -/
def LetsOn (artifact : Path) : Call → Prop
  | source answer _ => ∃ dir, answer = .ok dir
  | toolchain answer after => ∃ o, answer = .ok o ∧ o.outcome = .exited (.exited 0) ∧
      (outcome (Disk.isFile artifact) after).1 = true
  | script _ _ answer _ => ∃ o, answer = .ok o ∧ o.outcome = .exited (.exited 0) ∧
      Text.blankText o.stdout = false
  | assertion _ answer _ => ∀ o, answer = .ok o → o.outcome ≠ .cancelled

end Call

/-! ### Actions with traces -/

/-- An action, with the calls it makes from a world on. -/
structure Traced (α : Type) where
  action : Act α
  calls : World → List Call

namespace Traced

variable {α β : Type}

instance : Monad Traced where
  pure a := ⟨pure a, fun _ => []⟩
  bind x f := ⟨x.action >>= fun a => (f a).action, fun w =>
    x.calls w ++ (f (outcome x.action w).1).calls (outcome x.action w).2⟩

/-- An action that makes no call. -/
instance : MonadLift Act Traced where
  monadLift x := ⟨x, fun _ => []⟩

/-- An action that is a call. -/
def call (note : α → World → Call) (x : Act α) : Traced α where
  action := x
  calls w := [note (outcome x w).1 (outcome x w).2]

theorem action_bind (x : Traced α) (f : α → Traced β) :
    (x >>= f).action = x.action >>= fun a => (f a).action := rfl

theorem calls_bind (x : Traced α) (f : α → Traced β) (w : World) : (x >>= f).calls w =
    x.calls w ++ (f (outcome x.action w).1).calls (outcome x.action w).2 := rfl

end Traced

abbrev TracedAttempt := ExceptT Failure Traced

abbrev TracedCooking := StateT Kitchen.Session Traced

def Attempt.silent {α : Type} (x : Attempt α) : TracedAttempt α := ExceptT.mk (x.run : Act _)

/-! ### A run with traces -/

/-- What a run can call. A launch is noted in the way that is given. -/
structure Outside where
  fetch : SourceRef → Path → Millis → Traced (Except Failure Path)
  launch : (Except Fault Output → World → Call) → Command → Millis → Traced (Except Fault Output)

namespace Outside

variable (o : Outside)

def generate (s : Install.Setting) (c : Completions) (shell : Shell) : TracedAttempt String := do
  let answer ← (o.launch (.script c shell) (s.request c shell) s.timeout : Traced _)
  match answer with
  | .error e => throw (Install.unlaunchable c (s.programOf c) e)
  | .ok output =>
    match output.outcome with
    | .cancelled => throw (.cancelled ("post-install " ++ (Step.completions c).name))
    | .timedOut => throw (Install.unsupported c shell)
    | .exited status =>
      if !status.success || Text.blankText output.stdout then throw (Install.unsupported c shell)
      else return output.stdout

def scripts (s : Install.Setting) (c : Completions) :
    List Shell → TracedAttempt (List (Path × String))
  | [] => return []
  | shell :: rest => do
    let script ← o.generate s c shell
    return (shell.completionPath s.root (s.baseOf c), script) :: (← scripts s c rest)

def perform (s : Install.Setting) (step : Step) (written : List Path) :
    Traced (List Path × Except Failure Unit) := do
  match step with
  | .completions c =>
    match ← (o.scripts s c c.shells).run with
    | .error e => return (written, .error e)
    | .ok list => Install.writeScripts list written

def performAll (s : Install.Setting) :
    List Step → List Path → Traced (List Path × Except Failure Unit)
  | [], written => return (written, .ok ())
  | step :: rest, written => do
    match ← o.perform s step written with
    | (written, .ok _) => performAll s rest written
    | failed => return failed

def tryOne (program : Path) (position : Nat) (a : Assertion) (expected : String)
    (timeout : Millis) : TracedAttempt AssertionResult := do
  let id := Smoke.idOf a position
  let scratch ← Attempt.silent (Attempt.io (Disk.makeTemporary ".tmp"))
  let answer ← (o.launch (.assertion position) (Smoke.commandOf program a scratch) timeout :
    Traced _)
  let _ ← (Disk.removeTree scratch : Act _)
  match answer with
  | .error e => return .fail id a.args none (.assertionLaunch id program.text e.message)
  | .ok output =>
    if output.outcome = .cancelled then throw (.cancelled ("verify " ++ id))
    else return Smoke.judge id a expected timeout output

def tryFrom (program : Path) (timeout : Millis) :
    (position : Nat) → List (Assertion × String) → TracedAttempt (List AssertionResult)
  | _, [] => return []
  | position, (a, expected) :: rest => do
    let result ← o.tryOne program position a expected timeout
    return result :: (← tryFrom program timeout (position + 1) rest)

def tryAll (program : Path) (assertions : List Assertion) (expectations : List String)
    (timeout : Millis) : TracedAttempt SmokeReport := do
  return ⟨← o.tryFrom program timeout 0 (assertions.zip expectations)⟩

def compile (k : Kitchen) (f : Formula) (r : Resolution) (sourceDir : Path) :
    TracedAttempt Path := do
  Attempt.silent (Kitchen.makeBinDir r)
  let i := Invocation.ofBuild f.build r
  let answer ← (o.launch .toolchain (Kitchen.toolchain f r sourceDir) k.settings.timeout : Traced _)
  match answer with
  | .error e => throw (Kitchen.launchFailure i.program e)
  | .ok output =>
    match Kitchen.toolchainFailure? i.program k.settings.timeout output with
    | some e => throw e
    | none =>
      if ← (Disk.isFile r.artifact : Act _) then return r.artifact
      else throw (Kitchen.missingArtifact i.program r.artifact output)

def fetchAndCompile (k : Kitchen) (f : Formula) (d : Descriptor) (r : Resolution) (dir : Path) :
    TracedAttempt Path := do
  let sourceDir ← ExceptT.mk (o.fetch d.source dir k.settings.timeout)
  o.compile k f r sourceDir

def build (k : Kitchen) (f : Formula) (d : Descriptor) (r : Resolution) :
    TracedCooking (Except Failure Path) := do
  match ← ((k.enterBuild d).run : Act _) with
  | .error e => return .error e
  | .ok dir =>
    modify fun s => { s with buildDir := some dir }
    (o.fetchAndCompile k f d r dir).run

def postInstall (k : Kitchen) (f : Formula) (r : Resolution) :
    TracedCooking (Except Failure Unit) := do
  let setting : Install.Setting := {
    launch := k.launch, root := r.root, binary := f.binaryName
    timeout := k.settings.testTimeout }
  let (installed, result) ← o.performAll setting f.postInstall []
  modify fun s => { s with installed }
  return result

def verify (k : Kitchen) (f : Formula) (r : Resolution) : TracedCooking (Except Failure Unit) := do
  match ← (o.tryAll r.artifact f.tests r.expectations k.settings.testTimeout).run with
  | .error e => return .error e
  | .ok report =>
    modify fun s => { s with smoke := some report }
    return report.verdict

def watch : Watch TracedCooking where
  cancelled := ((Act.stopRequested : Act _) : Traced _)
  now := ((Act.clock : Act _) : Traced _)

def conclude (k : Kitchen) (f : Formula) (r : Resolution) (a : Path) (p : Pipeline) :
    TracedCooking Kitchen.Course := do
  let (_, p) ← p.run watch .verify (o.verify k f r)
  return { pipeline := p, resolution := some r, artifact := some a }

def stages (k : Kitchen) (f : Formula) (d : Descriptor) (c : Context) :
    TracedCooking Kitchen.Course := do
  let (resolution, p) ← Pipeline.run watch {} .resolve (pure (Resolution.resolve f d c))
  match resolution with
  | none => return { pipeline := p }
  | some r =>
    let (artifact, p) ← p.run watch .build (o.build k f d r)
    match artifact with
    | none => return { pipeline := p, resolution := some r }
    | some a =>
      let (completed, p) ← p.run watch .postInstall (o.postInstall k f r)
      match completed with
      | none => return { pipeline := p, resolution := some r, artifact := some a }
      | some () => o.conclude k f r a p

def cook (k : Kitchen) (f : Formula) (d : Descriptor) (c : Context) : Traced Report := do
  let (course, session) ← (o.stages k f d c).run {}
  (k.cleanUp session : Act _)
  return Kitchen.reportOf d course session

end Outside

namespace Kitchen

/-- Everything a kitchen can call. -/
def outside (k : Kitchen) : Outside where
  fetch source dir timeout := .call .source (k.fetcher source dir timeout).run
  launch note c timeout := .call note (supervise k.launch c timeout)

/-- A kitchen with the same settings, in which no program can be started and no source fetched. -/
def still (k : Kitchen) : Kitchen where
  settings := k.settings
  launch := fun _ _ => .error .noEntry
  fetcher := fun _ _ _ => throw (.downloadFailed "")

/-- A run of a kitchen, which makes its calls through `outside` and no others. -/
def traced (k : Kitchen) (f : Formula) (d : Descriptor) (c : Context) : Traced Report :=
  k.outside.cook k.still f d c

end Kitchen

/-! ### The traces are all that has changed -/

theorem Attempt.orFail_bind {α β : Type} (x : Act (Except Fault α)) (failure : Fault → Failure)
    (f : α → Attempt β) :
    Attempt.orFail x failure >>= f = (liftM x >>= fun answer : Except Fault α =>
      match answer with
      | .ok a => f a
      | .error e => throw (failure e)) := by
  rw [Attempt.orFail, bind_assoc]
  refine congrArg _ (funext fun answer => ?_)
  cases answer <;> rfl

namespace Traced

variable {α β : Type}

def plain (x : TracedAttempt α) : Attempt α := ExceptT.mk x.run.action

@[simp] theorem plain_silent (x : Attempt α) : plain x.silent = x := rfl

@[simp] theorem plain_lift (x : Traced α) :
    plain (liftM x : TracedAttempt α) = (liftM x.action : Attempt α) := rfl

@[simp] theorem plain_lift_act (x : Act α) :
    plain (liftM x : TracedAttempt α) = (liftM x : Attempt α) := rfl

@[simp] theorem plain_bind (x : TracedAttempt α) (f : α → TracedAttempt β) :
    plain (x >>= f) = plain x >>= fun a => plain (f a) := by
  have hrest : ∀ r : Except Failure α, (ExceptT.bindCont f r).action =
      ExceptT.bindCont (fun a => plain (f a)) r := by
    intro r
    cases r <;> rfl
  change ExceptT.mk (x.run.action >>= fun r => (ExceptT.bindCont f r).action) = _
  rw [funext hrest]
  rfl

def plainly (x : TracedCooking α) : Kitchen.Cooking α := fun s => (x.run s).action

theorem plainly_bind (x : TracedCooking α) (f : α → TracedCooking β) :
    plainly (x >>= f) = plainly x >>= fun a => plainly (f a) := rfl

end Traced

namespace Kitchen

open Traced

variable (k : Kitchen)

section Parts

variable (s : Install.Setting)

theorem plain_generate (c : Completions) (shell : Shell) :
    plain (k.outside.generate s c shell) =
      Install.generate { s with launch := k.launch } c shell := by
  rw [Install.generate, Attempt.orFail_bind, Outside.generate, plain_bind]
  refine congrArg _ (funext fun answer => ?_)
  rcases answer with e | output
  · rfl
  · obtain ⟨ending, stdout, stderr⟩ := output
    cases ending with
    | cancelled => rfl
    | timedOut => rfl
    | exited status =>
      dsimp only
      split <;> rfl

theorem plain_scripts (c : Completions) (shells : List Shell) :
    plain (k.outside.scripts s c shells) = shells.mapM fun shell => do
      return (shell.completionPath s.root (s.baseOf c),
        ← Install.generate { s with launch := k.launch } c shell) := by
  induction shells with
  | nil => rfl
  | cons shell rest ih =>
    rw [List.mapM_cons, Outside.scripts, plain_bind, plain_generate, bind_assoc]
    refine congrArg _ (funext fun script => ?_)
    rw [pure_bind, plain_bind, ih]
    rfl

theorem action_perform (step : Step) (written : List Path) :
    (k.outside.perform s step written).action =
      Install.perform { s with launch := k.launch } step written := by
  obtain ⟨c⟩ := step
  have hscripts : (k.outside.scripts s c c.shells).run.action =
      (Install.scripts { s with launch := k.launch } c).run :=
    plain_scripts k s c c.shells
  rw [Outside.perform, action_bind, hscripts]
  refine congrArg _ (funext fun r => ?_)
  cases r <;> rfl

theorem action_performAll (steps : List Step) (written : List Path) :
    (k.outside.performAll s steps written).action =
      Install.performAll { s with launch := k.launch } steps written := by
  induction steps generalizing written with
  | nil => rfl
  | cons step rest ih =>
    rw [Outside.performAll, Install.performAll, action_bind, action_perform]
    refine congrArg _ (funext fun r => ?_)
    obtain ⟨written', e | done⟩ := r
    · rfl
    · exact ih written'

end Parts

theorem plain_tryOne (program : Path) (position : Nat) (a : Assertion) (expected : String)
    (timeout : Millis) :
    plain (k.outside.tryOne program position a expected timeout) =
      Smoke.tryOne k.launch program (Smoke.idOf a position) a expected timeout := by
  rw [Outside.tryOne, Smoke.tryOne, plain_bind, plain_silent]
  refine bind_congr fun scratch => ?_
  rw [plain_bind, plain_lift]
  refine bind_congr fun answer => ?_
  rw [plain_bind, plain_lift_act]
  refine bind_congr fun _ => ?_
  rcases answer with e | output
  · rfl
  · dsimp only
    split <;> rfl

theorem plain_tryFrom (program : Path) (timeout : Millis) (position : Nat)
    (l : List (Assertion × String)) :
    plain (k.outside.tryFrom program timeout position l) =
      Smoke.tryFrom k.launch program timeout position l := by
  induction l generalizing position with
  | nil => rfl
  | cons entry rest ih =>
    obtain ⟨a, expected⟩ := entry
    rw [Outside.tryFrom, Smoke.tryFrom, plain_bind, plain_tryOne]
    refine congrArg _ (funext fun result => ?_)
    rw [plain_bind, ih]
    rfl

theorem plain_tryAll (program : Path) (assertions : List Assertion) (expectations : List String)
    (timeout : Millis) :
    plain (k.outside.tryAll program assertions expectations timeout) =
      Smoke.run k.launch program assertions expectations timeout := by
  rw [Outside.tryAll, Smoke.run, plain_bind, plain_tryFrom]
  rfl

theorem plain_compile (f : Formula) (r : Resolution) (dir : Path) :
    plain (k.outside.compile k.still f r dir) = k.compile f r dir := by
  rw [Outside.compile, compile_eq, plain_bind, plain_silent]
  refine bind_congr fun _ => ?_
  rw [compileInto]
  dsimp only
  rw [plain_bind, plain_lift, Attempt.orFail_bind]
  refine bind_congr fun answer => ?_
  rcases answer with e | output
  · rfl
  · have hsettings : k.still.settings = k.settings := rfl
    dsimp only
    rw [hsettings]
    cases toolchainFailure? (Invocation.ofBuild f.build r).program k.settings.timeout output with
    | some e => rfl
    | none =>
      dsimp only
      rw [plain_bind, plain_lift_act]
      refine bind_congr fun there => ?_
      split <;> rfl

theorem plain_fetchAndCompile (f : Formula) (d : Descriptor) (r : Resolution) (dir : Path) :
    plain (k.outside.fetchAndCompile k.still f d r dir) = k.fetchAndCompile f d r dir := by
  rw [Outside.fetchAndCompile, plain_bind, fetchAndCompile]
  refine congrArg _ (funext fun sourceDir => ?_)
  rw [plain_compile]

theorem plainly_build (f : Formula) (d : Descriptor) (r : Resolution) :
    plainly (k.outside.build k.still f d r) = k.build f d r := by
  rw [Outside.build, build, plainly_bind]
  refine congrArg _ (funext fun entered => ?_)
  rcases entered with e | dir
  · rfl
  · dsimp only
    rw [plainly_bind]
    refine congrArg _ (funext fun _ => ?_)
    rw [← plain_fetchAndCompile]
    rfl

theorem plainly_postInstall (f : Formula) (r : Resolution) :
    plainly (k.outside.postInstall k.still f r) = k.postInstall f r := by
  rw [Outside.postInstall, postInstall]
  dsimp only
  rw [plainly_bind]
  have hsteps := k.action_performAll {
    launch := k.still.launch, root := r.root, binary := f.binaryName
    timeout := k.settings.testTimeout } f.postInstall []
  rw [Install.run, ← hsteps]
  rfl

theorem plainly_verify (f : Formula) (r : Resolution) :
    plainly (k.outside.verify k.still f r) = k.verify f r := by
  have htry : (k.outside.tryAll r.artifact f.tests r.expectations
        k.settings.testTimeout).run.action =
      (Smoke.run k.launch r.artifact f.tests r.expectations k.settings.testTimeout).run :=
    k.plain_tryAll r.artifact f.tests r.expectations k.settings.testTimeout
  rw [Outside.verify, verify, ← htry, plainly_bind]
  refine bind_congr fun tried => ?_
  cases tried <;> rfl

theorem plainly_run {α : Type} (p : Pipeline) (stage : Stage)
    (action : TracedCooking (Except Failure α)) :
    plainly (p.run Outside.watch stage action) = p.run watch stage (plainly action) := by
  unfold Pipeline.run
  split
  · rfl
  · rw [plainly_bind]
    refine bind_congr fun stop => ?_
    split <;> rfl

theorem plainly_stages (f : Formula) (d : Descriptor) (c : Context) :
    plainly (k.outside.stages k.still f d c) = k.stages f d c := by
  rw [Outside.stages, stages, plainly_bind, plainly_run]
  refine bind_congr fun resolved => ?_
  obtain ⟨_ | r, p⟩ := resolved
  · rfl
  dsimp only
  rw [plainly_bind, plainly_run, plainly_build]
  refine bind_congr fun built => ?_
  obtain ⟨_ | a, p⟩ := built
  · rfl
  dsimp only
  rw [plainly_bind, plainly_run, plainly_postInstall]
  refine bind_congr fun completed => ?_
  obtain ⟨_ | _, p⟩ := completed
  · rfl
  dsimp only
  rw [Outside.conclude, plainly_bind, plainly_run, plainly_verify]
  rfl

/-- **But for the traces it is the same run.** -/
theorem action_cook (f : Formula) (d : Descriptor) (c : Context) :
    (k.traced f d c).action = k.cook f d c := by
  rw [cook, ← plainly_stages]
  rfl

end Kitchen

end Formulary
