import Formulary.Fetch.Source
import Formulary.Install.Completions
import Formulary.Invocation
import Formulary.Kitchen.Settings
import Formulary.Machine.Lookup
import Formulary.Report
import Formulary.Smoke.Run

/-!
# Cooking

One formula through all stages of a run: resolved, fetched and built, completed after the
installation, tried out. Whatever happens, the outcome is a report, and the temporary directory of
the build is given up at the end.
-/

namespace Formulary

/-- What builds are made with. -/
structure Kitchen where
  settings : Kitchen.Settings
  launch : Launcher
  fetcher : Fetcher

namespace Kitchen

/-- A kitchen that fetches in the usual way. -/
def standard (settings : Settings) (launch : Launcher) : Kitchen where
  settings := settings
  launch := launch
  fetcher := Fetch.standard launch settings.sourceCache

/-! ### Gates before a build -/

/-- All programs a build needs must be found. -/
def checkDependencies (names : List String) : Act (Except Failure Unit) := do
  let w ← get
  match names.find? fun name => (Lookup.which? w.files w.here w.env name).isNone with
  | some name => return .error (.missingBuildDependency name)
  | none => return .ok ()

/-! ### One run -/

/-- What a run keeps besides its stages. -/
structure Session where
  /-- The temporary directory of the build. -/
  buildDir : Option Path := none
  /-- The files written after the installation. -/
  installed : List Path := []
  smoke : Option SmokeReport := none

/-- A step of a run. -/
abbrev Cooking := StateT Session Act

def watch : Watch Cooking where
  cancelled := (Act.stopRequested : Act _)
  now := (Act.clock : Act _)

/-- The failure of a toolchain that did not do its work, if it did not. -/
def toolchainFailure? (program : String) (timeout : Millis) (o : Output) : Option Failure :=
  match o.outcome with
  | .cancelled => some (.cancelled "build")
  | .timedOut => some (.buildFailed
      (program ++ " timed out after " ++ toString (timeout / 1000) ++ " seconds") none o.combined)
  | .exited status =>
    if status.success then none
    else some (.buildFailed (program ++ " exited with " ++ status.display) status.code? o.combined)

/-- The failure of a toolchain that cannot be started. -/
def launchFailure (program : String) (e : Fault) : Failure :=
  .buildFailed ("failed to launch " ++ program ++ ": " ++ e.message) none ""

def missingArtifact (program : String) (artifact : Path) (o : Output) : Failure :=
  .buildFailed
    (program ++ " reported success but " ++ artifact.text ++ " does not exist") (some 0) o.combined

def makeBuildDir : Attempt Path :=
  Attempt.orFail (Disk.makeTemporary "kettle-build-") fun e =>
    .io ("Failed to create build directory: " ++ e.message)

/-- Runs the toolchain in the source's directory. The program must be there afterwards. -/
def compile (k : Kitchen) (f : Formula) (r : Resolution) (sourceDir : Path) : Attempt Path := do
  match r.artifact.parent? with
  | some parent => Attempt.io (Disk.makeAll parent)
  | none => pure ()
  let i := Invocation.ofBuild f.build r
  let output ← Attempt.orFail
    (supervise k.launch
      { program := i.program, args := i.args, env := i.env, dir := some sourceDir }
      k.settings.timeout)
    (launchFailure i.program)
  match toolchainFailure? i.program k.settings.timeout output with
  | some e => throw e
  | none =>
    if ← Disk.isFile r.artifact then return r.artifact
    else throw (missingArtifact i.program r.artifact output)

/-- The gates of a build, up to its temporary directory. -/
def enterBuild (k : Kitchen) (d : Descriptor) : Attempt Path := do
  ExceptT.mk (checkDependencies d.buildDependencies)
  ExceptT.mk (pure (k.settings.checkSource d))
  makeBuildDir

/-- Fetches the source into the temporary directory and builds it. -/
def fetchAndCompile (k : Kitchen) (f : Formula) (d : Descriptor) (r : Resolution) (dir : Path) :
    Attempt Path := do
  let sourceDir ← k.fetcher d.source dir k.settings.timeout
  k.compile f r sourceDir

/-- The build stage. -/
def build (k : Kitchen) (f : Formula) (d : Descriptor) (r : Resolution) :
    Cooking (Except Failure Path) := do
  match ← (k.enterBuild d).run with
  | .error e => return .error e
  | .ok dir =>
    modify fun s => { s with buildDir := some dir }
    (k.fetchAndCompile f d r dir).run

/-- The stage after the installation. -/
def postInstall (k : Kitchen) (f : Formula) (r : Resolution) : Cooking (Except Failure Unit) := do
  let setting : Install.Setting := {
    launch := k.launch, root := r.root, binary := f.binaryName
    timeout := k.settings.testTimeout }
  let (installed, result) ← Install.run setting f.postInstall
  modify fun s => { s with installed }
  return result

/-- The stage that tries out the result. -/
def verify (k : Kitchen) (f : Formula) (r : Resolution) : Cooking (Except Failure Unit) := do
  match ← (Smoke.run k.launch r.artifact f.tests r.expectations k.settings.testTimeout).run with
  | .error e => return .error e
  | .ok report =>
    modify fun s => { s with smoke := some report }
    return report.verdict

/-- What the stages of a run come to. -/
structure Course where
  pipeline : Pipeline
  resolution : Option Resolution := none
  artifact : Option Path := none

/-- All stages of a run, each only if the one before it succeeded. -/
def stages (k : Kitchen) (f : Formula) (d : Descriptor) (c : Context) : Cooking Course := do
  let (resolution, p) ← Pipeline.run watch {} .resolve (pure (Resolution.resolve f d c))
  match resolution with
  | none => return { pipeline := p }
  | some r =>
    let (artifact, p) ← p.run watch .build (k.build f d r)
    match artifact with
    | none => return { pipeline := p, resolution := some r }
    | some a =>
      let (completed, p) ← p.run watch .postInstall (k.postInstall f r)
      match completed with
      | none => return { pipeline := p, resolution := some r, artifact := some a }
      | some () =>
        let (_, p) ← p.run watch .verify (k.verify f r)
        return { pipeline := p, resolution := some r, artifact := some a }

/-- Gives up the temporary directory of the build, unless it is to stay. -/
def cleanUp (k : Kitchen) (s : Session) : Act Unit := do
  match s.buildDir with
  | some dir => if !k.settings.keepBuildDir then let _ ← Disk.removeTree dir
  | none => return ()

def reportOf (d : Descriptor) (course : Course) (s : Session) : Report where
  package := d.name
  version := d.version
  mode := some d.mode
  state := course.pipeline.state
  stages := course.pipeline.records
  flags := (course.resolution.map Resolution.flags).getD []
  artifact := course.artifact
  installed := s.installed
  smoke := s.smoke
  output := course.pipeline.failure.bind Failure.capturedOutput
  failure := course.pipeline.failure

/-- Cooks a formula. -/
def cook (k : Kitchen) (f : Formula) (d : Descriptor) (c : Context) : Act Report := do
  let (course, session) ← (k.stages f d c).run {}
  k.cleanUp session
  return reportOf d course session

/-- Fetches a source without building it. -/
def fetch (k : Kitchen) (d : Descriptor) (target : Path) : Attempt Path := do
  ExceptT.mk (pure (k.settings.checkSource d))
  k.fetcher d.source target k.settings.timeout

end Kitchen

end Formulary
