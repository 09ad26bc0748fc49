import Formulary.CommandLine.Help
import Formulary.CommandLine.Presentation
import Formulary.CommandLine.Transcript
import Formulary.Kitchen.Cook

/-!
# The commands

What the program does when it is asked to, and the exit code it ends with.
-/

namespace Formulary.CommandLine

/-- What keeps a command from its work, other than a stage that fails. -/
inductive Hindrance where
  /-- The directory to fetch into cannot be made. -/
  | noTarget (target : Path)
  /-- No temporary directory can be made. -/
  | noTemporary
  deriving DecidableEq

namespace Hindrance

def message : Hindrance → String
  | noTarget target => "Failed to create directory: " ++ target.text
  | noTemporary => "Failed to create fetch directory"

end Hindrance

/-- What the commands work with. -/
structure Equipment where
  launch : Launcher
  /-- How the program got to where it was hindered, if that is known. -/
  callTrace : Hindrance → Option String := fun _ => none

/-! ### What commands share -/

def contextFor (root : Path) (v : Variation) : Act Context := do
  let w ← get
  let c := Context.make w.cwd w.env w.now root
  return { c with
    tapUser := v.tapUser.getD c.tapUser
    commit := v.commit }

/-- What a package is called before its formula is loaded: the file's name without its ending. -/
def packageHint (p : Path) : String := p.fileStem?.getD p.text

def showReport (r : Report) (json : Bool) : Work Unit := do
  if json then Work.say (Json.pretty r.toValue)
  else
    Work.sayAll (courseLines r)
    if r.verified then Work.say (completionLine r)
    else (failureLines r).forM Work.complain

/-- Settings with what was asked for. -/
def settingsFor (sourceCache : Option Path) (timeout : Nat) (allowUnverified : Bool) :
    Act Kitchen.Settings := do
  let s := Kitchen.Settings.standard (← get).env
  return { s with
    sourceCache := sourceCache.getD s.sourceCache
    timeout := Kitchen.seconds timeout
    allowUnverified }

def fail {α : Type} (e : Equipment) (what : Hindrance) (cause : Fault) : Work α := do
  let trace := match e.callTrace what with
    | some trace => "\n\nStack backtrace:\n" ++ trace
    | none => ""
  Work.complain ("Error: " ++ what.message ++ "\n\nCaused by:\n    " ++ cause.message ++ trace)
  throw 1

/-- An action on files that a command cannot do without. -/
def orFail {α : Type} (e : Equipment) (what : Hindrance) (action : Act (Except Fault α)) :
    Work α := do
  match ← (action : Act (Except Fault α)) with
  | .ok a => return a
  | .error cause => fail e what cause

/-! ### Cooking -/

def cookLoaded (e : Equipment) (q : CookRequest) (l : Loaded) : Work Nat := do
  if !q.json then
    Work.sayAll (l.warnings.map warningLine)
    if q.allowUnverified then Work.say "[WARNING] Unverified source checksums are accepted"
    Work.say ("Cooking " ++ describe l.descriptor ++ "...")
  let s ← settingsFor q.sourceCache q.timeout q.allowUnverified
  let k := Kitchen.standard
    { s with testTimeout := Kitchen.seconds q.testTimeout, keepBuildDir := q.keepBuildDir } e.launch
  let c ← contextFor q.root q.variation
  let r ← (k.cook l.formula l.descriptor c : Act Report)
  showReport r q.json
  return r.exitCode

def cook (e : Equipment) (q : CookRequest) : Work Nat := do
  if !q.json then Work.say ("Reading formula: " ++ q.formula.text)
  match ← ((Loaded.fromFile q.formula q.variation.mode).run : Act (Except Failure Loaded)) with
  | .ok l => cookLoaded e q l
  | .error failure =>
    let r := Report.loadFailure (packageHint q.formula) failure
    showReport r q.json
    return r.exitCode

/-! ### Checking and resolving -/

def checkFormula (p : Path) : Attempt (Formula × List Warning) := do
  let f ← Formula.fromFile p
  return (f, ← ExceptT.mk (pure f.validate))

/-- The sources a formula has a descriptor for, each in a line. -/
def sourceLines (f : Formula) : List String :=
  [Mode.release, Mode.head].filterMap fun mode =>
    match f.descriptor mode with
    | .ok d => some (describeSource d)
    | .error _ => none

def validate (p : Path) : Work Nat := do
  Work.say ("Reading formula: " ++ p.text)
  let (f, warnings) ← Work.orRefuse .load (checkFormula p)
  Work.sayAll (sourceLines f)
  Work.sayAll (warnings.map warningLine)
  Work.say "Formula validation passed"
  if warnings.isEmpty then Work.say "[OK] No issues found"
  else Work.say ("[OK] " ++ toString warnings.length ++ " warning(s)")
  return 0

def loadAndResolve (p root : Path) (v : Variation) : Work (Loaded × Resolution) := do
  let l ← Work.orRefuse .load (Loaded.fromFile p v.mode)
  let c ← contextFor root v
  let r ← Work.orRefuse .resolve (ExceptT.mk (pure (Resolution.resolve l.formula l.descriptor c)))
  return (l, r)

/-- Shows what a build would run. -/
def resolve (q : ResolveRequest) : Work Nat := do
  let (l, r) ← loadAndResolve q.formula q.root q.variation
  let i := Invocation.ofBuild l.formula.build r
  if q.json then Work.say (Json.pretty (resolutionValue l.descriptor r i))
  else Work.sayAll (resolutionLines l.descriptor r i)
  return 0

/-! ### Fetching -/

def fetchTarget (e : Equipment) : Option Path → Work Path
  | some target => do
    orFail e (.noTarget target) (Disk.makeAll target)
    return target
  | none => orFail e .noTemporary (Disk.makeTemporary "kettle-fetch-")

def fetch (e : Equipment) (q : FetchRequest) : Work Nat := do
  let l ← Work.orRefuse .load (Loaded.fromFile q.formula q.mode)
  let target ← fetchTarget e q.target
  let k := Kitchen.standard (← settingsFor q.sourceCache q.timeout q.allowUnverified) e.launch
  Work.say ("Fetching sources for " ++ l.descriptor.source.display ++ "...")
  let root ← Work.orRefuse .build (k.fetch l.descriptor target)
  Work.say ("\n[COMPLETE] Sources unpacked into " ++ root.text)
  return 0

/-! ### Trying out -/

def showResults (r : SmokeReport) (json : Bool) : Work Unit :=
  if json then Work.say (Json.pretty r.toValue)
  else Work.sayAll (r.results.flatMap resultLines)

def test (e : Equipment) (q : TestRequest) : Work Nat := do
  let (l, r) ← loadAndResolve q.formula q.root q.variation
  if !q.json then Work.say ("Testing " ++ r.artifact.text)
  let report ← Work.orRefuse .verify
    (Smoke.run e.launch r.artifact l.formula.tests r.expectations (Kitchen.seconds q.testTimeout))
  showResults report q.json
  match report.verdict with
  | .ok _ =>
    if !q.json then
      Work.say ("\n[OK] " ++ toString report.results.length ++ " assertion(s) passed")
    return 0
  | .error failure =>
    Work.complain ("\n[FAILED] " ++ failure.message)
    return failure.exitCode .verify

/-! ### All commands -/

/-- Does what is asked for. -/
def perform (e : Equipment) : Request → Work Nat
  | .cook q => cook e q
  | .validate p => validate p
  | .resolve q => resolve q
  | .fetch q => fetch e q
  | .test q => test e q
  | .completions shell => do
    Work.write (completionScript shell)
    return 0
  | .help topic => do
    Work.write (match topic with
      | some v => v.help
      | none => overview)
    return 0
  | .version => do
    Work.write versionText
    return 0
  | .misuse => do
    Work.protest misuseText
    return 2

/-- Runs the program with arguments: its exit code and all it says. -/
def run (e : Equipment) (args : List String) : Act (Nat × Transcript) :=
  (perform e (Request.read args)).transcript

end Formulary.CommandLine
