import Formulary.Proofs.Kitchen.Artifact
import Formulary.Proofs.Machine.Supervising

/-!
# The gates of a build

A build has to pass one gate after another, and what it comes to is decided by the first that does not
let it pass: `decided_build`. `Gated` attempts tell which gates they come to, wherever they start. A
build is written here once more with its gates; but for them it is the same build
(`attempt_gatedBuild`).
-/

namespace Formulary

/-! ### Gates -/

/-- What a build has to pass, in this order. -/
inductive Gate where
  /-- The programs it needs are found. -/
  | dependencies
  /-- Its source is one that is allowed. -/
  | policy
  /-- There is a temporary directory for it. -/
  | buildDir
  /-- Its source is fetched. -/
  | source
  /-- There is a directory for its program. -/
  | artifactDir
  /-- The toolchain is started, and can be waited for. -/
  | launch
  /-- The toolchain ends well. -/
  | ending
  /-- The program is there. -/
  | artifact
  deriving DecidableEq

namespace Gate

def all : List Gate :=
  [dependencies, policy, buildDir, source, artifactDir, launch, ending, artifact]

/-- The gates up to one of them. -/
def through (g : Gate) : List Gate := all.take (all.idxOf g + 1)

end Gate

/-- An attempt, with the gates that it comes to from a world on. -/
structure Gated (α : Type) where
  attempt : Attempt α
  gates : World → List Gate

namespace Gated

variable {α β : Type}

/-- After a gate that does not let it pass an attempt comes to no other. -/
instance : Monad Gated where
  pure a := ⟨pure a, fun _ => []⟩
  bind x f := ⟨x.attempt >>= fun a => (f a).attempt, fun w =>
    x.gates w ++ match attempted x.attempt w with
      | (.ok a, v) => (f a).gates v
      | (.error _, _) => []⟩

/-- An attempt that is a gate. -/
def gate (g : Gate) (x : Attempt α) : Gated α := ⟨x, fun _ => [g]⟩

/-- The gates an attempt comes to, what it gives, and the world it leaves. -/
def run (x : Gated α) (w : World) : List Gate × Except Failure α × World :=
  (x.gates w, attempted x.attempt w)

theorem run_gate (g : Gate) (x : Attempt α) (w : World) :
    (gate g x).run w = ([g], attempted x w) := rfl

theorem run_gate_bind (g : Gate) (x : Attempt α) (f : α → Gated β) (w : World) :
    (gate g x >>= f).run w =
      match attempted x w with
      | (.ok a, v) => (g :: ((f a).run v).1, ((f a).run v).2)
      | (.error e, v) => ([g], .error e, v) := by
  change (g :: _, attempted (x >>= fun a => (f a).attempt) w) = _
  rw [attempted_bind]
  change (g :: (match attempted x w with
    | (.ok a, v) => (f a).gates v
    | (.error _, _) => []), _) = _
  rcases attempted x w with ⟨e | a, v⟩ <;> rfl

end Gated

namespace Kitchen

variable (k : Kitchen) (f : Formula) (d : Descriptor) (r : Resolution)

/-! ### A build with its gates -/

def startToolchain (dir : Path) : Attempt Output :=
  Attempt.orFail (supervise k.launch (toolchain f r dir) k.settings.timeout)
    (launchFailure (Invocation.ofBuild f.build r).program)

def endToolchain (o : Output) : Attempt Unit :=
  match toolchainFailure? (Invocation.ofBuild f.build r).program k.settings.timeout o with
  | some e => throw e
  | none => pure ()

def takeArtifact (o : Output) : Attempt Path := do
  if ← Disk.isFile r.artifact then return r.artifact
  else throw (missingArtifact (Invocation.ofBuild f.build r).program r.artifact o)

def gatedEnding (o : Output) : Gated Path := do
  .gate .ending (k.endToolchain f r o)
  .gate .artifact (takeArtifact f r o)

def gatedLaunch (source : Path) : Gated Path := do
  let o ← .gate .launch (k.startToolchain f r source)
  k.gatedEnding f r o

def gatedCompile (source : Path) : Gated Path := do
  .gate .artifactDir (makeBinDir r)
  k.gatedLaunch f r source

def gatedFetch (dir : Path) : Gated Path := do
  let source ← .gate .source (k.fetcher d.source dir k.settings.timeout)
  k.gatedCompile f r source

/-- A build, with its gates. -/
def gatedBuild : Gated Path := do
  .gate .dependencies (ExceptT.mk (checkDependencies d.buildDependencies))
  .gate .policy (ExceptT.mk (pure (k.settings.checkSource d)))
  let dir ← .gate .buildDir makeBuildDir
  k.gatedFetch f d r dir

theorem attempt_gatedCompile (dir : Path) : (k.gatedCompile f r dir).attempt = k.compile f r dir := by
  rw [compile_eq]
  refine bind_congr fun _ => bind_congr fun o => ?_
  change (k.endToolchain f r o >>= fun _ => takeArtifact f r o) = _
  unfold endToolchain takeArtifact
  cases toolchainFailure? (Invocation.ofBuild f.build r).program k.settings.timeout o <;> rfl

/-- **But for the gates it is the same build.** -/
theorem attempt_gatedBuild :
    (k.gatedBuild f d r).attempt = k.enterAndFetch d >>= k.compile f r := by
  have hcompile : (fun dir => (k.gatedCompile f r dir).attempt) = k.compile f r :=
    funext (k.attempt_gatedCompile f r)
  rw [← hcompile]
  unfold enterAndFetch enterBuild
  simp only [bind_assoc]
  rfl

/-! ### How far a build gets -/

/-- The program of a name is found. -/
def Found (w : World) (name : String) : Prop :=
  (Lookup.which? w.files w.here w.env name).isSome = true

/-- A build has a temporary directory. -/
structure Entered (w : World) (dir : Path) (v : World) : Prop where
  found : ∀ name ∈ d.buildDependencies, Found w name
  allowed : k.settings.checkSource d = .ok ()
  made : outcome (Disk.makeTemporary "kettle-build-") w = (.ok dir, v)

/-- Its source is fetched. -/
inductive Fetched (w : World) (source : Path) (v : World) : Prop
  | intro {dir : Path} {u : World} (entered : Entered k d w dir u)
    (fetched : attempted (k.fetcher d.source dir k.settings.timeout) u = (.ok source, v))

/-- There is a directory for its program, if it goes to any. -/
inductive Housed (w : World) (source : Path) (v : World) : Prop
  | intro {u : World} (fetched : Fetched k d w source u)
    (made : attempted (makeBinDir r) u = (.ok (), v))

/-- Its toolchain was started, and came to an end after a time: it was stopped, or what there was to
see of its process was seen. -/
inductive Ran (w : World) (p : Process) (o : Outcome) (time : Millis) (v : World) : Prop
  | intro {source : Path} {u : World} (housed : Housed k d r w source u)
    (started : k.launch (toolchain f r source) u.site = .ok p)
    (watched : outcome (supervise k.launch (toolchain f r source) k.settings.timeout) u =
      (.ok (p.left o time), v))
    (seen : o = .cancelled ∨ (.ok o, time) = p.seen k.settings.timeout)

/-- What a process has written by a time, its complaints after its results. -/
def said (p : Process) (time : Millis) : String :=
  Text.decodeLossy (p.after time).stdout ++ Text.decodeLossy (p.after time).stderr

def toolchainName : String := (Invocation.ofBuild f.build r).program

/-- Which gates a build comes to from a world on, what it comes to, and the world it leaves: it is
decided by the first gate that does not let it pass. -/
inductive Decided (w : World) : List Gate → Except Failure Path → World → Prop
  /-- The first of the programs it needs that is not found. -/
  | missing {before after : List String} {name : String}
    (hnames : d.buildDependencies = before ++ name :: after) (hbefore : ∀ n ∈ before, Found w n)
    (hname : ¬ Found w name) :
    Decided w (Gate.through .dependencies) (.error (.missingBuildDependency name)) w
  | refused {e : Failure} (hfound : ∀ name ∈ d.buildDependencies, Found w name)
    (hpolicy : k.settings.checkSource d = .error e) :
    Decided w (Gate.through .policy) (.error e) w
  | homeless {e : Fault} {v : World} (hfound : ∀ name ∈ d.buildDependencies, Found w name)
    (hpolicy : k.settings.checkSource d = .ok ())
    (hmake : outcome (Disk.makeTemporary "kettle-build-") w = (.error e, v)) :
    Decided w (Gate.through .buildDir)
      (.error (.io ("Failed to create build directory: " ++ e.message))) v
  | unfetched {dir : Path} {u v : World} {e : Failure} (h : Entered k d w dir u)
    (hfetch : attempted (k.fetcher d.source dir k.settings.timeout) u = (.error e, v)) :
    Decided w (Gate.through .source) (.error e) v
  | unhoused {source parent : Path} {u v : World} {e : Fault} (h : Fetched k d w source u)
    (hparent : r.artifact.parent? = some parent)
    (hmake : outcome (Disk.makeAll parent) u = (.error e, v)) :
    Decided w (Gate.through .artifactDir) (.error (.io e.message)) v
  | unlaunched {source : Path} {v : World} {e : Fault} (h : Housed k d r w source v)
    (hlaunch : k.launch (toolchain f r source) v.site = .error e) :
    Decided w (Gate.through .launch)
      (.error (.buildFailed ("failed to launch " ++ toolchainName f r ++ ": " ++ e.message) none "")) v
  /-- What cannot be waited for is told like what cannot be started. -/
  | lost {source : Path} {u v : World} {p : Process} {e : Fault} (h : Housed k d r w source u)
    (hlaunch : k.launch (toolchain f r source) u.site = .ok p)
    (hlost : p.Lost k.settings.timeout e)
    (hwatched : outcome (supervise k.launch (toolchain f r source) k.settings.timeout) u =
      (.error e, v)) :
    Decided w (Gate.through .launch)
      (.error (.buildFailed ("failed to launch " ++ toolchainName f r ++ ": " ++ e.message) none "")) v
  | cancelled {p : Process} {time : Millis} {v : World} (h : Ran k f d r w p .cancelled time v) :
    Decided w (Gate.through .ending) (.error (.cancelled "build")) v
  | timedOut {p : Process} {time : Millis} {v : World} (h : Ran k f d r w p .timedOut time v) :
    Decided w (Gate.through .ending)
      (.error (.buildFailed (toolchainName f r ++ " timed out after " ++
        toString (k.settings.timeout / 1000) ++ " seconds") none (said p time))) v
  | failed {p : Process} {time : Millis} {v : World} {status : ExitStatus}
    (h : Ran k f d r w p (.exited status) time v) (hstatus : status.success = false) :
    Decided w (Gate.through .ending)
      (.error (.buildFailed (toolchainName f r ++ " exited with " ++ status.display) status.code?
        (said p time))) v
  | unbuilt {p : Process} {time : Millis} {v : World}
    (h : Ran k f d r w p (.exited (.exited 0)) time v)
    (hthere : v.files.isFile v.here r.artifact = false) :
    Decided w (Gate.through .artifact)
      (.error (.buildFailed (toolchainName f r ++ " reported success but " ++ r.artifact.text ++
        " does not exist") (some 0) (said p time))) v
  | built {p : Process} {time : Millis} {v : World}
    (h : Ran k f d r w p (.exited (.exited 0)) time v)
    (hthere : v.files.isFile v.here r.artifact = true) :
    Decided w (Gate.through .artifact) (.ok r.artifact) v

/-! ### The gates, one by one -/

variable {k f d r} {w v : World}

theorem attempted_of_found {names : List String} (h : ∀ name ∈ names, Found w name) :
    attempted (ExceptT.mk (checkDependencies names)) w = (.ok (), w) := by
  have hnone : (names.find? fun name => (Lookup.which? w.files w.here w.env name).isNone) = none := by
    rw [List.find?_eq_none]
    intro name hname
    simpa [Found, Option.isSome_iff_ne_none] using h name hname
  rw [attempted_mk]
  unfold checkDependencies
  rw [outcome_bind, outcome_get]
  dsimp only
  rw [hnone]
  rfl

theorem attempted_of_missing {before after : List String} {name : String}
    (hbefore : ∀ n ∈ before, Found w n) (hname : ¬ Found w name) :
    attempted (ExceptT.mk (checkDependencies (before ++ name :: after))) w =
      (.error (.missingBuildDependency name), w) := by
  have hfirst : ((before ++ name :: after).find? fun name =>
      (Lookup.which? w.files w.here w.env name).isNone) = some name := by
    refine List.find?_eq_some_iff_append.2 ⟨?_, before, after, rfl, fun n hn => ?_⟩
    · simpa [Found] using hname
    · simpa [Found] using hbefore n hn
  rw [attempted_mk]
  unfold checkDependencies
  rw [outcome_bind, outcome_get]
  dsimp only
  rw [hfirst]
  rfl

theorem found_or_missing (names : List String) (w : World) :
    (∀ name ∈ names, Found w name) ∨
    ∃ before name after, names = before ++ name :: after ∧ (∀ n ∈ before, Found w n) ∧
      ¬ Found w name := by
  induction names with
  | nil => exact .inl (List.forall_mem_nil _)
  | cons name rest ih =>
    by_cases hname : Found w name
    · rcases ih with hall | ⟨before, missing, after, rfl, hbefore, hmissing⟩
      · exact .inl (List.forall_mem_cons.2 ⟨hname, hall⟩)
      · exact .inr ⟨name :: before, missing, after, rfl, List.forall_mem_cons.2 ⟨hname, hbefore⟩,
          hmissing⟩
    · exact .inr ⟨[], name, rest, rfl, List.forall_mem_nil _, hname⟩

theorem attempted_makeBuildDir (w : World) : attempted makeBuildDir w =
    ((outcome (Disk.makeTemporary "kettle-build-") w).1.mapError
      (fun e => .io ("Failed to create build directory: " ++ e.message)),
      (outcome (Disk.makeTemporary "kettle-build-") w).2) := attempted_orFail _ _ w

theorem attempted_startToolchain (k : Kitchen) (f : Formula) (r : Resolution) (dir : Path)
    (w : World) : attempted (k.startToolchain f r dir) w =
    ((outcome (supervise k.launch (toolchain f r dir) k.settings.timeout) w).1.mapError
      (launchFailure (toolchainName f r)),
      (outcome (supervise k.launch (toolchain f r dir) k.settings.timeout) w).2) :=
  attempted_orFail _ _ w

theorem attempted_makeBinDir {parent : Path} (h : r.artifact.parent? = some parent) (w : World) :
    attempted (makeBinDir r) w = ((outcome (Disk.makeAll parent) w).1.mapError Attempt.ioFailure,
      (outcome (Disk.makeAll parent) w).2) := by
  unfold makeBinDir
  rw [h]
  exact attempted_orFail _ _ w

theorem makeBinDir_ok_or_error (r : Resolution) (w : World) :
    (∃ v, attempted (makeBinDir r) w = (.ok (), v)) ∨
    ∃ parent fault v, r.artifact.parent? = some parent ∧
      outcome (Disk.makeAll parent) w = (.error fault, v) := by
  cases hparent : r.artifact.parent? with
  | none =>
    refine .inl ⟨w, ?_⟩
    unfold makeBinDir
    rw [hparent]
    rfl
  | some parent =>
    rcases hmake : outcome (Disk.makeAll parent) w with ⟨fault | _, v⟩
    · exact .inr ⟨parent, fault, v, rfl, hmake⟩
    · refine .inl ⟨v, ?_⟩
      rw [attempted_makeBinDir hparent, hmake]
      rfl

theorem attempted_takeArtifact (o : Output) (v : World) :
    attempted (takeArtifact f r o) v = (verdict f r o v, v) := by
  unfold takeArtifact verdict
  rw [attempted_bind, attempted_lift]
  change attempted (if v.files.isFile v.here r.artifact = true then _ else _) v = _
  split <;> rfl

theorem attempted_endToolchain (k : Kitchen) (f : Formula) (r : Resolution) (p : Process)
    (status : ExitStatus) (time : Millis) (v : World) :
    attempted (k.endToolchain f r (p.left (.exited status) time)) v =
      if status.success = true then (.ok (), v)
      else (.error (.buildFailed (toolchainName f r ++ " exited with " ++ status.display)
        status.code? (said p time)), v) := by
  have hfailure : toolchainFailure? (toolchainName f r) k.settings.timeout
      (p.left (.exited status) time) = if status.success = true then none
        else some (.buildFailed (toolchainName f r ++ " exited with " ++ status.display)
          status.code? (said p time)) := rfl
  unfold endToolchain
  rw [← toolchainName, hfailure]
  by_cases hsuccess : status.success = true
  · rw [if_pos hsuccess, if_pos hsuccess]
    rfl
  · rw [if_neg hsuccess, if_neg hsuccess]
    rfl

/-! ### From gate to gate -/

/-- What a build comes to that has passed some gates before. -/
def onward (gates : List Gate) (rest : List Gate × Except Failure Path × World) :
    List Gate × Except Failure Path × World := (gates ++ rest.1, rest.2)

theorem run_of_entered {dir : Path} (h : Entered k d w dir v) :
    (k.gatedBuild f d r).run w =
      onward [.dependencies, .policy, .buildDir] ((k.gatedFetch f d r dir).run v) := by
  unfold gatedBuild
  rw [Gated.run_gate_bind, attempted_of_found h.found]
  dsimp only
  rw [Gated.run_gate_bind, h.allowed]
  change (_ :: _ :: (Gated.run (Gated.gate _ _ >>= _) w).1, (Gated.run (Gated.gate _ _ >>= _) w).2) = _
  rw [Gated.run_gate_bind, attempted_makeBuildDir, h.made]
  rfl

theorem run_of_fetched {source : Path} (h : Fetched k d w source v) :
    (k.gatedBuild f d r).run w =
      onward [.dependencies, .policy, .buildDir, .source] ((k.gatedCompile f r source).run v) := by
  obtain ⟨entered, fetched⟩ := h
  rw [run_of_entered entered]
  unfold gatedFetch
  rw [Gated.run_gate_bind, fetched]
  rfl

theorem run_of_housed {source : Path} (h : Housed k d r w source v) :
    (k.gatedBuild f d r).run w =
      onward [.dependencies, .policy, .buildDir, .source, .artifactDir]
        ((k.gatedLaunch f r source).run v) := by
  obtain ⟨fetched, made⟩ := h
  rw [run_of_fetched fetched]
  unfold gatedCompile
  rw [Gated.run_gate_bind, made]
  rfl

theorem run_of_ran {p : Process} {o : Outcome} {time : Millis} (h : Ran k f d r w p o time v) :
    (k.gatedBuild f d r).run w =
      onward [.dependencies, .policy, .buildDir, .source, .artifactDir, .launch]
        ((k.gatedEnding f r (p.left o time)).run v) := by
  obtain ⟨housed, started, watched, -⟩ := h
  rw [run_of_housed housed]
  unfold gatedLaunch
  rw [Gated.run_gate_bind, attempted_startToolchain, watched]
  rfl

theorem run_of_ran_well {p : Process} {time : Millis}
    (h : Ran k f d r w p (.exited (.exited 0)) time v) :
    (k.gatedBuild f d r).run w =
      (Gate.through .artifact, verdict f r (p.left (.exited (.exited 0)) time) v, v) := by
  rw [run_of_ran h]
  unfold gatedEnding
  have hsuccess : (ExitStatus.exited 0).success = true := rfl
  rw [Gated.run_gate_bind, attempted_endToolchain, if_pos hsuccess]
  dsimp only
  rw [Gated.run_gate, attempted_takeArtifact]
  rfl

theorem run_of_decided {gates : List Gate} {result : Except Failure Path}
    (h : Decided k f d r w gates result v) : (k.gatedBuild f d r).run w = (gates, result, v) := by
  cases h with
  | missing hnames hbefore hname =>
    unfold gatedBuild
    rw [Gated.run_gate_bind, hnames, attempted_of_missing hbefore hname]
    rfl
  | refused hfound hpolicy =>
    unfold gatedBuild
    rw [Gated.run_gate_bind, attempted_of_found hfound]
    dsimp only
    rw [Gated.run_gate_bind, hpolicy]
    rfl
  | homeless hfound hpolicy hmake =>
    unfold gatedBuild
    rw [Gated.run_gate_bind, attempted_of_found hfound]
    dsimp only
    rw [Gated.run_gate_bind, hpolicy]
    change (_ :: _ :: (Gated.run (Gated.gate _ _ >>= _) w).1,
      (Gated.run (Gated.gate _ _ >>= _) w).2) = _
    rw [Gated.run_gate_bind, attempted_makeBuildDir, hmake]
    rfl
  | unfetched h hfetch =>
    rw [run_of_entered h]
    unfold gatedFetch
    rw [Gated.run_gate_bind, hfetch]
    rfl
  | unhoused h hparent hmake =>
    rw [run_of_fetched h]
    unfold gatedCompile
    rw [Gated.run_gate_bind, attempted_makeBinDir hparent, hmake]
    rfl
  | unlaunched h hlaunch =>
    rw [run_of_housed h]
    unfold gatedLaunch
    rw [Gated.run_gate_bind, attempted_startToolchain, supervise_refused hlaunch]
    rfl
  | lost h _ _ hwatched =>
    rw [run_of_housed h]
    unfold gatedLaunch
    rw [Gated.run_gate_bind, attempted_startToolchain, hwatched]
    rfl
  | cancelled h =>
    rw [run_of_ran h]
    rfl
  | timedOut h =>
    rw [run_of_ran h]
    rfl
  | failed h hstatus =>
    rw [run_of_ran h]
    unfold gatedEnding
    rw [Gated.run_gate_bind, attempted_endToolchain, if_neg (by simp [hstatus])]
    rfl
  | unbuilt h hthere =>
    rw [run_of_ran_well h]
    unfold verdict
    rw [if_neg (by simp [hthere])]
    rfl
  | built h hthere =>
    rw [run_of_ran_well h]
    unfold verdict
    rw [if_pos hthere]

theorem exists_decided (k : Kitchen) (f : Formula) (d : Descriptor) (r : Resolution) (w : World) :
    ∃ gates result v, Decided k f d r w gates result v := by
  rcases found_or_missing d.buildDependencies w with
    hfound | ⟨before, name, after, hnames, hbefore, hname⟩
  rotate_left
  · exact ⟨_, _, _, .missing hnames hbefore hname⟩
  cases hpolicy : k.settings.checkSource d with
  | error e => exact ⟨_, _, _, .refused hfound hpolicy⟩
  | ok _ =>
  rcases hmake : outcome (Disk.makeTemporary "kettle-build-") w with ⟨e | dir, v⟩
  · exact ⟨_, _, _, .homeless hfound hpolicy hmake⟩
  have hentered : Entered k d w dir v := ⟨hfound, hpolicy, hmake⟩
  rcases hfetch : attempted (k.fetcher d.source dir k.settings.timeout) v with ⟨e | source, u⟩
  · exact ⟨_, _, _, .unfetched hentered hfetch⟩
  have hfetched : Fetched k d w source u := ⟨hentered, hfetch⟩
  rcases makeBinDir_ok_or_error r u with ⟨v', hmade⟩ | ⟨parent, fault, v', hparent, hmake⟩
  rotate_left
  · exact ⟨_, _, _, .unhoused hfetched hparent hmake⟩
  have hhoused : Housed k d r w source v' := ⟨hfetched, hmade⟩
  cases hlaunch : k.launch (toolchain f r source) v'.site with
  | error e => exact ⟨_, _, _, .unlaunched hhoused hlaunch⟩
  | ok p =>
  obtain ⟨o, time, hsupervise, -, -, hseen, -⟩ := supervise_seen hlaunch k.settings.timeout
  rcases o with e | o
  · exact ⟨_, _, _, .lost hhoused hlaunch (Process.lost_of_seen hseen) (Prod.ext hsupervise rfl)⟩
  have hran : Ran k f d r w p o time _ :=
    ⟨hhoused, hlaunch, Prod.ext hsupervise rfl, hseen.imp_left Except.ok.inj⟩
  cases o with
  | cancelled => exact ⟨_, _, _, .cancelled hran⟩
  | timedOut => exact ⟨_, _, _, .timedOut hran⟩
  | exited status =>
  cases hsuccess : status.success with
  | false => exact ⟨_, _, _, .failed hran hsuccess⟩
  | true =>
  obtain rfl := status.eq_of_success hsuccess
  rcases Bool.eq_false_or_eq_true (Files.isFile _ _ r.artifact) with hthere | hthere
  · exact ⟨_, _, _, .built hran hthere⟩
  · exact ⟨_, _, _, .unbuilt hran hthere⟩

/-- **What a build comes to is decided by the first gate that does not let it pass**, and after that
it comes to no other; it gives its program just if all gates let it pass. -/
theorem decided_build (k : Kitchen) (f : Formula) (d : Descriptor) (r : Resolution) (s : Session)
    (w : World) :
    let built := outcomeWith (k.build f d r) s w
    attempted (k.gatedBuild f d r).attempt w = (built.1, built.2.2) ∧
    ∀ gates result after, Decided k f d r w gates result after ↔
      gates = (k.gatedBuild f d r).gates w ∧ result = built.1 ∧ after = built.2.2 := by
  intro built
  have hbuilt : attempted (k.gatedBuild f d r).attempt w = (built.1, built.2.2) := by
    rw [attempt_gatedBuild]
    exact Prod.ext (outcomeWith_build k f d r s w).symm (outcomeWith_build_world k f d r s w).symm
  have hrun : (k.gatedBuild f d r).run w = ((k.gatedBuild f d r).gates w, built.1, built.2.2) := by
    rw [← hbuilt]
    rfl
  refine ⟨hbuilt, fun gates result after => ⟨fun h => ?_, ?_⟩⟩
  · have hsame := (run_of_decided h).symm.trans hrun
    simpa using hsame
  · rintro ⟨rfl, rfl, rfl⟩
    obtain ⟨gates, result, v, h⟩ := exists_decided k f d r w
    have hsame := (run_of_decided h).symm.trans hrun
    cases hsame
    exact h

end Kitchen

end Formulary
