import Formulary.Proofs.Kitchen.Calls
import Formulary.Proofs.Kitchen.Keeping

/-!
# Calls and the programs that are started

A world notes every program that is started. In a run these are the programs of its calls, in their
order: whoever calls the toolchain, asks for a script or tries an assertion starts the one program
that this takes, or none if it cannot be started (`Call.Notes`), and nothing is started between two
calls. Only the fetcher starts what it likes. Every part of a run is `Noting`, and parts are put
together as the run is.
-/

namespace Formulary

/-- The steps of a formula are performed in this setting. -/
def Kitchen.setting (k : Kitchen) (f : Formula) (r : Resolution) : Install.Setting where
  launch := k.launch
  root := r.root
  binary := f.binaryName
  timeout := k.settings.testTimeout

/-- What a call for a purpose has started. -/
inductive Purpose.Asks (k : Kitchen) (f : Formula) (d : Descriptor) (c : Context) :
    Purpose → Command → Prop
  | toolchain {r : Resolution} (hr : Resolution.resolve f d c = .ok r) (dir : Path) :
    Asks k f d c .toolchain (Kitchen.toolchain f r dir)
  | script {r : Resolution} (hr : Resolution.resolve f d c = .ok r) (completions : Completions)
      (shell : Shell) :
    Asks k f d c (.script completions shell) ((k.setting f r).request completions shell)
  | assertion {r : Resolution} (hr : Resolution.resolve f d c = .ok r) {position : Nat}
      {a : Assertion} (ha : f.tests[position]? = some a) (scratch : Path) :
    Asks k f d c (.assertion position) (Smoke.commandOf r.artifact a scratch)

namespace Call

def after : Call → World
  | source _ after | toolchain _ after | script _ _ _ after | assertion _ _ after => after

/-- What was seen of the program that a call had started. -/
def seen? : Call → Option (Except Fault Output)
  | source _ _ => none
  | toolchain answer _ | script _ _ answer _ | assertion _ answer _ => some answer

/-- What a call adds to the programs that were started before it. -/
inductive Notes (launch : Launcher) (Asks : Purpose → Command → Prop) (before : List Launch)
    (call : Call) : Prop
  | fetched (h : call.purpose = .source)
  | refused {c : Command} {site : Site} {e : Fault} (hasks : Asks call.purpose c)
      (hlaunch : launch c site = .error e) (hseen : call.seen? = some (.error e))
      (hafter : call.after.started = before)
  | started {c : Command} {site : Site} {process : Process} (hasks : Asks call.purpose c)
      (hlaunch : launch c site = .ok process)
      (hafter : call.after.started = before ++ [⟨c, site⟩])

end Call

/-- The programs that were started before some calls and those after them, of which each call notes
its own. -/
inductive Noted (launch : Launcher) (Asks : Purpose → Command → Prop) :
    List Launch → List Call → List Launch → Prop
  | nil (started : List Launch) : Noted launch Asks started [] started
  | cons {started last : List Launch} {call : Call} {calls : List Call}
      (head : call.Notes launch Asks started)
      (rest : Noted launch Asks call.after.started calls last) :
    Noted launch Asks started (call :: calls) last

variable {launch : Launcher} {Asks : Purpose → Command → Prop}

theorem Noted.append {before middle last : List Launch} {calls more : List Call}
    (h : Noted launch Asks before calls middle) (hmore : Noted launch Asks middle more last) :
    Noted launch Asks before (calls ++ more) last := by
  induction h with
  | nil => exact hmore
  | cons head _ ih => exact .cons head (ih hmore)

/-- Nothing is started on the way from one world to another. -/
def World.Unstarted (w w' : World) : Prop := w'.started = w.started

theorem onward_unstarted : Onward World.Unstarted := ⟨fun _ => rfl, fun h h' => h'.trans h⟩

theorem OnFiles.unstarted {w w' : World} (h : OnFiles w w') : w.Unstarted w' := by
  obtain ⟨files, rfl⟩ := h
  rfl

theorem steady_unstarted (k : Kitchen) : Steady k.still.launch World.Unstarted where
  toOnward := onward_unstarted
  makes _ w := (onFiles_change _ w).unstarted
  writes _ _ w := (onFiles_change _ w).unstarted
  runs c timeout w := by
    have hrefused : k.still.launch c w.site = .error .noEntry := rfl
    rw [supervise_refused hrefused]
    rfl

/-! ### Parts of a run and their calls -/

/-- Wherever an action starts, its calls note what it starts. -/
def Traced.Noting {α : Type} (launch : Launcher) (Asks : Purpose → Command → Prop)
    (x : Traced α) : Prop :=
  ∀ w, Noted launch Asks w.started (x.calls w) (outcome x.action w).2.started

namespace Traced.Noting

variable {α β : Type}

theorem pure (a : α) : Noting launch Asks (Pure.pure a) := fun w => .nil w.started

theorem bind {x : Traced α} {f : α → Traced β} (hx : x.Noting launch Asks)
    (hf : ∀ a, (f a).Noting launch Asks) : (x >>= f).Noting launch Asks :=
  fun w => (hx w).append (hf _ _)

theorem silent {x : Act α} (hx : x.Keeps World.Unstarted) :
    Noting launch Asks (liftM x : Traced α) :=
  fun w => (hx w).symm ▸ .nil w.started

theorem attempt {x : TracedAttempt α} {f : α → TracedAttempt β} (hx : x.run.Noting launch Asks)
    (hf : ∀ a, (f a).run.Noting launch Asks) : (x >>= f).run.Noting launch Asks :=
  .bind hx fun
    | .ok a => hf a
    | .error e => .pure (Except.error e)

theorem lift {x : Traced α} (hx : x.Noting launch Asks) :
    (liftM x : TracedAttempt α).run.Noting launch Asks :=
  .bind hx fun a => .pure (Except.ok a)

/-- A step of a run goes on with what it gives and with what is kept besides. -/
theorem step {x : TracedCooking α} {f : α → TracedCooking β} {s : Kitchen.Session}
    (hx : (x.run s).Noting launch Asks) (hf : ∀ a t, ((f a).run t).Noting launch Asks) :
    ((x >>= f).run s).Noting launch Asks :=
  .bind hx fun given => hf given.1 given.2

theorem lift_step {x : Traced α} (hx : x.Noting launch Asks) (s : Kitchen.Session) :
    ((liftM x : TracedCooking α).run s).Noting launch Asks :=
  .bind hx fun a => .pure (a, s)

theorem stage {action : TracedCooking (Except Failure α)}
    (haction : ∀ s, (action.run s).Noting launch Asks) (p : Pipeline) (stage : Stage)
    (s : Kitchen.Session) : ((p.run Outside.watch stage action).run s).Noting launch Asks := by
  have hlook : ∀ s, (Outside.watch.cancelled.run s).Noting launch Asks :=
    .lift_step (.silent fun _ => rfl)
  have hclock : ∀ s, (Outside.watch.now.run s).Noting launch Asks :=
    .lift_step (.silent fun _ => rfl)
  unfold Pipeline.run
  split
  · exact .pure _
  refine .step (hlook s) fun stop t => ?_
  split
  · exact .pure _
  · exact .step (hclock t) fun _ t => .step (haction t) fun _ t => .step (hclock t) fun _ _ =>
      .pure _

theorem call {k : Kitchen} {p : Purpose} {c : Command} {timeout : Millis}
    {note : Except Fault Output → World → Call} (hasks : Asks p c)
    (hnote : ∀ answer v, (note answer v).purpose = p ∧ (note answer v).seen? = some answer ∧
      (note answer v).after = v) :
    (k.outside.launch note c timeout).Noting k.launch Asks := by
  intro w
  obtain ⟨hpurpose, hseen, hafter⟩ := hnote (outcome (supervise k.launch c timeout) w).1
    (outcome (supervise k.launch c timeout) w).2
  rw [← hpurpose] at hasks
  have hlast : (outcome (k.outside.launch note c timeout).action w).2.started = _ :=
    congrArg World.started hafter.symm
  rw [hlast]
  refine .cons ?_ (.nil _)
  rcases supervised k.launch c timeout w with
    ⟨hsame, e, hlaunch, hanswer⟩ | ⟨process, time, hlaunch, hstarted, -, -⟩
  · exact .refused hasks hlaunch (hseen.trans (congrArg some hanswer))
      (congrArg World.started (hafter.trans hsame))
  · exact .started hasks hlaunch ((congrArg World.started hafter).trans hstarted)

end Traced.Noting

/-! ### The parts of a run -/

namespace Kitchen

open Traced

/-- A part of a run of a formula, whose calls note what it starts. -/
abbrev Noting {α : Type} (k : Kitchen) (f : Formula) (d : Descriptor) (c : Context)
    (x : Traced α) : Prop :=
  x.Noting k.launch (Purpose.Asks k f d c)

theorem unstarted_temporary (label : String) : (Disk.makeTemporary label).Keeps World.Unstarted :=
  keeps_makeTemporary onward_unstarted (fun _ _ => rfl)
    (fun _ _ => (onFiles_change _ _).unstarted) label

theorem unstarted_removeTree (p : Path) : (Disk.removeTree p).Keeps World.Unstarted :=
  fun _ => (onFiles_change _ _).unstarted

theorem unstarted_cleanUp (k : Kitchen) (s : Session) : (k.cleanUp s).Keeps World.Unstarted := by
  unfold cleanUp
  cases s.buildDir with
  | none => exact .pure onward_unstarted _
  | some dir =>
    dsimp only
    split
    · exact .bind onward_unstarted (unstarted_removeTree dir) fun _ => .pure onward_unstarted _
    · exact .pure onward_unstarted _

variable (k : Kitchen) (f : Formula) (d : Descriptor) (c : Context) {r : Resolution}

section Resolved

variable (hr : Resolution.resolve f d c = .ok r)

include hr

theorem noting_generate (completions : Completions) (shell : Shell) :
    k.Noting f d c (k.outside.generate (k.still.setting f r) completions shell).run := by
  refine .attempt (.lift (.call (.script hr completions shell) fun _ _ => ⟨rfl, rfl, rfl⟩))
    fun answer => ?_
  rcases answer with e | ⟨ending, stdout, stderr⟩
  · exact .pure _
  cases ending with
  | cancelled => exact .pure _
  | timedOut => exact .pure _
  | exited status =>
    dsimp only
    split <;> exact .pure _

theorem noting_performAll (steps : List Step) (written : List Path) :
    k.Noting f d c (k.outside.performAll (k.still.setting f r) steps written) := by
  have hscripts : ∀ (completions : Completions) (shells : List Shell),
      k.Noting f d c (k.outside.scripts (k.still.setting f r) completions shells).run := by
    intro completions shells
    induction shells with
    | nil => exact .pure _
    | cons shell rest ih =>
      exact .attempt (k.noting_generate f d c hr completions shell) fun script =>
        .attempt ih fun scripts => .pure _
  have hperform : ∀ (step : Step) (written : List Path),
      k.Noting f d c (k.outside.perform (k.still.setting f r) step written) := by
    intro step written
    obtain ⟨completions⟩ := step
    refine .bind (hscripts completions completions.shells) fun given => ?_
    rcases given with e | list
    · exact .pure _
    · exact .silent (Install.steady_writeScripts (s := k.still.setting f r) (steady_unstarted k)
        list written)
  induction steps generalizing written with
  | nil => exact .pure _
  | cons step rest ih =>
    refine .bind (hperform step written) fun given => ?_
    obtain ⟨written', e | _⟩ := given
    · exact .pure _
    · exact ih written'

theorem noting_tryOne {position : Nat} {a : Assertion} (ha : f.tests[position]? = some a)
    (expected : String) (timeout : Millis) :
    k.Noting f d c (k.outside.tryOne r.artifact position a expected timeout).run := by
  refine .attempt (.silent (Attempt.Keeps.io (unstarted_temporary ".tmp"))) fun scratch => ?_
  refine .attempt (.lift (.call (.assertion hr ha scratch) fun _ _ => ⟨rfl, rfl, rfl⟩))
    fun answer => .attempt (.lift (.silent (unstarted_removeTree scratch))) fun _ => ?_
  rcases answer with e | output
  · exact .pure _
  · dsimp only
    split <;> exact .pure _

theorem noting_tryAll (expectations : List String) (timeout : Millis) :
    k.Noting f d c (k.outside.tryAll r.artifact f.tests expectations timeout).run := by
  have hfrom : ∀ (l : List (Assertion × String)) (position : Nat),
      (∀ i entry, l[i]? = some entry → f.tests[position + i]? = some entry.1) →
      k.Noting f d c (k.outside.tryFrom r.artifact timeout position l).run := by
    intro l
    induction l with
    | nil => exact fun _ _ => .pure _
    | cons entry rest ih =>
      intro position hl
      refine .attempt (k.noting_tryOne f d c hr (hl 0 entry rfl) entry.2 timeout) fun result =>
        .attempt (ih (position + 1) fun i next hnext => ?_) fun results => .pure _
      rw [Nat.add_assoc, Nat.add_comm 1 i]
      exact hl (i + 1) next hnext
  refine .attempt (hfrom _ 0 fun i entry hentry => ?_) fun results => .pure _
  rw [Nat.zero_add]
  exact (List.getElem?_zip_eq_some.1 hentry).1

theorem noting_compile (dir : Path) :
    k.Noting f d c (k.outside.compile k.still f r dir).run := by
  have hmade : (makeBinDir r).Keeps World.Unstarted := by
    unfold makeBinDir
    split
    · exact .io ((steady_unstarted k).makesAll _)
    · exact .pure onward_unstarted _
  refine .attempt (.silent hmade) fun _ => ?_
  refine .attempt (.lift (.call (.toolchain hr dir) fun _ _ => ⟨rfl, rfl, rfl⟩)) fun answer => ?_
  rcases answer with e | output
  · exact .pure _
  dsimp only
  split
  · exact .pure _
  · refine .attempt (.lift (.silent fun _ => rfl)) fun there => ?_
    split <;> exact .pure _

theorem noting_build (s : Session) :
    k.Noting f d c ((k.outside.build k.still f d r).run s) := by
  have hentered : (k.still.enterBuild d).Keeps World.Unstarted :=
    steady_enterBuild onward_unstarted (fun _ _ => rfl) fun _ _ => (onFiles_change _ _).unstarted
  have hfetch : ∀ dir, k.Noting f d c (k.outside.fetch d.source dir k.settings.timeout) :=
    fun dir w => .cons (.fetched rfl) (.nil _)
  refine .step (.lift_step (.silent hentered) s) fun entered t => ?_
  rcases entered with e | dir
  · exact .pure _
  refine .step (.pure _) fun _ t => .lift_step ?_ t
  exact .attempt (x := ExceptT.mk _) (hfetch dir) fun source => k.noting_compile f d c hr source

theorem noting_postInstall (s : Session) :
    k.Noting f d c ((k.outside.postInstall k.still f r).run s) :=
  .step (.lift_step (k.noting_performAll f d c hr f.postInstall []) s) fun _ _ =>
    .step (.pure _) fun _ _ => .pure _

theorem noting_verify (s : Session) : k.Noting f d c ((k.outside.verify k.still f r).run s) := by
  refine .step (.lift_step (k.noting_tryAll f d c hr r.expectations k.settings.testTimeout) s)
    fun tried t => ?_
  rcases tried with e | report
  · exact .pure _
  · exact .step (.pure _) fun _ _ => .pure _

/-- The stages of a run that was resolved. -/
theorem noting_later (p : Pipeline) (s : Session) :
    k.Noting f d c ((do
      let (artifact, p) ← p.run Outside.watch .build (k.outside.build k.still f d r)
      match artifact with
      | none => return { pipeline := p, resolution := some r }
      | some a =>
        let (completed, p) ← p.run Outside.watch .postInstall (k.outside.postInstall k.still f r)
        match completed with
        | none => return { pipeline := p, resolution := some r, artifact := some a }
        | some () => k.outside.conclude k.still f r a p : TracedCooking Course).run s) := by
  refine .step (.stage (k.noting_build f d c hr) p .build s) fun built t => ?_
  obtain ⟨_ | a, p⟩ := built
  · exact .pure _
  refine .step (.stage (k.noting_postInstall f d c hr) p .postInstall t) fun completed t => ?_
  obtain ⟨_ | _, p⟩ := completed
  · exact .pure _
  exact .step (.stage (k.noting_verify f d c hr) p .verify t) fun _ _ => .pure _

end Resolved

end Kitchen

end Formulary
