import Formulary.Proofs.Kitchen.Enclosure
import Formulary.Proofs.Kitchen.Noting

/-!
# The order of calls

The plan of a formula is to have its source fetched and its toolchain run, to ask for each script of
each step, and to try each assertion. Whatever happens in a run, its calls are the first ones of
this plan: `orderly_cook`. A part of a run keeps to a part of the plan, and `Keeps.bind` puts parts
together, so each is only looked at for the calls it makes itself.
-/

namespace Formulary

/-! ### Keeping to a plan -/

/-- Calls keep to a plan: they are the first ones of it, and after one that does not let the run go
on there is no other. If all went well they are all of it. -/
structure Follows (artifact : Path) (plan : List Purpose) (calls : List Call) (well : Prop) :
    Prop where
  planned : calls.map Call.purpose <+: plan
  letsOn : calls.Pairwise fun call _ => call.LetsOn artifact
  whole : well → calls.map Call.purpose = plan ∧ ∀ call ∈ calls, call.LetsOn artifact

namespace Follows

variable {artifact : Path} {plan rest : List Purpose} {calls more : List Call}
  {well well' : Prop}

theorem nothing : Follows artifact [] [] well :=
  ⟨List.prefix_rfl, .nil, fun _ => ⟨rfl, List.forall_mem_nil _⟩⟩

theorem unbegun (h : ¬ well) : Follows artifact plan [] well :=
  ⟨List.nil_prefix, .nil, fun hwell => absurd hwell h⟩

theorem single {call : Call} {p : Purpose} (hpurpose : call.purpose = p)
    (hletsOn : well → call.LetsOn artifact) : Follows artifact [p] [call] well := by
  have hmap : [call].map Call.purpose = [p] := by rw [List.map_singleton, hpurpose]
  refine ⟨hmap ▸ List.prefix_rfl, List.pairwise_singleton _ _, fun h => ⟨hmap, ?_⟩⟩
  exact List.forall_mem_singleton.2 (hletsOn h)

/-- A plan that goes on only if all went well before. -/
theorem append (h : Follows artifact plan calls well) (hrest : Follows artifact rest more well')
    (hmore : more ≠ [] → well) :
    Follows artifact (plan ++ rest) (calls ++ more) (well ∧ well') where
  planned := by
    by_cases hnil : more = []
    · rw [hnil, List.append_nil]
      exact h.planned.trans (List.prefix_append _ _)
    · rw [List.map_append, (h.whole (hmore hnil)).1]
      exact (List.prefix_append_right_inj _).2 hrest.planned
  letsOn := by
    refine List.pairwise_append.2 ⟨h.letsOn, hrest.letsOn, fun call hcall next hnext => ?_⟩
    exact (h.whole (hmore (List.ne_nil_of_mem hnext))).2 call hcall
  whole := by
    rintro ⟨hwell, hwell'⟩
    obtain ⟨hplan, hall⟩ := h.whole hwell
    obtain ⟨hplan', hall'⟩ := hrest.whole hwell'
    exact ⟨by rw [List.map_append, hplan, hplan'], List.forall_mem_append.2 ⟨hall, hall'⟩⟩

theorem mono (h : Follows artifact plan calls well) (hwell : well' → well) :
    Follows artifact plan calls well' :=
  ⟨h.planned, h.letsOn, fun h' => h.whole (hwell h')⟩

theorem before_toolchain {before : List Call} {answer : Except Fault Output} {after : World}
    (h : Follows artifact (.source :: .toolchain :: rest)
      (before ++ .toolchain answer after :: more) well) (hrest : .toolchain ∉ rest) :
    ∃ dir u, before = [.source (.ok dir) u] := by
  obtain ⟨hplanned, hletsOn, -⟩ := h
  rcases before with _ | ⟨first, before⟩
  · cases (List.cons_prefix_cons.1 hplanned).1
  obtain ⟨hfirst, hsecond⟩ := List.cons_prefix_cons.1 hplanned
  have hwell : first.LetsOn artifact := (List.pairwise_cons.1 hletsOn).1 _
    (List.mem_append_right _ List.mem_cons_self)
  cases first with
  | source fetched u =>
    obtain ⟨dir, rfl⟩ := hwell
    rcases before with _ | ⟨second, before⟩
    · exact ⟨dir, u, rfl⟩
    · refine absurd ((List.cons_prefix_cons.1 hsecond).2.subset ?_) hrest
      exact List.mem_map.2 ⟨_, List.mem_append_right _ List.mem_cons_self, rfl⟩
  | toolchain => cases hfirst
  | script => cases hfirst
  | assertion => cases hfirst

theorem before_other {before : List Call} {call : Call}
    (h : Follows artifact (.source :: .toolchain :: rest) (before ++ call :: more) well)
    (hsource : call.purpose ≠ .source) (htoolchain : call.purpose ≠ .toolchain) :
    ∃ dir u o v others, before = .source (.ok dir) u :: .toolchain (.ok o) v :: others ∧
      o.outcome = .exited (.exited 0) ∧ (outcome (Disk.isFile artifact) v).1 = true := by
  obtain ⟨hplanned, hletsOn, -⟩ := h
  rcases before with _ | ⟨first, before⟩
  · exact absurd (List.cons_prefix_cons.1 hplanned).1 hsource
  obtain ⟨hfirst, htail⟩ := List.cons_prefix_cons.1 hplanned
  obtain ⟨hall, hothers⟩ := List.pairwise_cons.1 hletsOn
  have hwell : first.LetsOn artifact := hall _ (List.mem_append_right _ List.mem_cons_self)
  rcases before with _ | ⟨second, before⟩
  · exact absurd (List.cons_prefix_cons.1 htail).1 htoolchain
  obtain ⟨hsecond, -⟩ := List.cons_prefix_cons.1 htail
  have hwell' : second.LetsOn artifact := (List.pairwise_cons.1 hothers).1 _
    (List.mem_append_right _ List.mem_cons_self)
  cases first with
  | source fetched u =>
    obtain ⟨dir, rfl⟩ := hwell
    cases second with
    | toolchain answer v =>
      obtain ⟨o, rfl, hended, hthere⟩ := hwell'
      exact ⟨dir, u, o, v, before, rfl, hended, hthere⟩
    | source => cases hsecond
    | script => cases hsecond
    | assertion => cases hsecond
  | toolchain => cases hfirst
  | script => cases hfirst
  | assertion => cases hfirst

theorem mem_plan (h : Follows artifact plan calls well) {call : Call} (hcall : call ∈ calls) :
    call.purpose ∈ plan :=
  h.planned.subset (List.mem_map_of_mem hcall)

end Follows

/-! ### Attempts that keep to a plan -/

open Traced

/-- The calls of an attempt keep to a plan, and it succeeds only if all went well. -/
def Keeps {α : Type} (artifact : Path) (x : TracedAttempt α) (plan : List Purpose) (w : World) :
    Prop :=
  Follows artifact plan (x.run.calls w) (∃ a, (attempted (plain x) w).1 = .ok a)

namespace Keeps

variable {α β : Type} {artifact : Path} {plan rest : List Purpose} {w : World}

theorem pure (a : α) : Keeps artifact (Pure.pure a) [] w := Follows.nothing

theorem silent (x : Attempt α) : Keeps artifact x.silent [] w := Follows.nothing

theorem calls_bind (x : TracedAttempt α) (f : α → TracedAttempt β) (w : World) :
    (x >>= f).run.calls w = x.run.calls w ++
      match attempted (plain x) w with
      | (.ok a, v) => (f a).run.calls v
      | (.error _, _) => [] := by
  change x.run.calls w ++ (ExceptT.bindCont f (outcome x.run.action w).1).calls
    (outcome x.run.action w).2 = _
  refine congrArg _ ?_
  change _ = match outcome x.run.action w with
    | (.ok a, v) => (f a).run.calls v
    | (.error _, _) => []
  rcases outcome x.run.action w with ⟨_ | a, v⟩ <;> rfl

theorem bind {x : TracedAttempt α} {f : α → TracedAttempt β} (hx : Keeps artifact x plan w)
    (hf : ∀ a v, attempted (plain x) w = (.ok a, v) → Keeps artifact (f a) rest v) :
    Keeps artifact (x >>= f) (plan ++ rest) w := by
  unfold Keeps at hx ⊢
  rw [calls_bind, plain_bind, attempted_bind]
  rcases h : attempted (plain x) w with ⟨e | a, v⟩
  · refine (hx.append (Follows.unbegun not_false) fun h => absurd rfl h).mono ?_
    rintro ⟨b, hb⟩
    cases hb
  · refine (hx.append (hf a v h) fun _ => ?_).mono fun hb => ⟨?_, hb⟩
    all_goals exact ⟨a, by rw [h]⟩

theorem ask {note : α → World → Call} {x : Act α} {decide : α → TracedAttempt β} {p : Purpose}
    (hpurpose : ∀ answer v, (note answer v).purpose = p)
    (hsilent : ∀ answer v, (decide answer).run.calls v = [])
    (hletsOn : ∀ answer v b, (attempted (plain (decide answer)) v).1 = .ok b →
      (note answer v).LetsOn artifact) :
    Keeps artifact ((Traced.call note x : Traced α) >>= decide) [p] w := by
  unfold Keeps
  rw [calls_bind, plain_bind, plain_lift, attempted_bind, attempted_lift]
  dsimp only
  rw [hsilent, List.append_nil]
  refine Follows.single (hpurpose _ _) ?_
  rintro ⟨b, hb⟩
  exact hletsOn _ _ b hb

theorem give {x : TracedAttempt α} (hx : Keeps artifact x plan w) (g : α → β) :
    Keeps artifact (x >>= fun a => Pure.pure (g a)) plan w := by
  have h := hx.bind (f := fun a => Pure.pure (g a)) fun a v _ => .pure (g a)
  rwa [List.append_nil] at h

end Keeps

/-! ### Steps of a run -/

section Cooking

variable {α β : Type}

theorem calls_bind_cooking (x : TracedCooking α) (f : α → TracedCooking β) (s : Kitchen.Session)
    (w : World) : ((x >>= f).run s).calls w = (x.run s).calls w ++
      ((f (outcomeWith (plainly x) s w).1).run (outcomeWith (plainly x) s w).2.1).calls
        (outcomeWith (plainly x) s w).2.2 := rfl

theorem outcomeWith_silent (x : Act α) (s : Kitchen.Session) (w : World) :
    outcomeWith (plainly (liftM x : TracedCooking α)) s w =
      ((outcome x w).1, s, (outcome x w).2) := rfl

end Cooking

/-! ### The parts of a run -/

namespace Kitchen

variable (k : Kitchen) {artifact : Path} {w : World}

section Steps

variable (s : Install.Setting)

/-- A step goes on after a script only if its program ended well with one. -/
theorem keeps_generate (c : Completions) (shell : Shell) :
    Keeps artifact (k.outside.generate s c shell) [.script c shell] w := by
  refine Keeps.ask (fun _ _ => rfl) (fun answer v => ?_) fun answer v script h => ?_
  · rcases answer with e | ⟨ending, stdout, stderr⟩
    · rfl
    cases ending with
    | cancelled => rfl
    | timedOut => rfl
    | exited status =>
      dsimp only
      split <;> rfl
  · rcases answer with e | ⟨ending, stdout, stderr⟩
    · cases h
    cases ending with
    | cancelled => cases h
    | timedOut => cases h
    | exited status =>
      dsimp only at h
      split at h
      · cases h
      · next hgood =>
        rw [Bool.not_eq_true, Bool.or_eq_false_iff, Bool.not_eq_false'] at hgood
        exact ⟨_, rfl, congrArg _ (status.eq_of_success hgood.1), hgood.2⟩

theorem keeps_scripts (c : Completions) (shells : List Shell) :
    Keeps artifact (k.outside.scripts s c shells) (shells.map (.script c)) w := by
  induction shells generalizing w with
  | nil => exact .pure _
  | cons shell rest ih =>
    exact (k.keeps_generate s c shell).bind fun script v _ => ih.give _

def planOf : Step → List Purpose
  | .completions c => c.shells.map (.script c)

theorem follows_perform (step : Step) (written : List Path) :
    Follows artifact (planOf step) ((k.outside.perform s step written).calls w)
      ((outcome (k.outside.perform s step written).action w).1.2 = .ok ()) := by
  obtain ⟨c⟩ := step
  have hscripts : Keeps artifact _ _ w := k.keeps_scripts s c c.shells
  unfold Keeps at hscripts
  rw [Outside.perform, Traced.calls_bind, action_bind, outcome_bind]
  change Follows _ _ _ (∃ list, (outcome (k.outside.scripts s c c.shells).run.action w).1 =
    .ok list) at hscripts
  rcases h : outcome (k.outside.scripts s c c.shells).run.action w with ⟨e | list, v⟩
  · rw [h] at hscripts
    refine (List.append_nil _).symm ▸ hscripts.mono fun hwell => ?_
    cases hwell
  · rw [h] at hscripts
    exact (List.append_nil _).symm ▸ hscripts.mono fun _ => ⟨list, rfl⟩

theorem follows_performAll (steps : List Step) (written : List Path) :
    Follows artifact (steps.flatMap planOf) ((k.outside.performAll s steps written).calls w)
      ((outcome (k.outside.performAll s steps written).action w).1.2 = .ok ()) := by
  induction steps generalizing written w with
  | nil => exact .nothing
  | cons step rest ih =>
    have hstep : Follows artifact _ _ _ := k.follows_perform (w := w) s step written
    rw [Outside.performAll, Traced.calls_bind, action_bind, outcome_bind, List.flatMap_cons]
    rcases h : outcome (k.outside.perform s step written).action w with ⟨⟨written', e | done⟩, v⟩
    · rw [h] at hstep
      refine (hstep.append (.unbegun not_false) fun hmore => absurd rfl hmore).mono ?_
      intro hwell
      cases hwell
    · rw [h] at hstep
      exact (hstep.append (ih written') fun _ => rfl).mono fun hwell => ⟨rfl, hwell⟩

end Steps

/-! ### Assertions -/

section Assertions

variable (program : Path) (timeout : Millis)

/-- A run goes on after an assertion unless it was stopped. -/
theorem keeps_tryOne (position : Nat) (a : Assertion) (expected : String) :
    Keeps artifact (k.outside.tryOne program position a expected timeout)
      [.assertion position] w := by
  refine Keeps.bind (show Keeps artifact _ [] w from .silent _) fun scratch v _ => ?_
  refine Keeps.ask (fun _ _ => rfl) (fun answer u => ?_) fun answer u result h => ?_
  · rcases answer with e | output
    · rfl
    · change (if output.outcome = .cancelled then _ else _ : TracedAttempt _).run.calls _ = []
      split <;> rfl
  · rintro output rfl hstopped
    rw [plain_bind, plain_lift_act, attempted_bind, attempted_lift] at h
    dsimp only at h
    rw [if_pos hstopped] at h
    cases h

theorem keeps_tryFrom (position : Nat) (l : List (Assertion × String)) :
    Keeps artifact (k.outside.tryFrom program timeout position l)
      ((List.range' position l.length).map .assertion) w := by
  induction l generalizing position w with
  | nil => exact .pure _
  | cons entry rest ih =>
    obtain ⟨a, expected⟩ := entry
    rw [List.length_cons, List.range'_succ, List.map_cons]
    exact (k.keeps_tryOne program timeout position a expected).bind fun result v _ =>
      (ih (position + 1)).give _

theorem keeps_tryAll {assertions : List Assertion} {expectations : List String}
    (h : expectations.length = assertions.length) :
    Keeps artifact (k.outside.tryAll program assertions expectations timeout)
      ((List.range assertions.length).map .assertion) w := by
  have hlength : (assertions.zip expectations).length = assertions.length := by
    rw [List.length_zip, h, Nat.min_self]
  have hall : Keeps artifact _ _ w :=
    k.keeps_tryFrom program timeout 0 (assertions.zip expectations)
  rw [hlength, ← List.range_eq_range'] at hall
  exact hall.give _

/-- An attempt fails only if the files refuse something, or after a call that does not let the run
go on. -/
def Breaks {α : Type} (artifact : Path) (x : TracedAttempt α) (w : World) : Prop :=
  ∀ e, (attempted (plain x) w).1 = .error e →
    (∃ detail, e = .io detail) ∨ ∃ call ∈ x.run.calls w, ¬ call.LetsOn artifact

theorem Breaks.bind {α β : Type} {x : TracedAttempt α} {f : α → TracedAttempt β}
    (hx : Breaks artifact x w)
    (hf : ∀ a v, attempted (plain x) w = (.ok a, v) → Breaks artifact (f a) v) :
    Breaks artifact (x >>= f) w := by
  intro e he
  rw [plain_bind, attempted_bind] at he
  rw [Keeps.calls_bind]
  rcases h : attempted (plain x) w with ⟨e' | a, v⟩
  · rw [h] at he
    cases he
    refine (hx e (by rw [h])).imp_right ?_
    rintro ⟨call, hcall, hstop⟩
    exact ⟨call, List.mem_append_left _ hcall, hstop⟩
  · rw [h] at he
    refine (hf a v h e he).imp_right ?_
    rintro ⟨call, hcall, hstop⟩
    exact ⟨call, List.mem_append_right _ hcall, hstop⟩

theorem Breaks.pure {α : Type} (a : α) : Breaks artifact (Pure.pure a) w := by
  intro e he
  cases he

theorem breaks_tryOne (position : Nat) (a : Assertion) (expected : String) :
    Breaks artifact (k.outside.tryOne program position a expected timeout) w := by
  refine Breaks.bind (fun e he => ?_) fun scratch v _ e he => ?_
  · rw [plain_silent, Attempt.io, attempted_orFail] at he
    rcases h : (outcome (Disk.makeTemporary ".tmp") w).1 with fault | dir
    · rw [h] at he
      cases he
      exact .inl ⟨_, rfl⟩
    · rw [h] at he
      cases he
  · rw [plain_bind, plain_lift, attempted_bind, attempted_lift] at he
    dsimp only at he
    rw [plain_bind, plain_lift_act, attempted_bind, attempted_lift] at he
    dsimp only at he
    refine .inr ⟨_, List.mem_append_left _ List.mem_cons_self, fun hletsOn => ?_⟩
    split at he
    · cases he
    · next output hanswer =>
      rw [if_neg (hletsOn output hanswer)] at he
      cases he

theorem breaks_tryAll (assertions : List Assertion) (expectations : List String) :
    Breaks artifact (k.outside.tryAll program assertions expectations timeout) w := by
  have hfrom : ∀ (position : Nat) (l : List (Assertion × String)) (w : World),
      Breaks artifact (k.outside.tryFrom program timeout position l) w := by
    intro position l
    induction l generalizing position with
    | nil => exact fun w => .pure _
    | cons entry rest ih =>
      exact fun w => (k.breaks_tryOne program timeout position entry.1 entry.2).bind
        fun result v _ => (ih (position + 1) v).bind fun results u _ => .pure _
  exact (hfrom 0 _ w).bind fun results v _ => .pure _

end Assertions

/-! ### The build -/

section Build

variable (f : Formula) (d : Descriptor) (r : Resolution)

theorem ended_of_toolchainFailure {program : String} {timeout : Millis} {o : Output}
    (h : toolchainFailure? program timeout o = none) : o.outcome = .exited (.exited 0) := by
  unfold toolchainFailure? at h
  split at h
  · cases h
  · cases h
  · next status hstatus =>
    split at h
    · next hsuccess => rw [hstatus, status.eq_of_success hsuccess]
    · cases h

/-- A run goes on after the toolchain only if it ended well and left the program. -/
theorem keeps_compile (dir : Path) :
    Keeps r.artifact (k.outside.compile k.still f r dir) [.toolchain] w := by
  refine Keeps.bind (show Keeps r.artifact _ [] w from .silent _) fun _ v _ => ?_
  refine Keeps.ask (fun _ _ => rfl) (fun answer u => ?_) fun answer u a h => ?_
  · rcases answer with e | output
    · rfl
    dsimp only
    split
    · rfl
    · change (if _ then _ else _ : TracedAttempt _).run.calls _ = []
      split <;> rfl
  · rcases answer with e | output
    · cases h
    dsimp only at h
    split at h
    · cases h
    · next hwell =>
      rw [plain_bind, plain_lift_act, attempted_bind, attempted_lift] at h
      dsimp only at h
      split at h
      · next hthere => exact ⟨output, rfl, ended_of_toolchainFailure hwell, hthere⟩
      · cases h

theorem keeps_fetchAndCompile (dir : Path) :
    Keeps r.artifact (k.outside.fetchAndCompile k.still f d r dir) [.source, .toolchain] w := by
  have hsource : Keeps r.artifact
      (ExceptT.mk (k.outside.fetch d.source dir k.settings.timeout)) [.source] w :=
    Follows.single rfl fun h => h
  refine hsource.bind fun source v _ => ?_
  exact k.keeps_compile f r source

/-- The gates of a build: every program it needs is found, and its source may be fetched. -/
structure Admits (d : Descriptor) (w : World) : Prop where
  dependencies : ∀ name ∈ d.buildDependencies,
    (Lookup.which? w.files w.here w.env name).isSome = true
  source : k.settings.checkSource d = .ok ()

theorem admits_of_enterBuild {dir : Path} (h : (attempted (k.enterBuild d) w).1 = .ok dir) :
    k.Admits d w := by
  unfold enterBuild at h
  rw [attempted_bind, attempted_mk, checkDependencies, outcome_bind, outcome_get] at h
  dsimp only at h
  cases hfind : d.buildDependencies.find? fun name =>
      (Lookup.which? w.files w.here w.env name).isNone with
  | some name =>
    rw [hfind] at h
    cases h
  | none =>
    rw [hfind] at h
    dsimp only [outcome_pure] at h
    rw [attempted_bind, attempted_mk, outcome_pure] at h
    refine ⟨fun name hname => ?_, ?_⟩
    · have hfound := List.find?_eq_none.1 hfind name hname
      exact Option.isSome_iff_ne_none.2 fun hnone => hfound (Option.isNone_iff_eq_none.2 hnone)
    · cases hsource : k.settings.checkSource d with
      | error e =>
        rw [hsource] at h
        cases h
      | ok => rfl

/-- The build stage keeps to the first part of the plan, and makes no call before its gates. -/
theorem follows_build (s : Session) :
    Follows r.artifact [.source, .toolchain] (((k.outside.build k.still f d r).run s).calls w)
      (∃ a, (outcomeWith (k.build f d r) s w).1 = .ok a) ∧
    (((k.outside.build k.still f d r).run s).calls w ≠ [] → k.Admits d w) := by
  have hcalls : ((k.outside.build k.still f d r).run s).calls w =
      match attempted (k.enterBuild d) w with
      | (.ok dir, v) => (k.outside.fetchAndCompile k.still f d r dir).run.calls v
      | (.error _, _) => [] := by
    rw [Outside.build, calls_bind_cooking, outcomeWith_silent, outcome_run]
    change [] ++ _ = _
    rw [List.nil_append]
    change _ = match attempted (k.still.enterBuild d) w with
      | (.ok dir, v) => (k.outside.fetchAndCompile k.still f d r dir).run.calls v
      | (.error _, _) => []
    rcases attempted (k.still.enterBuild d) w with ⟨e | dir, v⟩
    · rfl
    · change [] ++ ((k.outside.fetchAndCompile k.still f d r dir).run.calls v ++ []) = _
      rw [List.nil_append, List.append_nil]
  have hgiven : (outcomeWith (k.build f d r) s w).1 =
      match attempted (k.enterBuild d) w with
      | (.ok dir, v) => (attempted (k.fetchAndCompile f d r dir) v).1
      | (.error e, _) => .error e := by
    rw [build, outcomeWith_bind, outcomeWith_lift, outcome_run]
    rcases attempted (k.enterBuild d) w with ⟨e | dir, v⟩ <;> rfl
  rw [hcalls, hgiven]
  rcases h : attempted (k.enterBuild d) w with ⟨e | dir, v⟩
  · refine ⟨.unbegun ?_, fun hcalls => absurd rfl hcalls⟩
    rintro ⟨a, ha⟩
    cases ha
  · have hkeeps := k.keeps_fetchAndCompile (w := v) f d r dir
    unfold Keeps at hkeeps
    rw [plain_fetchAndCompile] at hkeeps
    exact ⟨hkeeps, fun _ => k.admits_of_enterBuild d (by rw [h])⟩

end Build

/-! ### The later stages -/

section Later

variable (f : Formula) (r : Resolution) (s : Session)

theorem follows_postInstall :
    Follows r.artifact (f.postInstall.flatMap planOf)
      (((k.outside.postInstall k.still f r).run s).calls w)
      ((outcomeWith (k.postInstall f r) s w).1 = .ok ()) := by
  rw [← plainly_postInstall, Outside.postInstall]
  dsimp only
  rw [calls_bind_cooking]
  change Follows _ _ ((Traced.calls _ w ++ []) ++ ([] ++ [])) _
  rw [List.append_nil, List.append_nil, List.append_nil]
  exact k.follows_performAll _ _ _

/-- The verification tries assertions and judges what they come to, or fails as they do. -/
theorem calls_verify : ((k.outside.verify k.still f r).run s).calls w =
    (k.outside.tryAll r.artifact f.tests r.expectations k.settings.testTimeout).run.calls w := by
  rw [Outside.verify, calls_bind_cooking]
  change (Traced.calls _ w ++ []) ++ _ = _
  rw [List.append_nil]
  refine (congrArg _ ?_).trans (List.append_nil _)
  split <;> rfl

theorem verify_of_error {e : Failure} (h : (attempted (Smoke.run k.launch r.artifact f.tests
    r.expectations k.settings.testTimeout) w).1 = .error e) :
    (outcomeWith (k.verify f r) s w).1 = .error e := by
  rw [verify, outcomeWith_bind, outcomeWith_lift, outcome_run]
  rcases hrun : attempted (Smoke.run k.launch r.artifact f.tests r.expectations
    k.settings.testTimeout) w with ⟨e' | report, v⟩
  · rw [hrun] at h
    cases h
    rfl
  · rw [hrun] at h
    cases h

/-- The verification keeps to the last part of the plan. If it fails before all of that is done, the
files refused something or the last call did not let the run go on. -/
theorem follows_verify (hr : r.expectations.length = f.tests.length) :
    ∃ well, Follows r.artifact ((List.range f.tests.length).map .assertion)
        (((k.outside.verify k.still f r).run s).calls w) well ∧
      ((outcomeWith (k.verify f r) s w).1 = .ok () → well) ∧
      ∀ e, (outcomeWith (k.verify f r) s w).1 = .error e → well ∨ (∃ detail, e = .io detail) ∨
        ∃ call ∈ ((k.outside.verify k.still f r).run s).calls w, ¬ call.LetsOn r.artifact := by
  have hkeeps : Keeps r.artifact _ _ w := k.keeps_tryAll r.artifact k.settings.testTimeout hr
  have hbreaks : Breaks r.artifact _ w :=
    k.breaks_tryAll r.artifact k.settings.testTimeout f.tests r.expectations
  unfold Keeps at hkeeps
  unfold Breaks at hbreaks
  rw [← calls_verify k f r s, plain_tryAll] at hkeeps hbreaks
  refine ⟨_, hkeeps, fun hok => ?_, fun e he => ?_⟩
  all_goals
    rcases htry : (attempted (Smoke.run k.launch r.artifact f.tests r.expectations
      k.settings.testTimeout) w).1 with e' | report
  · rw [k.verify_of_error f r s htry] at hok
    cases hok
  · exact ⟨report, rfl⟩
  · rw [k.verify_of_error f r s htry] at he
    cases he
    exact .inr (hbreaks e htry)
  · exact .inl ⟨report, rfl⟩

end Later

/-! ### The stages of a run -/

section Stage

variable {α : Type} {p : Pipeline} {stage : Stage} {action : TracedCooking (Except Failure α)}
  {s : Session}

theorem calls_run_of_stopped (h : p.state.next? = some stage)
    (hc : (outcomeWith watch.cancelled s w).1 = true) :
    ((p.run Outside.watch stage action).run s).calls w = [] := by
  replace hc : (outcomeWith (plainly Outside.watch.cancelled) s w).1 = true := hc
  unfold Pipeline.run
  rw [if_neg (not_not.2 h), calls_bind_cooking, if_pos hc]
  rfl

theorem calls_run_of_entered (h : p.state.next? = some stage)
    (hc : (outcomeWith watch.cancelled s w).1 = false) :
    ((p.run Outside.watch stage action).run s).calls w = (action.run s).calls w.looked := by
  replace hc : (outcomeWith (plainly Outside.watch.cancelled) s w).1 = false := hc
  unfold Pipeline.run
  rw [if_neg (not_not.2 h), calls_bind_cooking, if_neg (Bool.eq_false_iff.1 hc)]
  exact List.append_nil _

end Stage

/-- What holds of what a run has come to and of its calls however a stage that leads on comes out,
and whatever is done with that, holds: the run is to stop, or the action fails or succeeds. -/
theorem traced_run_bind {α β : Type} {p : Pipeline} {stage : Stage}
    {action : TracedCooking (Except Failure α)} {g : Option α × Pipeline → TracedCooking β}
    {s : Session} {Q : β × Session × World → List Call → Prop} (h : p.state.next? = some stage)
    (stopped : Q (outcomeWith (plainly (g (none, p.fail stage (.cancelled stage.display)))) s
      w.looked) (((g (none, p.fail stage (.cancelled stage.display))).run s).calls w.looked))
    (failed : ∀ e duration t v, outcomeWith (plainly action) s w.looked = (.error e, t, v) →
      Q (outcomeWith (plainly (g (none, ⟨.ofFailure stage e,
          p.records ++ [⟨stage, false, duration⟩], some e⟩))) t v)
        ((action.run s).calls w.looked ++ ((g (none, ⟨.ofFailure stage e,
          p.records ++ [⟨stage, false, duration⟩], some e⟩)).run t).calls v))
    (passed : ∀ a duration t v, outcomeWith (plainly action) s w.looked = (.ok a, t, v) →
      Q (outcomeWith (plainly (g (some a, ⟨.after stage,
          p.records ++ [⟨stage, true, duration⟩], p.failure⟩))) t v)
        ((action.run s).calls w.looked ++ ((g (some a, ⟨.after stage,
          p.records ++ [⟨stage, true, duration⟩], p.failure⟩)).run t).calls v)) :
    Q (outcomeWith (plainly (p.run Outside.watch stage action >>= g)) s w)
      (((p.run Outside.watch stage action >>= g).run s).calls w) := by
  rw [calls_bind_cooking, plainly_bind, outcomeWith_bind, plainly_run]
  cases hc : (outcomeWith watch.cancelled s w).1 with
  | true =>
    rw [Pipeline.outcomeWith_run_of_stopped h hc, calls_run_of_stopped h hc]
    exact stopped
  | false =>
    obtain ⟨duration, hgiven, hleft⟩ := Pipeline.outcomeWith_run_of_entered (plainly action) h hc
    have hrun : outcomeWith (p.run watch stage (plainly action)) s w =
        (p.settle stage (outcomeWith (plainly action) s w.looked).1 duration,
          (outcomeWith (plainly action) s w.looked).2) := Prod.ext hgiven hleft
    rw [hrun, calls_run_of_entered h hc]
    rcases hr : outcomeWith (plainly action) s w.looked with ⟨e | a, t, v⟩
    · exact failed e duration t v hr
    · exact passed a duration t v hr

end Kitchen

/-! ### The plan of a formula -/

namespace Formula

/-- The scripts that a formula wants, step by step and shell by shell. -/
def scriptPlan (f : Formula) : List Purpose := f.postInstall.flatMap Kitchen.planOf

def assertionPlan (f : Formula) : List Purpose := (List.range f.tests.length).map .assertion

def plan (f : Formula) : List Purpose :=
  .source :: .toolchain :: (f.scriptPlan ++ f.assertionPlan)

theorem exists_of_mem_scriptPlan {f : Formula} {p : Purpose} (h : p ∈ f.scriptPlan) :
    ∃ c shell, p = .script c shell := by
  obtain ⟨⟨c⟩, -, hp⟩ := List.mem_flatMap.1 h
  obtain ⟨shell, -, rfl⟩ := List.mem_map.1 hp
  exact ⟨c, shell, rfl⟩

theorem exists_of_mem_assertionPlan {f : Formula} {p : Purpose} (h : p ∈ f.assertionPlan) :
    ∃ position, p = .assertion position := by
  obtain ⟨position, -, rfl⟩ := List.mem_map.1 h
  exact ⟨position, rfl⟩

end Formula

namespace Kitchen

/-- The calls of a run of a formula that was resolved are in order, as far as they go. -/
structure Ordered (k : Kitchen) (f : Formula) (d : Descriptor) (w : World) (r : Resolution)
    (calls : List Call) (report : Report) : Prop where
  /-- There is a call only if the resolution and the gates of the build have been passed. -/
  resolved : Succeeded report.stages .resolve
  admitted : k.Admits d w
  /-- The calls are the first ones of the plan, each made once and in its turn. -/
  planned : calls.map Call.purpose <+: f.plan
  /-- A call that does not let the run go on is the last one. -/
  letsOn : calls.Pairwise fun call _ => call.LetsOn r.artifact
  /-- The toolchain is run when the source was fetched. -/
  compiled : ∀ before answer after rest, calls = before ++ .toolchain answer after :: rest →
    ∃ dir u, before = [.source (.ok dir) u]
  /-- Programs of steps and of assertions are started when the toolchain has ended well and the
  program is there. -/
  built : ∀ before call rest, calls = before ++ call :: rest → call.purpose ≠ .source →
    call.purpose ≠ .toolchain →
    ∃ dir u o v others, before = .source (.ok dir) u :: .toolchain (.ok o) v :: others ∧
      o.outcome = .exited (.exited 0) ∧ (outcome (Disk.isFile r.artifact) v).1 = true
  /-- Assertions are tried when all steps succeeded, and all their scripts were installed. -/
  tried : ∀ position answer after, .assertion position answer after ∈ calls →
    Succeeded report.stages .postInstall ∧ report.installed = f.scriptPlaces r.root
  /-- The next assertion is tried as well however one came out, unless the run was stopped or the
  files refused a directory for it. -/
  onward : ∀ before position answer after, calls = before ++ [.assertion position answer after] →
    (∀ o, answer = .ok o → o.outcome ≠ .cancelled) →
    position + 1 = f.tests.length ∨ ∃ detail, report.failure = some (.io detail)

section Ordered

variable {k : Kitchen} {f : Formula} {d : Descriptor} {w : World} {r : Resolution}
  {report : Report} {build scripts assertions : List Call} {built completed tried : Prop}

/-- The calls of three stages are in order if each keeps to its part of the plan, and is reached
only if all went well before. -/
theorem ordered_of_parts (hresolved : Succeeded report.stages .resolve) (hadmitted : k.Admits d w)
    (hbuild : Follows r.artifact [.source, .toolchain] build built)
    (hscripts : Follows r.artifact f.scriptPlan scripts completed)
    (hassertions : Follows r.artifact f.assertionPlan assertions tried)
    (hbuilt : scripts ++ assertions ≠ [] → built)
    (hcompleted : assertions ≠ [] → completed ∧ Succeeded report.stages .postInstall ∧
      report.installed = f.scriptPlaces r.root)
    (honward : assertions ≠ [] → tried ∨ (∃ detail, report.failure = some (.io detail)) ∨
      ∃ call ∈ assertions, ¬ call.LetsOn r.artifact) :
    k.Ordered f d w r (build ++ (scripts ++ assertions)) report := by
  have hlater := hscripts.append hassertions fun h => (hcompleted h).1
  have hall : Follows r.artifact f.plan (build ++ (scripts ++ assertions))
      (built ∧ completed ∧ tried) := hbuild.append hlater hbuilt
  have hplan : .toolchain ∉ f.scriptPlan ++ f.assertionPlan := by
    intro h
    rcases List.mem_append.1 h with h | h
    · obtain ⟨c, shell, h⟩ := Formula.exists_of_mem_scriptPlan h
      cases h
    · obtain ⟨position, h⟩ := Formula.exists_of_mem_assertionPlan h
      cases h
  -- an assertion among the calls is one of the last stage
  have hmem : ∀ position answer after,
      .assertion position answer after ∈ build ++ (scripts ++ assertions) →
      .assertion position answer after ∈ assertions := by
    intro position answer after h
    rcases List.mem_append.1 h with h | h
    · have hpurpose := hbuild.mem_plan h
      simp [Call.purpose] at hpurpose
    rcases List.mem_append.1 h with h | h
    · obtain ⟨c, shell, hpurpose⟩ := Formula.exists_of_mem_scriptPlan (hscripts.mem_plan h)
      cases hpurpose
    · exact h
  exact {
    resolved := hresolved
    admitted := hadmitted
    planned := hall.planned
    letsOn := hall.letsOn
    compiled := by
      rintro before answer after rest heq
      exact (heq ▸ hall).before_toolchain hplan
    built := by
      rintro before call rest heq hsource htoolchain
      exact (heq ▸ hall).before_other hsource htoolchain
    tried := by
      intro position answer after h
      exact (hcompleted (List.ne_nil_of_mem (hmem _ _ _ h))).2
    onward := by
      intro before position answer after heq hletsOn
      have hlast : .assertion position answer after ∈ assertions :=
        hmem _ _ _ (heq ▸ List.mem_append_right _ List.mem_cons_self)
      obtain ⟨init, call, rfl⟩ : ∃ init call, assertions = init ++ [call] := by
        simpa only [List.concat_eq_append] using
          (List.eq_nil_or_concat _).resolve_left (List.ne_nil_of_mem hlast)
      rw [← List.append_assoc, ← List.append_assoc] at heq
      obtain ⟨-, hcall⟩ := List.append_inj' heq rfl
      obtain rfl : call = .assertion position answer after := List.singleton_inj.1 hcall
      rcases honward (List.ne_nil_of_mem hlast) with htried | hio | ⟨call, hcall, hstop⟩
      · have hplan := congrArg List.getLast? (hassertions.whole htried).1
        rw [List.map_append, List.map_singleton, List.getLast?_concat, Formula.assertionPlan,
          List.getLast?_map, List.getLast?_range] at hplan
        split at hplan
        · cases hplan
        · have hposition : position = f.tests.length - 1 := by
            simpa [Call.purpose] using hplan
          exact .inl (by omega)
      · exact .inr hio
      · rcases List.mem_append.1 hcall with hcall | hcall
        · exact absurd ((List.pairwise_append.1 hassertions.letsOn).2.2 _ hcall _
            List.mem_cons_self) hstop
        · obtain rfl := List.mem_singleton.1 hcall
          exact absurd hletsOn hstop }

theorem ordered_untried (hresolved : Succeeded report.stages .resolve) (hadmitted : k.Admits d w)
    (hbuild : Follows r.artifact [.source, .toolchain] build built)
    (hscripts : Follows r.artifact f.scriptPlan scripts completed)
    (hbuilt : scripts ≠ [] → built) :
    k.Ordered f d w r (build ++ (scripts ++ [])) report :=
  ordered_of_parts hresolved hadmitted hbuild hscripts (.unbegun not_false)
    (fun h => hbuilt (List.append_nil scripts ▸ h)) (fun h => absurd rfl h) fun h => absurd rfl h

end Ordered

/-- Of a run that has come so far, there are no calls, or they are in order. -/
def InOrder (k : Kitchen) (f : Formula) (d : Descriptor) (c : Context) (w : World)
    (calls : List Call) (report : Report) : Prop :=
  calls = [] ∨ ∃ r, Resolution.resolve f d c = .ok r ∧ k.Ordered f d w r calls report

section Stages

variable (k : Kitchen) (f : Formula) (d : Descriptor) (c : Context) (w : World)

/-- The last stage, when the build and all steps went well. -/
theorem inOrder_conclude {r : Resolution} (hr : Resolution.resolve f d c = .ok r) (a : Path)
    (t₁ t₂ t₃ : Nat) {s : Session} {v : World} {build scripts : List Call} {built completed : Prop}
    (hadmitted : k.Admits d w) (hbuild : Follows r.artifact [.source, .toolchain] build built)
    (hbuilt : built) (hscripts : Follows r.artifact f.scriptPlan scripts completed)
    (hcompleted : completed) (hinstalled : s.installed = f.scriptPlaces r.root) {p : Pipeline}
    (hp : p = ⟨.postInstalled,
      [⟨.resolve, true, t₁⟩, ⟨.build, true, t₂⟩, ⟨.postInstall, true, t₃⟩], none⟩) :
    k.InOrder f d c w
      (build ++ (scripts ++ ((k.outside.conclude k.still f r a p).run s).calls v))
      (reportOf d (outcomeWith (plainly (k.outside.conclude k.still f r a p)) s v).1
        (outcomeWith (plainly (k.outside.conclude k.still f r a p)) s v).2.1) := by
  subst hp
  let Q : Course × Session × World → List Call → Prop := fun x calls =>
    k.InOrder f d c w (build ++ (scripts ++ calls)) (reportOf d x.1 x.2.1)
  have hsucceeded : ∀ rest, Succeeded (⟨.resolve, true, t₁⟩ :: ⟨.build, true, t₂⟩ ::
        ⟨.postInstall, true, t₃⟩ :: rest) .resolve ∧
      Succeeded (⟨.resolve, true, t₁⟩ :: ⟨.build, true, t₂⟩ ::
        ⟨.postInstall, true, t₃⟩ :: rest) .postInstall := fun rest => by simp
  obtain ⟨tried, hassertions, htried, hbroken⟩ :=
    k.follows_verify (w := v.looked) f r s (Resolution.length_expectations hr)
  have hkept := k.verify_installed f r s v.looked
  generalize hcalls : ((k.outside.verify k.still f r).run s).calls v.looked = assertions
    at hassertions hbroken
  refine traced_run_bind (Q := Q) rfl ?_ (fun e t₄ u x h => ?_) fun _ t₄ u x h => ?_
  · exact .inr ⟨r, hr, ordered_untried (hsucceeded _).1 hadmitted hbuild hscripts fun _ => hbuilt⟩
  all_goals
    rw [plainly_verify] at h
    rw [h] at hkept htried hbroken
    rw [hcalls]
    change Q _ (assertions ++ [])
    rw [← List.append_nil assertions] at hassertions
  · refine .inr ⟨r, hr, ordered_of_parts (hsucceeded _).1 hadmitted hbuild hscripts hassertions
      (fun _ => hbuilt) (fun _ => ⟨hcompleted, (hsucceeded _).2, hkept.trans hinstalled⟩)
      fun _ => ?_⟩
    rw [List.append_nil]
    exact (hbroken e rfl).imp_right fun h => h.imp_left fun hio => hio.imp fun _ => congrArg some
  · exact .inr ⟨r, hr, ordered_of_parts (hsucceeded _).1 hadmitted hbuild hscripts hassertions
      (fun _ => hbuilt) (fun _ => ⟨hcompleted, (hsucceeded _).2, hkept.trans hinstalled⟩)
      fun _ => .inl (htried rfl)⟩

/-- Part by part the stages of a run keep to the plan. -/
theorem inOrder_stages :
    k.InOrder f d c w (((k.outside.stages k.still f d c).run {}).calls w)
      (reportOf d (outcomeWith (k.stages f d c) {} w).1
        (outcomeWith (k.stages f d c) {} w).2.1) := by
  let Q : Course × Session × World → List Call → Prop := fun x calls =>
    k.InOrder f d c w calls (reportOf d x.1 x.2.1)
  rw [← plainly_stages]
  change Q (outcomeWith (plainly (k.outside.stages k.still f d c)) {} w) _
  refine traced_run_bind (Q := Q) rfl (.inl rfl) (fun e t s v h => .inl rfl) fun r t₁ s v h => ?_
  have hresolution :
      outcomeWith (plainly (pure (Resolution.resolve f d c))) ({} : Session) w.looked =
        (Resolution.resolve f d c, {}, w.looked) := rfl
  rw [hresolution, Prod.mk.injEq, Prod.mk.injEq] at h
  obtain ⟨hr, rfl, rfl⟩ := h
  have hresolved : ∀ rest, Succeeded (⟨.resolve, true, t₁⟩ :: rest) .resolve := fun rest =>
    (succeeded_cons _ _ _).2 (.inl ⟨rfl, rfl⟩)
  obtain ⟨hbuild, hgates⟩ := k.follows_build (w := w.looked.looked) f d r {}
  generalize hcalls : ((k.outside.build k.still f d r).run {}).calls w.looked.looked = build
    at hbuild hgates
  -- the looks at the request to stop leave alone what the gates look at
  replace hgates : build ≠ [] → k.Admits d w := fun h =>
    ⟨(hgates h).dependencies, (hgates h).source⟩
  have hnone : Follows r.artifact f.scriptPlan [] False := .unbegun id
  refine traced_run_bind (Q := fun x calls => Q x ([] ++ calls)) rfl (.inl rfl)
    (fun e t₂ s v h => ?_) fun a t₂ s v h => ?_
  all_goals rw [hcalls]
  · by_cases hsilent : build = []
    · rw [hsilent]
      exact .inl rfl
    · change Q _ (build ++ ([] ++ []))
      exact .inr ⟨r, hr, ordered_untried (hresolved _) (hgates hsilent) hbuild hnone
        fun h => absurd rfl h⟩
  rw [plainly_build] at h
  have hbuilt : ∃ a, (outcomeWith (k.build f d r) {} w.looked.looked).1 = .ok a := ⟨a, by rw [h]⟩
  have hadmitted : k.Admits d w := by
    refine hgates fun hsilent => ?_
    have hwhole := (hbuild.whole hbuilt).1
    rw [hsilent] at hwhole
    cases hwhole
  have hscripts := k.follows_postInstall (w := v.looked) f r s
  obtain ⟨-, hinstalled⟩ := k.postInstall_installs f r s v.looked
  generalize hcalls' : ((k.outside.postInstall k.still f r).run s).calls v.looked = scripts
    at hscripts
  refine traced_run_bind (Q := fun x calls => Q x ([] ++ (build ++ calls))) rfl ?_
    (fun e t₃ s' v' h => ?_) fun _ t₃ s' v' h => ?_
  · change Q _ (build ++ ([] ++ []))
    exact .inr ⟨r, hr, ordered_untried (hresolved _) hadmitted hbuild hnone fun _ => hbuilt⟩
  all_goals rw [hcalls']
  · change Q _ (build ++ (scripts ++ []))
    exact .inr ⟨r, hr, ordered_untried (hresolved _) hadmitted hbuild hscripts fun _ => hbuilt⟩
  rw [plainly_postInstall] at h
  rw [h] at hscripts hinstalled
  exact k.inOrder_conclude f d c w hr a t₁ t₂ t₃ hadmitted hbuild hbuilt hscripts rfl
    (hinstalled rfl) rfl

theorem noting_stages : k.Noting f d c ((k.outside.stages k.still f d c).run {}) := by
  intro w
  let Q : Course × Session × World → List Call → Prop := fun x calls =>
    Noted k.launch (Purpose.Asks k f d c) w.started calls x.2.2.started
  change Q (outcomeWith (plainly (k.outside.stages k.still f d c)) {} w) _
  have hresolution :
      outcomeWith (plainly (pure (Resolution.resolve f d c))) ({} : Session) w.looked =
        (Resolution.resolve f d c, {}, w.looked) := rfl
  refine traced_run_bind (Q := Q) rfl (.nil _) (fun e t s v h => ?_) fun r t s v h => ?_
  all_goals
    rw [hresolution, Prod.mk.injEq, Prod.mk.injEq] at h
    obtain ⟨hr, rfl, rfl⟩ := h
  · exact .nil _
  · exact k.noting_later f d c hr _ {} w.looked

theorem noting_cook : k.Noting f d c (k.traced f d c) :=
  .bind (k.noting_stages f d c) fun given =>
    .bind (.silent (k.still.unstarted_cleanUp given.2)) fun _ => .pure _

end Stages

/-- **The calls of a run are in order.** Whatever the formula, the fetcher and the programs do, and
whenever a stop is asked for: a run that is traced is the run itself, and if it makes a call at all
its calls are the first ones of the plan of the formula, each only after all that has to come
before it has gone well, and none after one that has not. But for those of the fetcher, the programs
that are started are those of the calls, one for each that is not refused and in their order. -/
theorem orderly_cook (k : Kitchen) (f : Formula) (d : Descriptor) (c : Context) :
    (k.traced f d c).action = k.cook f d c ∧
    ∀ w, k.InOrder f d c w ((k.traced f d c).calls w) (outcome (k.cook f d c) w).1 ∧
      Noted k.launch (Purpose.Asks k f d c) w.started ((k.traced f d c).calls w)
        (outcome (k.cook f d c) w).2.started := by
  refine ⟨k.action_cook f d c, fun w => ⟨?_, ?_⟩⟩
  · have hcalls : (k.traced f d c).calls w = ((k.outside.stages k.still f d c).run {}).calls w :=
      List.append_nil _
    rw [hcalls]
    exact k.inOrder_stages f d c w
  · rw [← k.action_cook f d c]
    exact k.noting_cook f d c w

/-! ### A run that makes all of its calls -/

/-- A kitchen whose fetcher has nothing to do, and whose programs answer with one line. -/
def talking : Kitchen where
  settings := { sourceCache := "/cache" }
  launch := .talkative
  fetcher := fun _ dir _ => return dir

/-- A formula with two scripts and two assertions, of which the first does not hold. -/
def talkingFormula : Formula :=
  { Formula.cloned with
    postInstall := [.completions Install.twoShells]
    tests := [{ args := ["--version"], expect := "1.0" },
      { args := ["--help"], expect := "script" }] }

def talkingWorld : World where
  files := {
    entries := [(["tmp"], .directory), (["p"], .directory), (["p", "bin"], .directory),
      (["p", "bin", "demo"], .file {})] }

/-- Both assertions are tried, and the five programs that the run calls are started. -/
theorem orderly_talking :
    let calls := (talking.traced talkingFormula .cloned .first).calls talkingWorld
    let (report, v) := outcome (talking.cook talkingFormula .cloned .first) talkingWorld
    talking.InOrder talkingFormula .cloned .first talkingWorld calls report ∧
      Noted talking.launch (Purpose.Asks talking talkingFormula .cloned .first) [] calls v.started ∧
      calls.map Call.purpose =
        [.source, .toolchain, .script Install.twoShells .bash, .script Install.twoShells .fish,
          .assertion 0, .assertion 1] ∧
      v.started.map (fun launch => launch.command.program) =
        ["go", "/p/bin/demo", "/p/bin/demo", "/p/bin/demo", "/p/bin/demo"] := by
  obtain ⟨hordered, hnoted⟩ := (orderly_cook talking talkingFormula .cloned .first).2 talkingWorld
  exact ⟨hordered, hnoted, by decide +kernel⟩

end Kitchen

end Formulary
