import Formulary.Proofs.Install.Landing

/-!
# In which order steps go

A run asks for the scripts of its steps in order, and stops asking where one fails (`askings`). The
steps before that one are then done as if there were no others (`Course.halted`), and where none
fails, each path shows the script that was last written where it leads (`Course.finished`), as long as
no program writes there itself.
-/

namespace Formulary.Install

variable {s : Setting} {c : Completions} {steps : List Step} {w v w' : World} {as : List Asking}
  {added : List Path} {result : Except Failure Unit}

/-! ### What is written -/

theorem Landed.started {list : List (Path × String)} (h : Landed list w w') :
    w'.started = w.started := by
  induction h with
  | none => rfl
  | next prepared _ _ ih => exact ih.trans (grown_of_prepared prepared).started

def fileOf (entry : Path × String) : Path × Bytes := (entry.1, Text.encode entry.2)

theorem Landed.holds {list : List (Path × String)} {delivered : List (Path × Bytes)}
    (h : Landed list w w') (hw : w.Holds delivered) : w'.Holds (delivered ++ list.map fileOf) := by
  induction h generalizing delivered with
  | none =>
    rw [List.map_nil, List.append_nil]
    exact hw
  | next prepared write _ ih =>
    have hready := hw.of_grown (grown_of_prepared prepared)
    have hnext := ih (hready.deliver (overwritten_of_write write))
    rwa [List.append_assoc] at hnext

/-! ### Steps -/

theorem Went.of_ok (h : Went s c w added (.ok ()) w') :
    ∃ list v, Answered s c c.shells w (asking s c c.shells w) v (.ok list) ∧ Landed list v w' := by
  cases h with
  | landed answered landed => exact ⟨_, _, answered, landed⟩

theorem Went.started (h : Went s c w added result w') :
    w'.started = w.started ++ (asking s c c.shells w).flatMap (Asking.launches s) := by
  cases h with
  | ungiven answered => exact answered.started
  | refused answered wrote =>
    cases wrote with
    | some first parts landed refused =>
      rw [refused.grown.started, landed.started, answered.started]
  | landed answered landed => rw [landed.started, answered.started]

/-! ### Runs -/

/-- The askings of steps: there are none after a step that fails. -/
def askings (s : Setting) : List Step → World → List Asking
  | [], _ => []
  | .completions c :: rest, w =>
    asking s c c.shells w ++
      match outcome (perform s (.completions c) []) w with
      | ((_, .ok _), v) => askings s rest v
      | ((_, .error _), _) => []

/-- How steps go, one after another, with what is asked and the places written to. -/
inductive Course (s : Setting) : List Step → World → List Asking → List Path →
    Except Failure Unit → World → Prop
  | done (w : World) : Course s [] w [] [] (.ok ()) w
  | halts {c : Completions} {rest : List Step} {w w' : World} {added : List Path} {e : Failure}
    (step : Went s c w added (.error e) w') :
    Course s (.completions c :: rest) w (asking s c c.shells w) added (.error e) w'
  | next {c : Completions} {rest : List Step} {w v w' : World} {as : List Asking}
    {added : List Path} {result : Except Failure Unit}
    (performed : ∀ written, outcome (perform s (.completions c) written) w =
      ((written ++ s.places c, .ok ()), v))
    (step : Went s c w (s.places c) (.ok ()) v) (others : Course s rest v as added result w') :
    Course s (.completions c :: rest) w (asking s c c.shells w ++ as) (s.places c ++ added) result
      w'

theorem course_performAll (s : Setting) (steps : List Step) (w : World) :
    ∃ added result w', (∀ written, outcome (performAll s steps written) w =
      ((written ++ added, result), w')) ∧
      Course s steps w (askings s steps w) added result w' := by
  induction steps generalizing w with
  | nil => exact ⟨[], .ok (), w, fun written => by rw [List.append_nil]; rfl, .done w⟩
  | cons step rest ih =>
    obtain ⟨c⟩ := step
    obtain ⟨added, result, v, hperform, hwent⟩ := went_perform s c w
    simp only [performAll, outcome_bind, hperform, askings]
    cases hwent with
    | ungiven answered =>
      exact ⟨[], _, v, fun written => rfl, by simpa using .halts (.ungiven answered)⟩
    | refused answered wrote =>
      exact ⟨added, _, v, fun written => rfl, by simpa using .halts (.refused answered wrote)⟩
    | landed answered landed =>
      obtain ⟨added', result', w', hrest, hcourse⟩ := ih v
      refine ⟨s.places c ++ added', result', w', fun written => ?_,
        .next hperform (.landed answered landed) hcourse⟩
      dsimp only
      rw [hrest, List.append_assoc]

def requests (steps : List Step) : List (Completions × Shell) :=
  steps.flatMap fun (.completions c) => c.shells.map (c, ·)

/-- What is delivered after an asking: the answer, to its place. -/
def Asking.Delivers (s : Setting) (a : Asking) (entry : Path × Bytes) : Prop :=
  entry.1 = a.place s ∧ ∃ script, a.answer s = .ok script ∧ entry.2 = Text.encode script

namespace Course

variable {places : List Path}

theorem started (h : Course s steps w as added result w') :
    w'.started = w.started ++ as.flatMap (Asking.launches s) := by
  induction h with
  | done => simp
  | halts step => exact step.started
  | next _ step _ ih => rw [ih, step.started, List.flatMap_append, List.append_assoc]

theorem asked (h : Course s steps w as added result w') :
    as.map Asking.request <+: requests steps := by
  induction h with
  | done => exact List.nil_prefix
  | @halts c rest w _ _ _ step =>
    refine List.IsPrefix.trans ?_ (List.prefix_append (c.shells.map (c, ·)) (requests rest))
    cases step with
    | ungiven answered => exact answered.asked
    | refused answered => exact answered.asked
  | @next c rest w _ _ as _ _ _ step _ ih =>
    obtain ⟨list, v, answered, -⟩ := step.of_ok
    rw [List.map_append, (answered.of_ok rfl).1]
    exact (List.prefix_append_right_inj _).2 ih

theorem failure {e : Failure} (h : Course s steps w as added result w')
    (hresult : result = .error e) :
    (∃ a ∈ as, a.answer s = .error e) ∨ ∃ fault, e = Attempt.ioFailure fault := by
  induction h with
  | done => cases hresult
  | halts step =>
    cases hresult
    cases step with
    | ungiven answered => exact .inl (answered.of_error rfl)
    | refused _ wrote =>
      cases wrote with
      | some => exact .inr ⟨_, rfl⟩
  | next _ _ _ ih =>
    obtain ⟨a, ha, hanswer⟩ | hfault := ih hresult
    · exact .inl ⟨a, List.mem_append_right _ ha, hanswer⟩
    · exact .inr hfault

/-- **Where an asking fails, the steps before it have been performed, and nothing else is done.** -/
theorem halted {a : Asking} {e : Failure} (h : Course s steps w as added result w') (ha : a ∈ as)
    (hfails : a.answer s = .error e) :
    result = .error e ∧ ∃ before after first later u,
      steps = before ++ .completions a.completions :: after ∧
      a.completions.shells = first ++ a.shell :: later ∧
      as.map Asking.request = requests before ++ (first ++ [a.shell]).map (a.completions, ·) ∧
      (∀ written, outcome (performAll s before written) w =
        ((written ++ s.allPlaces before, .ok ()), u)) ∧
      added = s.allPlaces before ∧
      ((∀ b ∈ as, Spared places b.world (b.after s)) → Spared places u w') := by
  induction h with
  | done => cases ha
  | @halts c rest w _ _ _ step =>
    cases step with
    | ungiven answered =>
      obtain rfl := answered.completions a ha
      obtain ⟨hresult, first, later, hshells, hrequests⟩ := answered.halts ha hfails
      exact ⟨congrArg _ (Except.error.inj hresult), [], rest, first, later, w, rfl, hshells,
        hrequests, fun written => by rw [Setting.allPlaces, List.flatMap_nil, List.append_nil]; rfl,
        rfl, answered.spared⟩
    | refused answered =>
      obtain ⟨hresult, -⟩ := answered.halts ha hfails
      cases hresult
  | @next c rest w v w' as added result performed step _ ih =>
    obtain ⟨list, u', answered, -⟩ := step.of_ok
    obtain ha | ha := List.mem_append.1 ha
    · obtain ⟨hresult, -⟩ := answered.halts ha hfails
      cases hresult
    obtain ⟨hresult, before, after, first, later, u, rfl, hshells, hrequests, hbefore, rfl,
      hspared⟩ := ih ha
    refine ⟨hresult, .completions c :: before, after, first, later, u, rfl, hshells, ?_,
      fun written => ?_, rfl, fun hall => hspared fun b hb => hall b ?_⟩
    · rw [List.map_append, (answered.of_ok rfl).1, hrequests, ← List.append_assoc]
      rfl
    · -- this step has landed, and the others before the one that fails are performed after it
      rw [performAll, outcome_bind, performed]
      dsimp only
      rw [hbefore, List.append_assoc]
      rfl
    · exact List.mem_append_right _ hb

/-- **Where no step fails, everything is asked for and delivered.** -/
theorem finished (delivered : List (Path × Bytes)) (h : Course s steps w as added result w')
    (hresult : result = .ok ()) (hplaces : s.allPlaces steps ⊆ places)
    (hdelivered : delivered.map Prod.fst ⊆ places) :
    as.map Asking.request = requests steps ∧ added = s.allPlaces steps ∧
      ((∀ a ∈ as, Spared places a.world (a.after s)) → w.Holds delivered →
        ∃ new, List.Forall₂ (Asking.Delivers s) as new ∧ w'.Holds (delivered ++ new)) := by
  induction h generalizing delivered with
  | done =>
    exact ⟨rfl, rfl, fun _ hw => ⟨[], .nil, by rwa [List.append_nil]⟩⟩
  | halts => cases hresult
  | @next c rest w v w' as added result _ step _ ih =>
    obtain ⟨list, u, answered, landed⟩ := step.of_ok
    obtain ⟨hrequests, hlist, hgiven⟩ := answered.of_ok rfl
    have hfiles : (list.map fileOf).map Prod.fst = s.places c := by
      rw [List.map_map]
      exact hlist
    obtain ⟨hfirst, hothers⟩ := List.append_subset.1 hplaces
    obtain ⟨hrest, hadded, hheld⟩ := ih (delivered ++ list.map fileOf) hresult hothers
      (by rw [List.map_append, hfiles]; exact List.append_subset.2 ⟨hdelivered, hfirst⟩)
    refine ⟨?_, congrArg _ hadded, fun hall hw => ?_⟩
    · rw [List.map_append, hrequests, hrest]
      rfl
    · obtain ⟨hspared, hall⟩ := List.forall_mem_append.1 hall
      -- what was held when the scripts were asked for is still held when they are written
      have hv := hw.of_spared ((answered.spared hspared).mono hdelivered)
      obtain ⟨new, hnew, hfinal⟩ := hheld hall (landed.holds hv)
      have hgives : List.Forall₂ (Asking.Delivers s) (asking s c c.shells w) (list.map fileOf) :=
        List.forall₂_map_right_iff.2 (hgiven.imp fun _ entry h => ⟨h.1, entry.2, h.2, rfl⟩)
      refine ⟨list.map fileOf ++ new, List.rel_append hgives hnew, ?_⟩
      rwa [← List.append_assoc]

end Course

/-- How a run of steps goes from a world on. -/
structure Ordered (s : Setting) (steps : List Step) (w : World) : Prop where
  /-- Scripts are asked for in the order of the steps, and in each in that of its shells. -/
  asked : (askings s steps w).map Asking.request <+: requests steps
  /-- The programs that are asked are the ones that are started, if they can be. -/
  started : (outcome (run s steps) w).2.started =
    w.started ++ (askings s steps w).flatMap (Asking.launches s)
  /-- A run fails as one that was asked, or because the files refuse something. -/
  failure : ∀ e, (outcome (run s steps) w).1.2 = .error e →
    (∃ a ∈ askings s steps w, a.Fails s e) ∨ ∃ fault, e = Attempt.ioFailure fault
  /-- Where one that was asked fails, it is the last one. The run ends as it would after the steps
  before, with what these have written, and that is what paths show unless a program wrote there. -/
  halted : ∀ a ∈ askings s steps w, ∀ e, a.Fails s e →
    (outcome (run s steps) w).1.2 = .error e ∧ ∃ before after first later,
      steps = before ++ .completions a.completions :: after ∧
      a.completions.shells = first ++ a.shell :: later ∧
      (askings s steps w).map Asking.request =
        requests before ++ (first ++ [a.shell]).map (a.completions, ·) ∧
      (outcome (run s before) w).1 = (s.allPlaces before, .ok ()) ∧
      (outcome (run s steps) w).1.1 = s.allPlaces before ∧
      ((∀ b ∈ askings s steps w, Spared (s.allPlaces steps) b.world (b.after s)) →
        ∀ p ∈ s.allPlaces steps,
          (outcome (run s steps) w).2.shown p = (outcome (run s before) w).2.shown p)
  /-- Where no step fails, all scripts were asked for and all places written to. Unless a program
  wrote there, each place holds the script that was last written where it leads. -/
  finished : (outcome (run s steps) w).1.2 = .ok () →
    (askings s steps w).map Asking.request = requests steps ∧
    (outcome (run s steps) w).1.1 = s.allPlaces steps ∧
    ((∀ a ∈ askings s steps w, Spared (s.allPlaces steps) a.world (a.after s)) →
      ∃ delivered, List.Forall₂ (Asking.Delivers s) (askings s steps w) delivered ∧
        (outcome (run s steps) w).2.Holds delivered)

/-- **Steps are performed in order, up to the first that fails**, and what was written is what they
wrote. -/
theorem ordered_run (s : Setting) (steps : List Step) (w : World) : Ordered s steps w := by
  obtain ⟨added, result, w', hrun, hcourse⟩ := course_performAll s steps w
  have hrun' : outcome (run s steps) w = ((added, result), w') := hrun []
  refine ⟨hcourse.asked, ?_, fun e he => ?_, fun a ha e hfails => ?_, fun hok => ?_⟩
  · rw [hrun']
    exact hcourse.started
  · rw [hrun'] at he
    obtain ⟨a, ha, hanswer⟩ | hfault := hcourse.failure he
    · exact .inl ⟨a, ha, (a.answer_eq_error_iff s).1 hanswer⟩
    · exact .inr hfault
  · obtain ⟨hresult, before, after, first, later, u, hsteps, hshells, hrequests, hbefore, hadded,
      hspared⟩ := hcourse.halted ha ((a.answer_eq_error_iff s).2 hfails)
    have hbefore' : outcome (run s before) w = ((s.allPlaces before, .ok ()), u) := hbefore []
    rw [hrun']
    refine ⟨hresult, before, after, first, later, hsteps, hshells, hrequests, ?_, hadded,
      fun hall => ?_⟩
    · rw [hbefore']
    · rw [hbefore']
      exact (hspared hall).shown
  · rw [hrun'] at hok ⊢
    obtain ⟨hrequests, hadded, hheld⟩ := hcourse.finished [] hok
      (List.Subset.refl (s.allPlaces steps)) (List.nil_subset _)
    exact ⟨hrequests, hadded, fun hall => hheld hall (.nil w)⟩

/-! ### Steps that write to one place -/

def parrotSetting : Setting :=
  { talkativeSetting with launch := .printing 0 fun c => Text.encode (" ".intercalate c.args) }

theorem spared_parrot (places : List Path) (a : Asking) :
    Spared places a.world (a.after parrotSetting) := by
  unfold Asking.after
  rcases supervised parrotSetting.launch (parrotSetting.request a.completions a.shell)
    parrotSetting.timeout a.world with ⟨hsame, -⟩ | ⟨p, time, hlaunch, -, hcwd, hfiles⟩
  · rw [hsame]
    exact .refl places a.world
  · cases hlaunch
    exact .of_files_eq hcwd hfiles

/-- Of two scripts for one place, the last one stays. -/
theorem ordered_parrot :
    let steps : List Step :=
      [.completions { shells := [.bash] },
        .completions { subcommand := "complete", shells := [.bash] }]
    let place : Path := ⟨"/p/share/bash-completion/completions/tool"⟩
    let w : World := { files := { entries := [(["p"], .directory)] } }
    Ordered parrotSetting steps w ∧
      (∀ a ∈ askings parrotSetting steps w,
        Spared (parrotSetting.allPlaces steps) a.world (a.after parrotSetting)) ∧
      (outcome (run parrotSetting steps) w).1 = ([place, place], .ok ()) ∧
      (outcome (run parrotSetting steps) w).2.shown place =
        some (.file { data := Text.encode "complete bash" }) :=
  ⟨ordered_run _ _ _, fun a _ => spared_parrot _ a, by decide +kernel⟩

end Formulary.Install
