import Formulary.Proofs.Install.Asking

/-!
# How steps land

A step has all of its scripts before it writes the first, so a program that fails one of them leaves
none. Writing is another matter: the scripts go to their places one after another, and where the
files refuse one, those before it stay. So a step that fails has either written nothing, and leaves
what its program spares, or it is torn: `landed_run`.
-/

namespace Formulary

/-- What is at a place, unless it is a directory, is there before and after. -/
def LeftAlone (l : Location) (w w' : World) : Prop :=
  ∀ node, node ≠ .directory → (w'.files.get? l = some node ↔ w.files.get? l = some node)

theorem LeftAlone.trans {l : Location} {w v w' : World} (h : LeftAlone l w v)
    (h' : LeftAlone l v w') : LeftAlone l w w' :=
  fun node hnode => (h' node hnode).trans (h node hnode)

theorem Grown.leftAlone {w w' : World} (h : Grown w w') (l : Location) : LeftAlone l w w' :=
  fun node hnode => ⟨fun hl => (h.added l node hl).resolve_left hnode, h.kept l node⟩

namespace Install

variable {s : Setting} {c : Completions} {w v w' : World}

def Setting.places (s : Setting) (c : Completions) : List Path :=
  c.shells.map (·.completionPath s.root (s.baseOf c))

def Setting.allPlaces (s : Setting) (steps : List Step) : List Path :=
  steps.flatMap fun (.completions c) => s.places c

/-! ### Asking for scripts -/

/-- The program of a step is asked for scripts of the step, one after another. -/
inductive Asked (s : Setting) (c : Completions) : World → World → Prop
  | none (w : World) : Asked s c w w
  | next {w w' : World} {shell : Shell} (hshell : shell ∈ c.shells)
    (rest : Asked s c (outcome (supervise s.launch (s.request c shell) s.timeout) w).2 w') :
    Asked s c w w'

theorem Asked.trans (h : Asked s c w v) (h' : Asked s c v w') : Asked s c w w' := by
  induction h with
  | none => exact h'
  | next hshell _ ih => exact .next hshell (ih h')

/-- Whatever the program of a step does when it is asked, it leaves a place as it is. -/
def Setting.Spares (s : Setting) (c : Completions) (l : Location) : Prop :=
  ∀ shell ∈ c.shells, ∀ site process, s.launch (s.request c shell) site = .ok process →
    ∀ time, (process.after time).files.get? l = site.files.get? l

theorem Asked.get? (h : Asked s c w w') {l : Location} (hl : s.Spares c l) :
    w'.files.get? l = w.files.get? l := by
  induction h with
  | none => rfl
  | @next w _ shell hshell _ ih =>
    rw [ih]
    rcases supervised s.launch (s.request c shell) s.timeout w with
      ⟨hsame, -⟩ | ⟨process, time, hlaunch, -, -, hfiles⟩
    · rw [hsame]
    · rw [hfiles]
      exact hl shell hshell _ process hlaunch time

theorem Asked.leftAlone (h : Asked s c w w') {l : Location} (hl : s.Spares c l) :
    LeftAlone l w w' := fun node _ => by
  rw [h.get? hl]

theorem asked_generate {shell : Shell} (hshell : shell ∈ c.shells) (w : World) :
    Asked s c w (attempted (generate s c shell) w).2 := by
  have hgenerate := Asking.attempted_generate s ⟨c, shell, w⟩
  dsimp only at hgenerate
  rw [hgenerate]
  exact .next hshell (.none _)

theorem Answered.toAsked {shells : List Shell} {as : List Asking}
    {result : Except Failure (List (Path × String))} (h : Answered s c shells w as v result)
    (hshells : shells ⊆ c.shells) : Asked s c w v := by
  induction h with
  | none => exact .none _
  | fails => exact .next (List.cons_subset.1 hshells).1 (.none _)
  | next _ _ ih =>
    obtain ⟨hshell, hrest⟩ := List.cons_subset.1 hshells
    exact .next hshell (ih hrest)

/-- The program of a step is asked for scripts until it fails one. -/
def Ungiven (s : Setting) (c : Completions) (w w' : World) (e : Failure) : Prop :=
  ∃ shell ∈ c.shells, ∃ v, Asked s c w v ∧ attempted (generate s c shell) v = (.error e, w')

theorem Ungiven.leftAlone {e : Failure} (h : Ungiven s c w w' e) {l : Location}
    (hl : s.Spares c l) : LeftAlone l w w' := by
  obtain ⟨shell, hshell, v, hasked, hfails⟩ := h
  have hlast : Asked s c v (attempted (generate s c shell) v).2 := asked_generate hshell v
  rw [hfails] at hlast
  exact (hasked.trans hlast).leftAlone hl

theorem Ungiven.after {e : Failure} (hasked : Asked s c w v) (h : Ungiven s c v w' e) :
    Ungiven s c w w' e := by
  obtain ⟨shell, hshell, u, hrest, hfails⟩ := h
  exact ⟨shell, hshell, u, hasked.trans hrest, hfails⟩

theorem Answered.toUngiven {shells : List Shell} {as : List Asking}
    {result : Except Failure (List (Path × String))} {e : Failure}
    (h : Answered s c shells w as v result) (hresult : result = .error e)
    (hshells : shells ⊆ c.shells) : Ungiven s c w v e := by
  induction h with
  | none => cases hresult
  | @fails shell _ w _ hanswer =>
    cases hresult
    have hgenerate := Asking.attempted_generate s ⟨c, shell, w⟩
    rw [hanswer] at hgenerate
    exact ⟨shell, (List.cons_subset.1 hshells).1, w, .none w, hgenerate⟩
  | next _ _ ih =>
    obtain ⟨hshell, hrest⟩ := List.cons_subset.1 hshells
    exact (ih (map_eq_error.1 hresult) hrest).after (.next hshell (.none _))

/-! ### Writing scripts -/

def prepare (p : Path) : Act (Except Fault Unit) :=
  match p.parent? with
  | some parent => Disk.makeAll parent
  | none => pure (.ok ())

theorem grows_prepare (p : Path) : (prepare p).Grows := by
  unfold prepare
  split
  · exact grows_makeAll _
  · exact .pure _

theorem grown_of_prepared {p : Path} {result : Except Fault Unit}
    (h : outcome (prepare p) w = (result, v)) : Grown w v := by
  have hgrown := grows_prepare p w
  rwa [h] at hgrown

/-- Scripts are written to their places, each when the directory it goes to is there. -/
inductive Landed : List (Path × String) → World → World → Prop
  | none (w : World) : Landed [] w w
  | next {p : Path} {script : String} {rest : List (Path × String)} {w v w' : World} {files : Files}
    (prepared : outcome (prepare p) w = (.ok (), v))
    (write : v.files.write v.here p (Text.encode script) = .ok files)
    (landed : Landed rest { v with files } w') : Landed ((p, script) :: rest) w w'

/-- The files refuse a script, or the directory it goes to. -/
inductive Refused (p : Path) (script : String) (w w' : World) (fault : Fault) : Prop
  | directory (h : outcome (prepare p) w = (.error fault, w'))
  | script (prepared : outcome (prepare p) w = (.ok (), w'))
    (h : w'.files.write w'.here p (Text.encode script) = .error fault)

theorem Refused.grown {p : Path} {script : String} {fault : Fault}
    (h : Refused p script w w' fault) : Grown w w' := by
  cases h with
  | directory h => exact grown_of_prepared h
  | script prepared => exact grown_of_prepared prepared

theorem writeScripts_cons (p : Path) (script : String) (rest : List (Path × String))
    (written : List Path) :
    writeScripts ((p, script) :: rest) written = (do
      match ← prepare p with
      | .error e => return (written, .error (Attempt.ioFailure e))
      | .ok _ =>
        match ← Disk.write p (Text.encode script) with
        | .error e => return (written, .error (Attempt.ioFailure e))
        | .ok _ => writeScripts rest (written ++ [p])) := by
  rw [writeScripts]
  unfold prepare
  cases p.parent? <;> rfl

/-- How it goes to write scripts, with the places written to: all of the scripts are written, or
those before the first that the files refuse. -/
inductive Wrote (list : List (Path × String)) (w w' : World) :
    List Path → Except Failure Unit → Prop
  | all (landed : Landed list w w') : Wrote list w w' (list.map Prod.fst) (.ok ())
  | some (first : List (Path × String)) {rest : List (Path × String)} {p : Path} {script : String}
    {v : World} {fault : Fault} (parts : list = first ++ (p, script) :: rest)
    (landed : Landed first w v) (refused : Refused p script v w' fault) :
    Wrote list w w' (first.map Prod.fst) (.error (Attempt.ioFailure fault))

theorem Wrote.cons {p : Path} {script : String} {rest : List (Path × String)} {files : Files}
    {added : List Path} {result : Except Failure Unit}
    (prepared : outcome (prepare p) w = (.ok (), v))
    (write : v.files.write v.here p (Text.encode script) = .ok files)
    (h : Wrote rest { v with files } w' added result) :
    Wrote ((p, script) :: rest) w w' (p :: added) result := by
  cases h with
  | all landed => exact .all (.next prepared write landed)
  | some first parts landed refused =>
    exact .some ((p, script) :: first) (congrArg _ parts) (.next prepared write landed) refused

/-- Scripts are written alike, whatever was written before. -/
theorem wrote_writeScripts (list : List (Path × String)) (w : World) :
    ∃ added result w', (∀ written, outcome (writeScripts list written) w =
        ((written ++ added, result), w')) ∧ Wrote list w w' added result := by
  induction list generalizing w with
  | nil => exact ⟨[], .ok (), w, fun written => by rw [List.append_nil]; rfl, .all (.none w)⟩
  | cons entry rest ih =>
    obtain ⟨p, script⟩ := entry
    simp only [writeScripts_cons, outcome_bind]
    rcases hp : outcome (prepare p) w with ⟨fault | done, v⟩
    · exact ⟨[], _, v, fun written => by rw [List.append_nil]; rfl,
        .some [] rfl (.none w) (.directory hp)⟩
    · simp only [outcome_bind, Disk.write, outcome_change]
      rcases hwrite : v.files.write v.here p (Text.encode script) with fault | files
      · exact ⟨[], _, v, fun written => by rw [List.append_nil]; rfl,
          .some [] rfl (.none w) (.script hp hwrite)⟩
      · obtain ⟨added, result, w', houtcome, hrest⟩ := ih { v with files }
        refine ⟨p :: added, result, w', fun written => ?_, .cons hp hwrite hrest⟩
        rw [houtcome, List.append_assoc, List.singleton_append]

/-! ### Steps -/

/-- How a step goes from a world on: a script fails, or the files refuse one, or all of them land. -/
inductive Went (s : Setting) (c : Completions) (w : World) :
    List Path → Except Failure Unit → World → Prop
  | ungiven {v : World} {e : Failure}
    (answered : Answered s c c.shells w (asking s c c.shells w) v (.error e)) :
    Went s c w [] (.error e) v
  | refused {list : List (Path × String)} {v w' : World} {added : List Path} {e : Failure}
    (answered : Answered s c c.shells w (asking s c c.shells w) v (.ok list))
    (wrote : Wrote list v w' added (.error e)) : Went s c w added (.error e) w'
  | landed {list : List (Path × String)} {v w' : World}
    (answered : Answered s c c.shells w (asking s c c.shells w) v (.ok list))
    (landed : Landed list v w') : Went s c w (s.places c) (.ok ()) w'

theorem went_perform (s : Setting) (c : Completions) (w : World) :
    ∃ added result w', (∀ written, outcome (perform s (.completions c) written) w =
      ((written ++ added, result), w')) ∧ Went s c w added result w' := by
  have hanswered := answered_scripts s c w
  simp only [perform, outcome_bind, outcome_run]
  generalize attempted (scripts s c) w = r at hanswered ⊢
  obtain ⟨e | list, v⟩ := r
  · exact ⟨[], .error e, v, fun written => by rw [List.append_nil]; rfl, .ungiven hanswered⟩
  · obtain ⟨added, result, w', houtcome, hwrote⟩ := wrote_writeScripts list v
    refine ⟨added, result, w', houtcome, ?_⟩
    cases hwrote with
    | all landed =>
      rw [(hanswered.of_ok rfl).2.1]
      exact .landed hanswered landed
    | some first parts landed refused =>
      exact .refused hanswered (.some first parts landed refused)

/-- A step lands: its program gives all scripts, and they are written to their places. -/
def Lands (s : Setting) (c : Completions) (w w' : World) : Prop :=
  ∃ list v, Asked s c w v ∧ list.map Prod.fst = s.places c ∧ Landed list v w'

/-- How a step fails, with the places written to all the same: its program fails a script, and
nothing is written, or the files refuse a script, and those before it are written. -/
inductive Failed (s : Setting) (c : Completions) (w w' : World) : List Path → Failure → Prop
  | ungiven {e : Failure} (h : Ungiven s c w w' e) : Failed s c w w' [] e
  | refused {first rest : List (Path × String)} {p : Path} {script : String} {v u : World}
    {fault : Fault} (asked : Asked s c w v)
    (places : (first ++ (p, script) :: rest).map Prod.fst = s.places c) (landed : Landed first v u)
    (refused : Refused p script u w' fault) :
    Failed s c w w' (first.map Prod.fst) (Attempt.ioFailure fault)

theorem Failed.leftAlone {e : Failure} (h : Failed s c w w' [] e) {l : Location}
    (hl : s.Spares c l) : LeftAlone l w w' := by
  generalize hadded : ([] : List Path) = added at h
  cases h with
  | ungiven h => exact h.leftAlone hl
  | refused asked places landed refused =>
    cases landed with
    | none => exact (asked.leftAlone hl).trans (refused.grown.leftAlone l)
    | next => cases hadded

/-- Only the files make a step fail that has written something. -/
theorem Failed.io_of_ne_nil {added : List Path} {e : Failure} (h : Failed s c w w' added e)
    (hadded : added ≠ []) : ∃ fault, e = Attempt.ioFailure fault := by
  cases h with
  | ungiven => exact absurd rfl hadded
  | refused => exact ⟨_, rfl⟩

theorem Failed.subset {added : List Path} {e : Failure} (h : Failed s c w w' added e) :
    added ⊆ s.places c := by
  cases h with
  | ungiven => exact List.nil_subset _
  | refused asked places landed refused =>
    rw [← places, List.map_append]
    exact List.subset_append_left _ _

/-- How a step goes, with the places written to. -/
inductive Performed (s : Setting) (c : Completions) (w w' : World) :
    List Path → Except Failure Unit → Prop
  | lands (h : Lands s c w w') : Performed s c w w' (s.places c) (.ok ())
  | fails {added : List Path} {e : Failure} (h : Failed s c w w' added e) :
    Performed s c w w' added (.error e)

theorem performed_perform (s : Setting) (c : Completions) (written : List Path) (w : World) :
    ∃ added, (outcome (perform s (.completions c) written) w).1.1 = written ++ added ∧
      Performed s c w (outcome (perform s (.completions c) written) w).2 added
        (outcome (perform s (.completions c) written) w).1.2 := by
  obtain ⟨added, result, w', houtcome, hwent⟩ := went_perform s c w
  have hall : c.shells ⊆ c.shells := List.Subset.refl _
  rw [houtcome]
  refine ⟨added, rfl, ?_⟩
  cases hwent with
  | ungiven answered => exact .fails (.ungiven (answered.toUngiven rfl hall))
  | @refused list _ _ _ _ answered wrote =>
    obtain ⟨-, hplaces, -⟩ := answered.of_ok rfl
    cases wrote with
    | some first parts landed refused =>
      exact .fails (.refused (answered.toAsked hall) (parts ▸ hplaces) landed refused)
  | @landed list v _ answered landed =>
    obtain ⟨-, hplaces, -⟩ := answered.of_ok rfl
    exact .lands ⟨list, v, answered.toAsked hall, hplaces, landed⟩

/-! ### Runs -/

/-- Steps land one after another. -/
inductive Completed (s : Setting) : List Step → World → World → Prop
  | none (w : World) : Completed s [] w w
  | next {c : Completions} {steps : List Step} {w v w' : World} (step : Lands s c w v)
    (rest : Completed s steps v w') : Completed s (.completions c :: steps) w w'

/-- How a run of steps ends, with the places written to: all steps have landed, or those before the
first that failed. -/
inductive Ran (s : Setting) (steps : List Step) (w w' : World) :
    List Path → Except Failure Unit → Prop
  | completed (h : Completed s steps w w') : Ran s steps w w' (s.allPlaces steps) (.ok ())
  | failed (before : List Step) {after : List Step} {c : Completions} {u : World}
    {added : List Path} {e : Failure} (parts : steps = before ++ .completions c :: after)
    (landed : Completed s before w u) (failed : Failed s c u w' added e) :
    Ran s steps w w' (s.allPlaces before ++ added) (.error e)

theorem Ran.cons {steps : List Step} {added : List Path} {result : Except Failure Unit}
    (step : Lands s c w v) (h : Ran s steps v w' added result) :
    Ran s (.completions c :: steps) w w' (s.places c ++ added) result := by
  cases h with
  | completed h => exact .completed (.next step h)
  | failed before parts landed failed =>
    rw [← List.append_assoc]
    exact .failed (.completions c :: before) (congrArg _ parts) (.next step landed) failed

/-- Nothing is written but scripts, and these where they are to go. -/
theorem Ran.subset {steps : List Step} {added : List Path} {result : Except Failure Unit}
    (h : Ran s steps w w' added result) : added ⊆ s.allPlaces steps := by
  cases h with
  | completed => exact List.Subset.refl _
  | failed before parts landed failed =>
    rw [parts, Setting.allPlaces, Setting.allPlaces, List.flatMap_append, List.flatMap_cons]
    refine List.append_subset.2 ⟨List.subset_append_left _ _, ?_⟩
    exact fun p hp => List.mem_append_right _ (List.mem_append_left _ (failed.subset hp))

theorem Ran.places_of_ok {steps : List Step} {added : List Path} {result : Except Failure Unit}
    (h : Ran s steps w w' added result) (hok : result = .ok ()) : added = s.allPlaces steps := by
  cases h with
  | completed => rfl
  | failed => cases hok

theorem ran_performAll (s : Setting) (steps : List Step) (written : List Path) (w : World) :
    ∃ added, (outcome (performAll s steps written) w).1.1 = written ++ added ∧
      Ran s steps w (outcome (performAll s steps written) w).2 added
        (outcome (performAll s steps written) w).1.2 := by
  induction steps generalizing written w with
  | nil => exact ⟨[], (List.append_nil _).symm, .completed (.none w)⟩
  | cons step rest ih =>
    obtain ⟨c⟩ := step
    obtain ⟨first, hfirst, hperformed⟩ := performed_perform s c written w
    rw [performAll, outcome_bind]
    rcases hp : outcome (perform s (.completions c) written) w with ⟨⟨written', e | done⟩, v⟩
    · rw [hp] at hfirst hperformed
      cases hperformed with
      | fails failed => exact ⟨first, hfirst, .failed [] rfl (.none w) failed⟩
    · rw [hp] at hfirst hperformed
      obtain rfl : written' = written ++ first := hfirst
      cases hperformed with
      | lands landed =>
        obtain ⟨added, hadded, hrest⟩ := ih (written ++ s.places c) v
        exact ⟨s.places c ++ added, hadded.trans (List.append_assoc _ _ _), .cons landed hrest⟩

/-- **A step lands completely or not at all, unless the files refuse a script when others of the
step have been written.** Where no step fails, what was written is what the steps write to. Else
the steps before the first that failed have landed; if that one has written nothing, it leaves
every place alone that its program spares, and if it has written something, the files refused the
next script. -/
theorem landed_run (s : Setting) (steps : List Step) (w : World) :
    ((outcome (run s steps) w).1.2 = .ok () →
      (outcome (run s steps) w).1.1 = s.allPlaces steps ∧
      Completed s steps w (outcome (run s steps) w).2) ∧
    ∀ e, (outcome (run s steps) w).1.2 = .error e →
      ∃ before c after u added, steps = before ++ .completions c :: after ∧
        Completed s before w u ∧ Failed s c u (outcome (run s steps) w).2 added e ∧
        (outcome (run s steps) w).1.1 = s.allPlaces before ++ added ∧
        (added = [] → ∀ l, s.Spares c l → LeftAlone l u (outcome (run s steps) w).2) ∧
        (added ≠ [] → ∃ fault, e = Attempt.ioFailure fault) := by
  obtain ⟨added, hadded, hran⟩ := ran_performAll s steps [] w
  rw [List.nil_append] at hadded
  rw [run]
  generalize outcome (performAll s steps []) w = r at hadded hran ⊢
  obtain ⟨⟨written, result⟩, w'⟩ := r
  dsimp only at hadded hran ⊢
  subst hadded
  cases hran with
  | completed h => exact ⟨fun _ => ⟨rfl, h⟩, fun e he => by cases he⟩
  | failed before parts landed failed =>
    refine ⟨fun h => (by cases h), fun e he => ?_⟩
    cases he
    refine ⟨_, _, _, _, _, parts, landed, failed, rfl, ?_, failed.io_of_ne_nil⟩
    rintro rfl l hl
    exact failed.leftAlone hl

/-! ### A step that is torn -/

/-- A program that answers everything with one line is asked for its scripts. -/
def talkativeSetting : Setting where
  launch := .talkative
  root := "/p"
  binary := "tool"
  timeout := 1000

def twoShells : Completions where
  shells := [.bash, .fish]

/-- A file is where a directory is needed for the second shell. -/
def fishless : World where
  files := {
    entries := [(["p"], .directory), (["p", "share"], .directory), (["p", "share", "fish"], .file {}),
      (["p", "share", "bash-completion"], .directory),
      (["p", "share", "bash-completion", "completions"], .directory)] }

/-- The script of the first shell is written, and stays. -/
theorem torn_fishless :
    (∀ l, talkativeSetting.Spares twoShells l) ∧
    fishless.files.get? ["p", "share", "bash-completion", "completions", "tool"] = none ∧
    (outcome (run talkativeSetting [.completions twoShells]) fishless).1.1 =
      [⟨"/p/share/bash-completion/completions/tool"⟩] ∧
    (outcome (run talkativeSetting [.completions twoShells]) fishless).1.2 =
      .error (.io "Not a directory (os error 20)") ∧
    (outcome (Disk.read "/p/share/bash-completion/completions/tool")
      (outcome (run talkativeSetting [.completions twoShells]) fishless).2).1 =
        .ok (Text.encode "# script\n") := by
  refine ⟨fun l shell _ site process h time => ?_, by decide +kernel⟩
  cases h
  rfl

end Install

end Formulary
