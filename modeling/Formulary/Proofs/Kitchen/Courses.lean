import Formulary.Proofs.Kitchen.Artifact
import Formulary.Proofs.Kitchen.Report

/-!
# The course of a run

A run comes to a stage if those before it let it go on; `Comes` says with which session and in which
world. So there is one stage that it does not get through, or it gets through all of them: `Went`
lists where a run can end, with what led there, and there are no other ends (`went_stages`). Where it
comes to is decided (`Comes.unique`), so whoever knows what one stage comes to knows how the run went
on, and the records tell which stages were entered (`Went.recorded_iff`).
-/

namespace Formulary.Kitchen

/-! ### Stages a run comes to -/

section Courses

variable (k : Kitchen) (f : Formula) (d : Descriptor) (c : Context) (w : World)

/-- A run in a world, whose formula is resolved, comes to a stage with a session and in a world: all
stages before it let it go on. -/
inductive Comes (r : Resolution) : Stage → Session → World → Prop
  | build (hgoing : w.stopRequested w.looks = false) (hr : Resolution.resolve f d c = .ok r) :
    Comes r .build {} w.looked
  | postInstall {u v : World} {s t : Session} (h : Comes r .build s u)
    (hgot : Got (k.build f d r) r.artifact s u t v) : Comes r .postInstall t v
  | verify {u v : World} {s t : Session} (h : Comes r .postInstall s u)
    (hgot : Got (k.postInstall f r) () s u t v) : Comes r .verify t v

/-- Where a run in a world ends: what it comes to, what it keeps, and the world that its stages
leave. -/
inductive Went : Course → Session → World → Prop
  | unresolved {p : Pipeline} {s : Session} {v : World}
    (h : Fell (pure (Resolution.resolve f d c)) .resolve [] {} w p s v) : Went { pipeline := p } s v
  | unbuilt {r : Resolution} {p : Pipeline} {s t : Session} {u v : World} (t₁ : Nat)
    (hcomes : Comes k f d c w r .build s u)
    (h : Fell (k.build f d r) .build [⟨.resolve, true, t₁⟩] s u p t v) :
    Went { pipeline := p, resolution := some r } t v
  | incomplete {r : Resolution} {p : Pipeline} {s t : Session} {u v : World} (t₁ t₂ : Nat)
    (hcomes : Comes k f d c w r .postInstall s u)
    (h : Fell (k.postInstall f r) .postInstall [⟨.resolve, true, t₁⟩, ⟨.build, true, t₂⟩] s u p
      t v) :
    Went { pipeline := p, resolution := some r, artifact := some r.artifact } t v
  | untried {r : Resolution} {p : Pipeline} {s t : Session} {u v : World} (t₁ t₂ t₃ : Nat)
    (hcomes : Comes k f d c w r .verify s u)
    (h : Fell (k.verify f r) .verify
      [⟨.resolve, true, t₁⟩, ⟨.build, true, t₂⟩, ⟨.postInstall, true, t₃⟩] s u p t v) :
    Went { pipeline := p, resolution := some r, artifact := some r.artifact } t v
  | verified {r : Resolution} {s t : Session} {u v : World} (t₁ t₂ t₃ t₄ : Nat)
    (hcomes : Comes k f d c w r .verify s u) (h : Got (k.verify f r) () s u t v) :
    Went {
      pipeline := ⟨.verified, [⟨.resolve, true, t₁⟩, ⟨.build, true, t₂⟩, ⟨.postInstall, true, t₃⟩,
        ⟨.verify, true, t₄⟩], none⟩
      resolution := some r, artifact := some r.artifact } t v

end Courses

variable {k : Kitchen} {f : Formula} {d : Descriptor} {c : Context} {w : World} {r r' : Resolution}

/-! ### Every run -/

theorem eq_artifact_of_build {s : Session} {a : Path}
    (h : (outcomeWith (k.build f d r) s w).1 = .ok a) : a = r.artifact := by
  rw [outcomeWith_build, attempted_bind] at h
  rcases hsource : attempted (k.enterAndFetch d) w with ⟨e | source, v⟩
  · rw [hsource] at h
    cases h
  · rw [hsource] at h
    exact (k.compile_ends f r source v).1 a h

/-- **A run ends in one of these ways.** -/
theorem went_stages (k : Kitchen) (f : Formula) (d : Descriptor) (c : Context) (w : World) :
    Went k f d c w (outcomeWith (k.stages f d c) {} w).1 (outcomeWith (k.stages f d c) {} w).2.1
      (outcomeWith (k.stages f d c) {} w).2.2 := by
  let Q : Course × Session × World → Prop := fun x => Went k f d c w x.1 x.2.1 x.2.2
  change Q (outcomeWith (k.stages f d c) {} w)
  refine run_cases rfl (fun p s v h => .unresolved h) fun r t₁ s v hresolved => ?_
  obtain ⟨hgoing, hresolved⟩ := hresolved
  simp only [outcomeWith_pure, Prod.mk.injEq] at hresolved
  obtain ⟨hr, rfl, rfl⟩ := hresolved
  have hcomes : Comes k f d c w r .build {} w.looked := .build hgoing hr
  refine run_cases rfl (fun p s v h => .unbuilt t₁ hcomes h) fun a t₂ s v hbuilt => ?_
  obtain rfl : a = r.artifact := eq_artifact_of_build (congrArg Prod.fst hbuilt.given)
  refine run_cases rfl (fun p s v h => .incomplete t₁ t₂ (hcomes.postInstall hbuilt) h)
    fun _ t₃ s v hcompleted => ?_
  refine run_cases rfl
    (fun p s v h => .untried t₁ t₂ t₃ ((hcomes.postInstall hbuilt).verify hcompleted) h)
    fun _ t₄ s v hverified => ?_
  exact .verified t₁ t₂ t₃ t₄ ((hcomes.postInstall hbuilt).verify hcompleted) hverified

/-! ### What is decided -/

section Decided

variable {α : Type} {action : Cooking (Except Failure α)} {stage : Stage}
  {records : List StageRecord} {s t t' : Session} {u v v' : World} {p : Pipeline}

theorem Got.unique {a a' : α} (h : Got action a s w t v) (h' : Got action a' s w t' v') :
    a = a' ∧ t = t' ∧ v = v' := by
  have hsame := h.given.symm.trans h'.given
  simp only [Prod.mk.injEq, Except.ok.injEq] at hsame
  exact hsame

theorem Fell.not_got {a : α} (h : Fell action stage records s w p t v) :
    ¬ Got action a s w t' v' := by
  rintro ⟨hgoing, hgiven⟩
  cases h with
  | stopped h =>
    rw [h] at hgoing
    cases hgoing
  | failed _ _ h =>
    have hsame := h.symm.trans hgiven
    simp at hsame

theorem Fell.failedStage (h : Fell action stage records s w p t v) :
    p.state.failedStage? = some stage := by
  cases h with
  | stopped => rfl
  | failed => rfl

theorem Fell.recorded_iff (h : Fell action stage records s w p t v) :
    p.records.map StageRecord.stage =
      records.map StageRecord.stage ++ if w.stopRequested w.looks = true then [] else [stage] := by
  cases h with
  | stopped h => simp [h]
  | failed duration hgoing _ => simp [hgoing]

end Decided

/-- **Where a run comes to a stage is decided.** -/
theorem Comes.unique {stage : Stage} {s s' : Session} {v v' : World}
    (h : Comes k f d c w r stage s v) (h' : Comes k f d c w r' stage s' v') :
    r = r' ∧ s = s' ∧ v = v' := by
  induction h generalizing s' v' with
  | build _ hr =>
    cases h' with
    | build _ hr' => exact ⟨Except.ok.inj (hr.symm.trans hr'), rfl, rfl⟩
  | postInstall _ hgot ih =>
    cases h' with
    | postInstall h' hgot' =>
      obtain ⟨rfl, rfl, rfl⟩ := ih h'
      exact ⟨rfl, (hgot.unique hgot').2⟩
  | verify _ hgot ih =>
    cases h' with
    | verify h' hgot' =>
      obtain ⟨rfl, rfl, rfl⟩ := ih h'
      exact ⟨rfl, (hgot.unique hgot').2⟩

theorem Comes.resolved {stage : Stage} {s : Session} {u : World}
    (h : Comes k f d c w r stage s u) : Resolution.resolve f d c = .ok r := by
  induction h with
  | build _ hr => exact hr
  | postInstall _ _ ih | verify _ _ ih => exact ih

/-! ### Stages that were entered -/

/-- A run in a world enters a stage after its resolution: it comes to it, and is not to stop. -/
def Enters (k : Kitchen) (f : Formula) (d : Descriptor) (c : Context) (w : World) (stage : Stage) :
    Prop :=
  ∃ r s u, Comes k f d c w r stage s u ∧ u.stopRequested u.looks = false

theorem Comes.enters_iff {stage : Stage} {s : Session} {u : World}
    (h : Comes k f d c w r stage s u) :
    Enters k f d c w stage ↔ u.stopRequested u.looks = false := by
  constructor
  · rintro ⟨r', s', u', h', hgoing⟩
    obtain ⟨rfl, rfl, rfl⟩ := h.unique h'
    exact hgoing
  · exact fun hgoing => ⟨r, s, u, h, hgoing⟩

/-! A run that comes to a stage has entered the one before it. -/

theorem Comes.enters_build {s : Session} {u : World} (h : Comes k f d c w r .postInstall s u) :
    Enters k f d c w .build := by
  cases h with
  | postInstall h hgot => exact ⟨r, _, _, h, hgot.going⟩

theorem Comes.enters_postInstall {s : Session} {u : World} (h : Comes k f d c w r .verify s u) :
    Enters k f d c w .postInstall := by
  cases h with
  | verify h hgot => exact ⟨r, _, _, h, hgot.going⟩

theorem enters_build_of_postInstall : Enters k f d c w .postInstall → Enters k f d c w .build :=
  fun ⟨_, _, _, h, _⟩ => h.enters_build

theorem enters_postInstall_of_verify : Enters k f d c w .verify → Enters k f d c w .postInstall :=
  fun ⟨_, _, _, h, _⟩ => h.enters_postInstall

section Fallen

variable {records : List StageRecord} {s t : Session} {u v : World} {p : Pipeline}

theorem not_enters_build (h : Fell (pure (Resolution.resolve f d c)) .resolve records {} w p t v) :
    ¬ Enters k f d c w .build := by
  rintro ⟨r, s, u, hcomes, -⟩
  cases hcomes with
  | build hgoing hr =>
    have hgot : Got (pure (Resolution.resolve f d c)) r {} w {} w.looked := by
      refine ⟨hgoing, ?_⟩
      rw [hr]
      rfl
    exact h.not_got hgot

theorem not_comes_postInstall (hcomes : Comes k f d c w r .build s u)
    (h : Fell (k.build f d r) .build records s u p t v) (s' : Session) (u' : World) :
    ¬ Comes k f d c w r' .postInstall s' u' := by
  rintro (_ | ⟨hcomes', hgot⟩)
  obtain ⟨rfl, rfl, rfl⟩ := hcomes.unique hcomes'
  exact h.not_got hgot

theorem not_enters_postInstall (hcomes : Comes k f d c w r .build s u)
    (h : Fell (k.build f d r) .build records s u p t v) : ¬ Enters k f d c w .postInstall :=
  fun ⟨_, s', u', hnext, _⟩ => not_comes_postInstall hcomes h s' u' hnext

theorem not_comes_verify (hcomes : Comes k f d c w r .postInstall s u)
    (h : Fell (k.postInstall f r) .postInstall records s u p t v) (s' : Session) (u' : World) :
    ¬ Comes k f d c w r' .verify s' u' := by
  rintro (_ | _ | ⟨hcomes', hgot⟩)
  obtain ⟨rfl, rfl, rfl⟩ := hcomes.unique hcomes'
  exact h.not_got hgot

theorem not_enters_verify (hcomes : Comes k f d c w r .postInstall s u)
    (h : Fell (k.postInstall f r) .postInstall records s u p t v) : ¬ Enters k f d c w .verify :=
  fun ⟨_, s', u', hnext, _⟩ => not_comes_verify hcomes h s' u' hnext

end Fallen

/-- **A stage after the resolution was entered just if it was recorded.** -/
theorem Went.recorded_iff {course : Course} {s : Session} {v : World}
    (h : Went k f d c w course s v) {stage : Stage}
    (hstage : stage ∈ [Stage.build, .postInstall, .verify]) :
    stage ∈ course.pipeline.records.map StageRecord.stage ↔ Enters k f d c w stage := by
  simp only [List.mem_cons, List.not_mem_nil, or_false] at hstage
  cases h with
  | unresolved h =>
    have hbuild := not_enters_build (k := k) h
    have hpost := mt enters_build_of_postInstall hbuild
    have hverify := mt enters_postInstall_of_verify hpost
    rw [h.recorded_iff]
    rcases hstage with rfl | rfl | rfl <;> split <;> simp [hbuild, hpost, hverify]
  | unbuilt _ hcomes h =>
    have hpost := not_enters_postInstall hcomes h
    have hverify := mt enters_postInstall_of_verify hpost
    rw [h.recorded_iff]
    rcases hstage with rfl | rfl | rfl <;> split <;> simp [hcomes.enters_iff, *]
  | incomplete _ _ hcomes h =>
    have hverify := not_enters_verify hcomes h
    rw [h.recorded_iff]
    rcases hstage with rfl | rfl | rfl <;> split <;>
      simp [hcomes.enters_build, hcomes.enters_iff, *]
  | untried _ _ _ hcomes h =>
    have hpost := hcomes.enters_postInstall
    have hbuild := enters_build_of_postInstall hpost
    rw [h.recorded_iff]
    rcases hstage with rfl | rfl | rfl <;> split <;> simp [hcomes.enters_iff, *]
  | verified _ _ _ _ hcomes h =>
    have hverify := hcomes.enters_iff.2 h.going
    have hpost := hcomes.enters_postInstall
    have hbuild := enters_build_of_postInstall hpost
    rcases hstage with rfl | rfl | rfl <;> simp [hbuild, hpost, hverify]

/-! ### Causes of failures -/

/-- What made a run in a world fail in a stage: it was to stop, or the work of the stage failed. -/
inductive FailedBy (k : Kitchen) (f : Formula) (d : Descriptor) (c : Context) (w : World) :
    Stage → Failure → Prop
  | stopped (stage : Stage) : FailedBy k f d c w stage (.cancelled stage.display)
  | resolve {e : Failure} (h : Resolution.resolve f d c = .error e) : FailedBy k f d c w .resolve e
  | build {r : Resolution} {s : Session} {u : World} {e : Failure}
    (hcomes : Comes k f d c w r .build s u)
    (h : (outcomeWith (k.build f d r) s u.looked).1 = .error e) : FailedBy k f d c w .build e
  | postInstall {r : Resolution} {s : Session} {u : World} {e : Failure}
    (hcomes : Comes k f d c w r .postInstall s u)
    (h : (outcomeWith (k.postInstall f r) s u.looked).1 = .error e) :
    FailedBy k f d c w .postInstall e
  | verify {r : Resolution} {s : Session} {u : World} {e : Failure}
    (hcomes : Comes k f d c w r .verify s u)
    (h : (outcomeWith (k.verify f r) s u.looked).1 = .error e) : FailedBy k f d c w .verify e

/-- A stage that does not let a run go on fails it, for a cause if its action fails for one. -/
theorem Fell.failedBy {α : Type} {action : Cooking (Except Failure α)} {stage : Stage}
    {records : List StageRecord} {s t : Session} {u v : World} {p : Pipeline}
    (h : Fell action stage records s u p t v)
    (hcause : ∀ e, (outcomeWith action s u.looked).1 = .error e → FailedBy k f d c w stage e) :
    ∃ e, p.state = .ofFailure stage e ∧ p.failure = some e ∧ FailedBy k f d c w stage e := by
  cases h with
  | stopped _ => exact ⟨_, rfl, rfl, .stopped stage⟩
  | failed _ _ h => exact ⟨_, rfl, rfl, hcause _ (congrArg Prod.fst h)⟩

/-- **A run is verified, or it failed in a stage for a cause of that stage.** -/
theorem failedBy_cook (k : Kitchen) (f : Formula) (d : Descriptor) (c : Context) (w : World) :
    (outcome (k.cook f d c) w).1.state = .verified ∨
    ∃ stage e, (outcome (k.cook f d c) w).1.state = .ofFailure stage e ∧
      (outcome (k.cook f d c) w).1.failure = some e ∧ FailedBy k f d c w stage e := by
  have h := went_stages k f d c w
  change (outcomeWith (k.stages f d c) {} w).1.pipeline.state = _ ∨
    ∃ stage e, (outcomeWith (k.stages f d c) {} w).1.pipeline.state = _ ∧
      (outcomeWith (k.stages f d c) {} w).1.pipeline.failure = some e ∧ FailedBy k f d c w stage e
  generalize outcomeWith (k.stages f d c) {} w = ended at h
  obtain ⟨course, s, v⟩ := ended
  dsimp only at h ⊢
  cases h with
  | unresolved h => exact .inr ⟨_, h.failedBy fun e he => .resolve he⟩
  | unbuilt _ hcomes h => exact .inr ⟨_, h.failedBy fun e he => .build hcomes he⟩
  | incomplete _ _ hcomes h => exact .inr ⟨_, h.failedBy fun e he => .postInstall hcomes he⟩
  | untried _ _ _ hcomes h => exact .inr ⟨_, h.failedBy fun e he => .verify hcomes he⟩
  | verified => exact .inl rfl

/-- **A run whose build fails when it is entered, fails as the build does,** and what it leaves is what
the build leaves, but for the temporary directory. -/
theorem cook_of_failed_build {s t : Session} {u v : World} {e : Failure}
    (hcomes : Comes k f d c w r .build s u) (hgoing : u.stopRequested u.looks = false)
    (hbuild : outcomeWith (k.build f d r) s u.looked = (.error e, t, v)) :
    (outcome (k.cook f d c) w).1.state = .ofFailure .build e ∧
    (outcome (k.cook f d c) w).1.failure = some e ∧
    (outcome (k.cook f d c) w).2 = (outcome (k.cleanUp t) v).2 := by
  have h := went_stages k f d c w
  change (outcomeWith (k.stages f d c) {} w).1.pipeline.state = _ ∧
    (outcomeWith (k.stages f d c) {} w).1.pipeline.failure = _ ∧
    (outcome (k.cleanUp (outcomeWith (k.stages f d c) {} w).2.1)
      (outcomeWith (k.stages f d c) {} w).2.2).2 = _
  generalize outcomeWith (k.stages f d c) {} w = ended at h
  obtain ⟨course, s', v'⟩ := ended
  dsimp only at h ⊢
  have hfell : Fell (k.build f d r) .build [] s u _ t v := .failed 0 hgoing hbuild
  have hnone := not_enters_postInstall hcomes hfell
  cases h with
  | unresolved h => exact absurd (hcomes.enters_iff.2 hgoing) (not_enters_build h)
  | unbuilt _ hcomes' h =>
    obtain ⟨rfl, rfl, rfl⟩ := hcomes.unique hcomes'
    cases h with
    | stopped h =>
      rw [h] at hgoing
      cases hgoing
    | failed _ _ h =>
      rw [h] at hbuild
      cases hbuild
      exact ⟨rfl, rfl, rfl⟩
  | incomplete _ _ hcomes' => exact absurd hcomes' (not_comes_postInstall hcomes hfell _ _)
  | untried _ _ _ hcomes' => exact absurd hcomes'.enters_postInstall hnone
  | verified _ _ _ _ hcomes' => exact absurd hcomes'.enters_postInstall hnone

/-- A run fails in its build, which it enters, only if the build itself fails. -/
theorem build_of_failed_cook {s : Session} {u : World} (hcomes : Comes k f d c w r .build s u)
    (hgoing : u.stopRequested u.looks = false)
    (hfailed : (outcome (k.cook f d c) w).1.state.failedStage? = some .build) :
    ∃ e, (outcomeWith (k.build f d r) s u.looked).1 = .error e ∧
      (outcome (k.cook f d c) w).1.failure = some e := by
  have h := went_stages k f d c w
  change (outcomeWith (k.stages f d c) {} w).1.pipeline.state.failedStage? = _ at hfailed
  change ∃ e, _ ∧ (outcomeWith (k.stages f d c) {} w).1.pipeline.failure = some e
  generalize outcomeWith (k.stages f d c) {} w = ended at h hfailed
  obtain ⟨course, s', v'⟩ := ended
  dsimp only at h hfailed ⊢
  cases h with
  | unresolved h => exact absurd (hcomes.enters_iff.2 hgoing) (not_enters_build h)
  | unbuilt _ hcomes' h =>
    obtain ⟨rfl, rfl, rfl⟩ := hcomes.unique hcomes'
    cases h with
    | stopped h =>
      rw [h] at hgoing
      cases hgoing
    | failed _ _ h => exact ⟨_, congrArg Prod.fst h, rfl⟩
  | incomplete _ _ _ h | untried _ _ _ _ h =>
    rw [h.failedStage] at hfailed
    cases hfailed
  | verified => cases hfailed

/-! ### Runs that fail to resolve, and runs that try out their program -/

theorem cook_of_unresolved {e : Failure} (hgoing : w.stopRequested w.looks = false)
    (hr : Resolution.resolve f d c = .error e) :
    (outcome (k.cook f d c) w).1.state = .ofFailure .resolve e := by
  have hnone : ∀ {r stage s u}, ¬ Comes k f d c w r stage s u := fun hcomes => by
    have hresolved := hr.symm.trans hcomes.resolved
    cases hresolved
  have h := went_stages k f d c w
  change (outcomeWith (k.stages f d c) {} w).1.pipeline.state = _
  generalize outcomeWith (k.stages f d c) {} w = ended at h
  obtain ⟨course, s, v⟩ := ended
  dsimp only at h ⊢
  cases h with
  | unresolved h =>
    cases h with
    | stopped h =>
      rw [h] at hgoing
      cases hgoing
    | failed _ _ h =>
      rw [hr] at h
      cases h
      rfl
  | unbuilt _ hcomes => exact absurd hcomes hnone
  | incomplete _ _ hcomes => exact absurd hcomes hnone
  | untried _ _ _ hcomes => exact absurd hcomes hnone
  | verified _ _ _ _ hcomes => exact absurd hcomes hnone

theorem Went.tried {course : Course} {s s' : Session} {u v : World}
    (h : Went k f d c w course s v) (hcomes : Comes k f d c w r .verify s' u)
    (hgoing : u.stopRequested u.looks = false) :
    course.pipeline.state.exitCode =
      (match (outcomeWith (k.verify f r) s' u.looked).1 with
      | .ok _ => 0
      | .error e => e.exitCode .verify) ∧
    (s, v) = (outcomeWith (k.verify f r) s' u.looked).2 := by
  have henters := hcomes.enters_iff.2 hgoing
  have hpost := enters_postInstall_of_verify henters
  cases h with
  | unresolved h => exact absurd (enters_build_of_postInstall hpost) (not_enters_build h)
  | unbuilt _ hcomes' h => exact absurd hpost (not_enters_postInstall hcomes' h)
  | incomplete _ _ hcomes' h => exact absurd henters (not_enters_verify hcomes' h)
  | untried _ _ _ hcomes' h =>
    obtain ⟨rfl, rfl, rfl⟩ := hcomes.unique hcomes'
    cases h with
    | stopped h => cases h.symm.trans hgoing
    | failed _ _ h =>
      rw [h]
      exact ⟨rfl, rfl⟩
  | verified _ _ _ _ hcomes' h =>
    obtain ⟨rfl, rfl, rfl⟩ := hcomes.unique hcomes'
    rw [h.given]
    exact ⟨rfl, rfl⟩

theorem cook_of_tried {s : Session} {u : World} (hcomes : Comes k f d c w r .verify s u)
    (hgoing : u.stopRequested u.looks = false) :
    (outcome (k.cook f d c) w).1.exitCode =
      (match (outcomeWith (k.verify f r) s u.looked).1 with
      | .ok _ => 0
      | .error e => e.exitCode .verify) ∧
    Stage.verify ∈ (outcome (k.cook f d c) w).1.stages.map StageRecord.stage := by
  have h := went_stages k f d c w
  exact ⟨(h.tried hcomes hgoing).1, (h.recorded_iff (by simp)).2 ⟨r, s, u, hcomes, hgoing⟩⟩

/-! ### What is given up -/

theorem started_cleanUp (k : Kitchen) (s : Session) (w : World) :
    (outcome (k.cleanUp s) w).2.started = w.started := by
  unfold cleanUp
  cases s.buildDir with
  | none => rfl
  | some dir =>
    dsimp only
    split
    · obtain ⟨files, hfiles⟩ := onFiles_change (fun fs cwd => fs.removeTree cwd dir) w
      change (outcome (Disk.removeTree dir) w).2.started = _
      unfold Disk.removeTree
      rw [hfiles]
    · rfl

end Formulary.Kitchen
