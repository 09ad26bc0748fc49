import Formulary.Install.Completions
import Formulary.Proofs.Machine.Shown
import Formulary.Proofs.Machine.Supervising

/-!
# What is asked of programs

An asking is one of a program for the script of a shell, in the world that those before it have left
(`asking`). Its answer is what the program said (`Asking.said_of_answer`), or the failure of one that
is of no use: `Asking.Fails`. A step asks for its shells in turn, and for no more of them when
one fails: `Answered`.
-/

namespace Formulary.Install

variable {s : Setting} {c : Completions} {shell : Shell} {shells : List Shell} {w v w' : World}

/-! ### Answers -/

def Setting.request (s : Setting) (c : Completions) (shell : Shell) : Command where
  program := (s.programOf c).text
  args := requestArgs c shell
  env := [("SHELL", shell.name)]

/-- A program is asked for the script of a shell, in a world. -/
structure Asking where
  completions : Completions
  shell : Shell
  world : World

namespace Asking

variable (s : Setting) (a : Asking)

def request : Completions × Shell := (a.completions, a.shell)

def place : Path := a.shell.completionPath s.root (s.baseOf a.completions)

def seen : Except Fault Output :=
  (outcome (supervise s.launch (s.request a.completions a.shell) s.timeout) a.world).1

def after : World :=
  (outcome (supervise s.launch (s.request a.completions a.shell) s.timeout) a.world).2

/-- What is made of what a program left: the script, or why there is none. -/
def answer : Except Failure String :=
  match a.seen s with
  | .error fault => .error (unlaunchable a.completions (s.programOf a.completions) fault)
  | .ok o =>
    match o.outcome with
    | .cancelled => .error (.cancelled ("post-install " ++ (Step.completions a.completions).name))
    | .timedOut => .error (unsupported a.completions a.shell)
    | .exited status =>
      if !status.success || Text.blankText o.stdout then
        .error (unsupported a.completions a.shell)
      else .ok o.stdout

def launches : List Launch :=
  match s.launch (s.request a.completions a.shell) a.world.site with
  | .ok _ => [⟨s.request a.completions a.shell, a.world.site⟩]
  | .error _ => []

/-- The program is of no use: it cannot be started, is stopped, has not ended in time, does not end
well, or says nothing. -/
inductive Fails : Failure → Prop
  | unlaunched {fault : Fault} (h : a.seen s = .error fault) :
    Fails (unlaunchable a.completions (s.programOf a.completions) fault)
  | cancelled {o : Output} (h : a.seen s = .ok o) (ho : o.outcome = .cancelled) :
    Fails (.cancelled ("post-install " ++ (Step.completions a.completions).name))
  | timedOut {o : Output} (h : a.seen s = .ok o) (ho : o.outcome = .timedOut) :
    Fails (unsupported a.completions a.shell)
  | unsuccessful {o : Output} {status : ExitStatus} (h : a.seen s = .ok o)
    (ho : o.outcome = .exited status) (hstatus : status.success = false) :
    Fails (unsupported a.completions a.shell)
  | blank {o : Output} {status : ExitStatus} (h : a.seen s = .ok o)
    (ho : o.outcome = .exited status) (hsaid : Text.blankText o.stdout = true) :
    Fails (unsupported a.completions a.shell)

theorem attempted_generate :
    attempted (generate s a.completions a.shell) a.world = (a.answer s, a.after s) := by
  unfold generate answer seen after
  dsimp only
  rw [attempted_bind, attempted_orFail, ← Setting.request]
  rcases outcome (supervise s.launch (s.request a.completions a.shell) s.timeout) a.world with
    ⟨fault | o, u⟩
  · rfl
  dsimp only [Except.mapError]
  cases o.outcome with
  | cancelled => rfl
  | timedOut => rfl
  | exited status =>
    dsimp only
    cases !status.success || Text.blankText o.stdout with
    | true => rfl
    | false => rfl

theorem answer_eq_error_iff {e : Failure} : a.answer s = .error e ↔ a.Fails s e := by
  unfold answer
  constructor
  · intro h
    split at h
    · next fault hseen =>
      cases h
      exact .unlaunched hseen
    next o hseen =>
    split at h
    · next ho =>
      cases h
      exact .cancelled hseen ho
    · next ho =>
      cases h
      exact .timedOut hseen ho
    next status ho =>
    split at h
    · next hfails =>
      cases h
      rw [Bool.or_eq_true, Bool.not_eq_true'] at hfails
      rcases hfails with hstatus | hsaid
      · exact .unsuccessful hseen ho hstatus
      · exact .blank hseen ho hsaid
    · cases h
  · intro h
    cases h with
    | unlaunched h => rw [h]
    | cancelled h ho => rw [h]; dsimp only; rw [ho]
    | timedOut h ho => rw [h]; dsimp only; rw [ho]
    | unsuccessful h ho hstatus => rw [h]; dsimp only; rw [ho]; simp [hstatus]
    | blank h ho hsaid => rw [h]; dsimp only; rw [ho]; simp [hsaid]

theorem said_of_answer {script : String} (h : a.answer s = .ok script) :
    ∃ o status, a.seen s = .ok o ∧ o.outcome = .exited status ∧ status.success = true ∧
      script = o.stdout := by
  unfold answer at h
  split at h
  · cases h
  next o hseen =>
  split at h
  · cases h
  · cases h
  next status ho =>
  split at h
  · cases h
  · next hfine =>
    cases h
    rw [Bool.or_eq_true, Bool.not_eq_true', not_or, Bool.not_eq_false] at hfine
    exact ⟨o, status, hseen, ho, hfine.1, rfl⟩

theorem started_after : (a.after s).started = a.world.started ++ a.launches s := by
  unfold after launches
  rcases supervised s.launch (s.request a.completions a.shell) s.timeout a.world with
    ⟨hsame, e, hlaunch, -⟩ | ⟨p, time, hlaunch, hstarted, -⟩
  · rw [hsame, hlaunch, List.append_nil]
  · rw [hstarted, hlaunch]

end Asking

/-! ### Askings of a step -/

/-- The askings of a step for some shells: they stop at one without an answer. -/
def asking (s : Setting) (c : Completions) : List Shell → World → List Asking
  | [], _ => []
  | shell :: rest, w =>
    ⟨c, shell, w⟩ ::
      match Asking.answer s ⟨c, shell, w⟩ with
      | .ok _ => asking s c rest (Asking.after s ⟨c, shell, w⟩)
      | .error _ => []

/-- Shells are asked for in turn, with what comes of it: the scripts with their places, or the failure
of the last that was asked for. -/
inductive Answered (s : Setting) (c : Completions) : List Shell → World → List Asking → World →
    Except Failure (List (Path × String)) → Prop
  | none (w : World) : Answered s c [] w [] w (.ok [])
  | fails {shell : Shell} {rest : List Shell} {w : World} {e : Failure}
    (h : Asking.answer s ⟨c, shell, w⟩ = .error e) :
    Answered s c (shell :: rest) w [⟨c, shell, w⟩] (Asking.after s ⟨c, shell, w⟩) (.error e)
  | next {shell : Shell} {rest : List Shell} {w v : World} {as : List Asking} {script : String}
    {result : Except Failure (List (Path × String))}
    (h : Asking.answer s ⟨c, shell, w⟩ = .ok script)
    (others : Answered s c rest (Asking.after s ⟨c, shell, w⟩) as v result) :
    Answered s c (shell :: rest) w (⟨c, shell, w⟩ :: as) v
      (result.map ((Asking.place s ⟨c, shell, w⟩, script) :: ·))

def scriptsFor (s : Setting) (c : Completions) (shells : List Shell) :
    Attempt (List (Path × String)) :=
  shells.mapM fun shell => do
    return (shell.completionPath s.root (s.baseOf c), ← generate s c shell)

theorem answered_scriptsFor (s : Setting) (c : Completions) (shells : List Shell) (w : World) :
    Answered s c shells w (asking s c shells w) (attempted (scriptsFor s c shells) w).2
      (attempted (scriptsFor s c shells) w).1 := by
  unfold scriptsFor
  induction shells generalizing w with
  | nil => exact .none w
  | cons shell rest ih =>
    have hgenerate := Asking.attempted_generate s ⟨c, shell, w⟩
    dsimp only at hgenerate
    rw [List.mapM_cons, bind_assoc, attempted_bind, hgenerate, asking]
    cases hanswer : Asking.answer s ⟨c, shell, w⟩ with
    | error e => exact .fails hanswer
    | ok script =>
      -- the scripts of the other shells, or their failure, come after this one
      have hnext := Answered.next hanswer (ih (Asking.after s ⟨c, shell, w⟩))
      dsimp only
      rw [pure_bind, attempted_bind]
      generalize attempted (rest.mapM _) _ = r at hnext ⊢
      obtain ⟨e | list, u⟩ := r
      · exact hnext
      · exact hnext

theorem answered_scripts (s : Setting) (c : Completions) (w : World) :
    Answered s c c.shells w (asking s c c.shells w) (attempted (scripts s c) w).2
      (attempted (scripts s c) w).1 := answered_scriptsFor s c c.shells w

namespace Answered

variable {as : List Asking} {result : Except Failure (List (Path × String))}

theorem completions (h : Answered s c shells w as v result) : ∀ a ∈ as, a.completions = c := by
  induction h with
  | none => simp
  | fails => simp
  | next _ _ ih => exact List.forall_mem_cons.2 ⟨rfl, ih⟩

/-- The programs that are asked are started, in order, and no others. -/
theorem started (h : Answered s c shells w as v result) :
    v.started = w.started ++ as.flatMap (Asking.launches s) := by
  induction h with
  | none => simp
  | fails => rw [Asking.started_after, List.flatMap_singleton]
  | next _ _ ih => rw [ih, Asking.started_after, List.flatMap_cons, List.append_assoc]

theorem spared {places : List Path} (h : Answered s c shells w as v result)
    (has : ∀ a ∈ as, Spared places a.world (a.after s)) : Spared places w v := by
  induction h with
  | none => exact .refl places _
  | fails => exact has _ List.mem_cons_self
  | next _ _ ih =>
    obtain ⟨hfirst, hrest⟩ := List.forall_mem_cons.1 has
    exact hfirst.trans (ih hrest)

theorem of_ok {list : List (Path × String)} (h : Answered s c shells w as v result)
    (hresult : result = .ok list) :
    as.map Asking.request = shells.map (c, ·) ∧
      list.map Prod.fst = shells.map (·.completionPath s.root (s.baseOf c)) ∧
      List.Forall₂ (fun a entry => entry.1 = a.place s ∧ a.answer s = .ok entry.2) as list := by
  induction h generalizing list with
  | none =>
    cases hresult
    exact ⟨rfl, rfl, .nil⟩
  | fails => cases hresult
  | next hanswer _ ih =>
    obtain ⟨rest, hrest, rfl⟩ := map_eq_ok.1 hresult
    obtain ⟨hrequests, hplaces, hgiven⟩ := ih hrest
    exact ⟨congrArg _ hrequests, congrArg _ hplaces, .cons ⟨rfl, hanswer⟩ hgiven⟩

theorem of_error {e : Failure} (h : Answered s c shells w as v result)
    (hresult : result = .error e) : ∃ a ∈ as, a.answer s = .error e := by
  induction h with
  | none => cases hresult
  | fails hanswer =>
    cases hresult
    exact ⟨_, List.mem_cons_self, hanswer⟩
  | next _ _ ih =>
    obtain ⟨a, ha, hanswer⟩ := ih (map_eq_error.1 hresult)
    exact ⟨a, List.mem_cons_of_mem _ ha, hanswer⟩

theorem asked (h : Answered s c shells w as v result) :
    as.map Asking.request <+: shells.map (c, ·) := by
  induction h with
  | none => exact List.nil_prefix
  | fails => exact List.prefix_append [_] _
  | next _ _ ih => exact (List.prefix_cons_inj _).2 ih

/-- **No shell is asked for after one that fails.** -/
theorem halts {a : Asking} {e : Failure} (h : Answered s c shells w as v result) (ha : a ∈ as)
    (hfails : a.answer s = .error e) :
    result = .error e ∧ ∃ first later, shells = first ++ a.shell :: later ∧
      as.map Asking.request = (first ++ [a.shell]).map (c, ·) := by
  induction h with
  | none => cases ha
  | @fails shell rest w e' hanswer =>
    obtain rfl := List.mem_singleton.1 ha
    cases hanswer.symm.trans hfails
    exact ⟨rfl, [], rest, rfl, rfl⟩
  | @next shell rest w v as script result hanswer _ ih =>
    obtain rfl | ha := List.mem_cons.1 ha
    · cases hanswer.symm.trans hfails
    · obtain ⟨hresult, first, later, hshells, hrequests⟩ := ih ha
      exact ⟨map_eq_error.2 hresult, shell :: first, later, congrArg _ hshells,
        congrArg _ hrequests⟩

end Answered

end Formulary.Install
