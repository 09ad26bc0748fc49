import Mathlib.Data.List.Forall2
import Mathlib.Tactic.Common

/-!
# Results put together

How a result that was put together from others splits again: which of the parts failed, or what each
of them gave.
-/

namespace Formulary

variable {α β γ ε : Type}

theorem bind_eq_ok {x : Except ε α} {f : α → Except ε β} {b : β} :
    x >>= f = .ok b ↔ ∃ a, x = .ok a ∧ f a = .ok b := by
  rcases x with e | a
  · simp [bind, Except.bind]
  · simp [bind, Except.bind]

theorem bind_eq_error {x : Except ε α} {f : α → Except ε β} {e : ε} :
    x >>= f = .error e ↔ x = .error e ∨ ∃ a, x = .ok a ∧ f a = .error e := by
  rcases x with e' | a
  · simp [bind, Except.bind]
  · simp [bind, Except.bind]

theorem map_eq_ok {x : Except ε α} {f : α → β} {b : β} :
    x.map f = .ok b ↔ ∃ a, x = .ok a ∧ f a = b := by
  rcases x with e | a
  · simp [Except.map]
  · simp [Except.map]

theorem map_eq_error {x : Except ε α} {f : α → β} {e : ε} : x.map f = .error e ↔ x = .error e := by
  rcases x with e' | a
  · simp [Except.map]
  · simp [Except.map]

theorem exists_eq_ok_iff {x : Except ε α} : (∃ a, x = .ok a) ↔ ∀ e, x ≠ .error e := by
  rcases x with e | a
  · simp
  · simp

theorem exists_map_eq_ok {x : Except ε β} {g : β → γ} :
    (∃ c, x.map g = .ok c) ↔ ∃ b, x = .ok b := by
  constructor
  · rintro ⟨c, h⟩
    obtain ⟨b, hb, -⟩ := map_eq_ok.1 h
    exact ⟨b, hb⟩
  · rintro ⟨b, hb⟩
    exact ⟨g b, map_eq_ok.2 ⟨b, hb, rfl⟩⟩

theorem map_bind (x : Except ε α) (f : α → Except ε β) (g : β → γ) :
    (x >>= f).map g = x >>= fun a => (f a).map g := by
  rcases x with e | a <;> rfl

/-! ### Lists worked off item by item -/

section Items

variable {f : α → Except ε β}

theorem mapM_congr {g : α → Except ε β} {l : List α} (h : ∀ a ∈ l, f a = g a) :
    l.mapM f = l.mapM g := by
  induction l with
  | nil => rfl
  | cons a rest ih =>
    obtain ⟨ha, hrest⟩ := List.forall_mem_cons.1 h
    rw [List.mapM_cons, List.mapM_cons, ha, ih hrest]

theorem mapM_eq_ok_iff {l : List α} {bs : List β} :
    l.mapM f = .ok bs ↔ List.Forall₂ (fun a b => f a = .ok b) l bs := by
  induction l generalizing bs with
  | nil =>
    rw [List.forall₂_nil_left_iff]
    exact ⟨fun h => (Except.ok.inj h).symm, fun h => h ▸ rfl⟩
  | cons a rest ih =>
    rw [List.mapM_cons, bind_eq_ok, List.forall₂_cons_left_iff]
    refine exists_congr fun b => ?_
    rw [bind_eq_ok]
    constructor
    · rintro ⟨ha, cs, hcs, h⟩
      exact ⟨cs, ha, ih.1 hcs, (Except.ok.inj h).symm⟩
    · rintro ⟨cs, ha, hcs, rfl⟩
      exact ⟨ha, cs, ih.2 hcs, rfl⟩

theorem mapM_id_eq_ok_iff {l : List (Except ε β)} {bs : List β} :
    l.mapM id = .ok bs ↔ l = bs.map Except.ok := by
  rw [mapM_eq_ok_iff, ← List.forall₂_eq_eq_eq, List.forall₂_map_right_iff]
  rfl

/-- The items that are come to when a list is worked off: all up to the first that fails. -/
def upToFailure (f : α → Except ε β) : List α → List α
  | [] => []
  | a :: rest =>
    match f a with
    | .ok _ => a :: upToFailure f rest
    | .error _ => [a]

theorem initial_upToFailure (f : α → Except ε β) (l : List α) : upToFailure f l <+: l := by
  induction l with
  | nil => exact List.prefix_rfl
  | cons a rest ih =>
    unfold upToFailure
    split
    · exact (List.prefix_cons_inj a).2 ih
    · exact ⟨rest, rfl⟩

/-- What comes after the first item that fails does not matter. -/
theorem mapM_upToFailure (f : α → Except ε β) (l : List α) : (upToFailure f l).mapM f = l.mapM f := by
  induction l with
  | nil => rfl
  | cons a rest ih =>
    unfold upToFailure
    cases ha : f a with
    | ok b => rw [List.mapM_cons, List.mapM_cons, ih]
    | error e =>
      rw [List.mapM_cons, List.mapM_cons, ha]
      rfl

/-- The first item that fails, fails with `e`. -/
def FirstFails (f : α → Except ε β) (l : List α) (e : ε) : Prop :=
  ∃ before a after, l = before ++ a :: after ∧ (∀ x ∈ before, ∃ b, f x = .ok b) ∧ f a = .error e

theorem not_firstFails_nil {e : ε} : ¬ FirstFails f [] e := by
  rintro ⟨before, a, after, hparts, -⟩
  simp at hparts

theorem firstFails_cons {a : α} {rest : List α} {e : ε} :
    FirstFails f (a :: rest) e ↔
      f a = .error e ∨ (∃ b, f a = .ok b) ∧ FirstFails f rest e := by
  constructor
  · rintro ⟨before, x, after, hparts, hbefore, hx⟩
    rcases before with _ | ⟨first, before⟩
    · obtain ⟨rfl, -⟩ := List.cons.inj hparts
      exact .inl hx
    · obtain ⟨rfl, rfl⟩ := List.cons.inj hparts
      obtain ⟨ha, hbefore⟩ := List.forall_mem_cons.1 hbefore
      exact .inr ⟨ha, before, x, after, rfl, hbefore, hx⟩
  · rintro (ha | ⟨ha, before, x, after, rfl, hbefore, hx⟩)
    · exact ⟨[], a, rest, rfl, List.forall_mem_nil _, ha⟩
    · exact ⟨a :: before, x, after, rfl, List.forall_mem_cons.2 ⟨ha, hbefore⟩, hx⟩

/-- The failure of a list is that of the first item that fails. -/
theorem mapM_eq_error_iff {l : List α} {e : ε} : l.mapM f = .error e ↔ FirstFails f l e := by
  induction l with
  | nil =>
    exact iff_of_false (fun h => by cases h) not_firstFails_nil
  | cons a rest ih =>
    rw [List.mapM_cons, bind_eq_error, firstFails_cons, ← ih]
    refine or_congr_right ⟨?_, ?_⟩
    · rintro ⟨b, ha, h⟩
      rcases bind_eq_error.1 h with hrest | ⟨cs, -, h⟩
      · exact ⟨⟨b, ha⟩, hrest⟩
      · cases h
    · rintro ⟨⟨b, ha⟩, hrest⟩
      exact ⟨b, ha, bind_eq_error.2 (.inl hrest)⟩

theorem exists_mapM_eq_ok {l : List α} :
    (∃ bs, l.mapM f = .ok bs) ↔ ∀ a ∈ l, ∃ b, f a = .ok b := by
  induction l with
  | nil => exact iff_of_true ⟨[], rfl⟩ (List.forall_mem_nil _)
  | cons a rest ih =>
    rw [List.forall_mem_cons, ← ih]
    simp only [mapM_eq_ok_iff, List.forall₂_cons_left_iff]
    constructor
    · rintro ⟨_, b, bs, ha, hrest, rfl⟩
      exact ⟨⟨b, ha⟩, bs, hrest⟩
    · rintro ⟨⟨b, ha⟩, bs, hrest⟩
      exact ⟨b :: bs, b, bs, ha, hrest, rfl⟩

theorem firstFails_append {l m : List α} :
    FirstFails f (l ++ m) e ↔
      FirstFails f l e ∨ (∀ a ∈ l, ∃ b, f a = .ok b) ∧ FirstFails f m e := by
  induction l with
  | nil =>
    simp [not_firstFails_nil]
  | cons a rest ih =>
    rw [List.cons_append, firstFails_cons, firstFails_cons, ih, List.forall_mem_cons]
    tauto

theorem firstFails_map {g : γ → α} {l : List γ} :
    FirstFails f (l.map g) e ↔ FirstFails (fun c => f (g c)) l e := by
  induction l with
  | nil => exact iff_of_false not_firstFails_nil not_firstFails_nil
  | cons c rest ih => rw [List.map_cons, firstFails_cons, firstFails_cons, ih]

theorem firstFails_of_map {g : α → β → γ} {l : List α} :
    FirstFails (fun a => (f a).map (g a)) l e ↔ FirstFails f l e := by
  simp only [FirstFails, exists_map_eq_ok, map_eq_error]

/-- What follows after a list fails only if all items of the list can be worked off. -/
theorem mapM_bind_eq_error_iff {l : List α} {k : List β → Except ε γ} {later : Prop}
    (hk : ∀ bs, k bs = .error e ↔ later) :
    l.mapM f >>= k = .error e ↔
      FirstFails f l e ∨ (∀ a ∈ l, ∃ b, f a = .ok b) ∧ later := by
  rw [bind_eq_error, mapM_eq_error_iff, ← exists_mapM_eq_ok, ← exists_and_right]
  simp only [hk]

end Items

end Formulary
