import Formulary.Proofs.Maps
import Formulary.Proofs.Resolution
import Formulary.Proofs.Template

/-!
# Variables without a value

Whether a template can be filled, and with which failure it cannot, depends only on which variables
are bound, and not on what to (`substitute_fails_alike`). So for a formula and its descriptor a
resolution fails alike in all surroundings that agree in whether a commit is known:
`resolve_fails_alike`.
-/

namespace Formulary

/-- What is said of something that may fail when nothing counts but its failure. -/
def failing {α : Type} (x : Except Failure α) : Except Failure Unit := x.map fun _ => ()

theorem failing_eq_error_iff {α : Type} {x : Except Failure α} {e : Failure} :
    failing x = .error e ↔ x = .error e := map_eq_error

/-! ### Templates -/

/-- The same variables are bound. -/
def StringMap.BoundAlike (m m' : StringMap) : Prop :=
  ∀ key, (m.get? key).isSome = (m'.get? key).isSome

section Alike

variable {m m' : StringMap} (h : StringMap.BoundAlike m m')

include h

theorem Template.blocked?_alike (t : Template) :
    t.blocked? m.lookup = t.blocked? m'.lookup := by
  unfold blocked?
  have hkey : (fun key => (m.lookup key).isNone) = fun key => (m'.lookup key).isNone := by
    funext key
    have hbound := h (String.ofList key)
    simp only [StringMap.lookup, ← Option.not_isSome, Option.isSome_map, hbound]
  rw [hkey]

theorem substitute_fails_alike (template : String) :
    failing (substitute template m) = failing (substitute template m') := by
  unfold substitute
  rw [Template.expand_eq, Template.expand_eq, Template.blocked?_alike h]
  cases (Template.parse template.toList).blocked? m'.lookup <;> rfl

theorem Flag.resolve_fails_alike (flag : Flag) :
    failing (flag.resolve m) = failing (flag.resolve m') := by
  have hmap : ∀ (g : String → String) (x : Except Failure String), failing (x.map g) = failing x :=
    fun g x => by cases x <;> rfl
  match flag with
  | .text template => exact substitute_fails_alike h template
  | .symbol name (some template) =>
    exact ((hmap _ _).trans (substitute_fails_alike h template)).trans (hmap _ _).symm
  | .symbol name none =>
    have hbound := h (symbolShortName name)
    simp only [Flag.resolve]
    cases hm : m.get? (symbolShortName name) <;> cases hm' : m'.get? (symbolShortName name) <;>
      simp_all [failing, Except.map]

theorem Formula.outcomes_fail_alike (f : Formula) :
    (f.outcomes m).map failing = (f.outcomes m').map failing := by
  simp only [Formula.outcomes, List.map_append, List.map_map]
  congr 1
  · exact List.map_congr_left fun flag _ => flag.resolve_fails_alike h
  congr 1
  · exact List.map_congr_left fun arg _ => substitute_fails_alike h arg
  congr 1
  · exact List.map_congr_left fun entry _ => substitute_fails_alike h entry.2
  · exact List.map_congr_left fun test _ => substitute_fails_alike h test.expect

end Alike

/-! ### Surroundings -/

theorem isSome_foldl_insert (pairs : List (String × String)) (m : StringMap) (key : String) :
    ((pairs.foldl (fun m (k, value) => m.insert k value) m).get? key).isSome = true ↔
      key ∈ pairs.map Prod.fst ∨ (m.get? key).isSome = true := by
  rw [StringMap.get?_foldl_insert, Option.isSome_or, Bool.or_eq_true, List.lookup_isSome_iff]
  simp [@eq_comm _ key]

/-- Which variables every build has depends on nothing but whether a commit is known. -/
theorem boundAlike_bindVariables (d : Descriptor) (custom : StringMap) {c c' : Context}
    (h : c.commit.isSome = c'.commit.isSome) :
    StringMap.BoundAlike (bindVariables d custom c) (bindVariables d custom c') := by
  have hkeys : (builtinVariables d c).map Prod.fst = (builtinVariables d c').map Prod.fst := by
    unfold builtinVariables
    cases hc : c.commit <;> cases hc' : c'.commit <;> simp_all
  intro key
  unfold bindVariables
  rw [Bool.eq_iff_iff, isSome_foldl_insert, isSome_foldl_insert, hkeys]

/-- **A resolution fails alike wherever, whenever and for whom it is made.** -/
theorem Resolution.resolve_fails_alike (f : Formula) (d : Descriptor) {c c' : Context}
    (h : c.commit.isSome = c'.commit.isSome) :
    failing (resolve f d c) = failing (resolve f d c') := by
  have hforget : ∀ (l : List (Except Failure String)) (e : Failure),
      FirstFails id (l.map failing) e ↔ FirstFails id l e := fun l e =>
    firstFails_map.trans (firstFails_of_map (f := id) (g := fun _ _ => ()))
  have herror : ∀ e, resolve f d c = .error e ↔ resolve f d c' = .error e := fun e => by
    rw [resolve_eq_error_iff, resolve_eq_error_iff, ← hforget,
      Formula.outcomes_fail_alike (boundAlike_bindVariables d f.bindings h) f, hforget]
  cases hr : resolve f d c with
  | error e => rw [(herror e).1 hr]
  | ok r =>
    cases hr' : resolve f d c' with
    | error e =>
      rw [(herror e).2 hr'] at hr
      cases hr
    | ok r' => rfl

end Formulary
