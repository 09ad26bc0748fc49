import Formulary.Proofs.Maps
import Formulary.Proofs.Text.Order
import Formulary.Resolution

/-!
# The variables of a build

What a key is bound to in a build: its value among the variables that every build has, if it is one
of them (`Builtin`), and otherwise what the formula itself binds it to, if anything. So the
formula's own variables can neither change one that every build has, in whatever order they are
bound, nor be lost: `builtins_win`.
-/

namespace Formulary

/-- A key with its value among the variables every build has. Only a description that is declared
and a commit that is known are there. -/
inductive Builtin (d : Descriptor) (c : Context) : (key value : String) → Prop
  | name : Builtin d c "name" d.name
  | version : Builtin d c "version" d.version
  | desc {text : String} (declared : d.desc = some text) : Builtin d c "desc" text
  | buildDate : Builtin d c "build_date" (Calendar.momentText c.buildDate)
  | tapUser : Builtin d c "tap_user" c.tapUser
  | commit {id : String} (known : c.commit = some id) : Builtin d c "commit" id
  | root : Builtin d c "prefix" c.root.text
  | bin : Builtin d c "bin" c.binDir.text

variable {d : Descriptor} {c : Context} {custom : StringMap} {key value : String}

theorem mem_builtinVariables : (key, value) ∈ builtinVariables d c ↔ Builtin d c key value := by
  simp only [builtinVariables, List.mem_append, List.mem_cons, List.not_mem_nil, or_false,
    Option.mem_toList, Option.map_eq_some_iff, Prod.mk.injEq]
  constructor
  · rintro (((((⟨rfl, rfl⟩ | ⟨rfl, rfl⟩) | ⟨text, h, rfl, rfl⟩) | ⟨rfl, rfl⟩ | ⟨rfl, rfl⟩) |
      ⟨id, h, rfl, rfl⟩) | ⟨rfl, rfl⟩ | ⟨rfl, rfl⟩)
    · exact .name
    · exact .version
    · exact .desc h
    · exact .buildDate
    · exact .tapUser
    · exact .commit h
    · exact .root
    · exact .bin
  · intro h
    cases h <;> simp [*]

theorem nodup_builtinVariables (d : Descriptor) (c : Context) :
    ((builtinVariables d c).map Prod.fst).Nodup := by
  unfold builtinVariables
  cases d.desc <;> cases c.commit <;> simp

/-- What is bound is the last of the pairs with the key, and these are bound after the formula's. -/
theorem get?_bindVariables_eq_or (d : Descriptor) (custom : StringMap) (c : Context)
    (key : String) :
    (bindVariables d custom c).get? key =
      ((builtinVariables d c).reverse.lookup key).or (custom.get? key) := by
  rw [bindVariables, StringMap.ofList_entries, StringMap.get?_foldl_insert]

theorem get?_bindVariables_of_builtin (h : Builtin d c key value) :
    (bindVariables d custom c).get? key = some value := by
  have hlast : (builtinVariables d c).reverse.lookup key = some value :=
    (StringMap.lookup_reverse_eq_some_iff (nodup_builtinVariables d c)).2
      (mem_builtinVariables.2 h)
  rw [get?_bindVariables_eq_or, hlast, Option.some_or]

theorem get?_bindVariables_of_not_builtin (h : ∀ value, ¬ Builtin d c key value) :
    (bindVariables d custom c).get? key = custom.get? key := by
  have hnone : (builtinVariables d c).reverse.lookup key = none := by
    refine Option.eq_none_iff_forall_not_mem.2 fun value hvalue => h value ?_
    exact mem_builtinVariables.1
      ((StringMap.lookup_reverse_eq_some_iff (nodup_builtinVariables d c)).1 hvalue)
  rw [get?_bindVariables_eq_or, hnone, Option.none_or]

/-- **The variables every build has win over the formula's own, and nothing else is lost.** A key
that every build binds has its value from there; any other key has the formula's, or none. The
variables are listed each of them once, in ascending order of the bytes of their keys, and it does
not matter in which order the formula's own were bound. -/
theorem builtins_win (d : Descriptor) (custom : StringMap) (c : Context) :
    (∀ key value, Builtin d c key value → (bindVariables d custom c).get? key = some value) ∧
    (∀ key, (∀ value, ¬ Builtin d c key value) →
      (bindVariables d custom c).get? key = custom.get? key) ∧
    (∀ key value, (key, value) ∈ (bindVariables d custom c).entries ↔
      (bindVariables d custom c).get? key = some value) ∧
    ((bindVariables d custom c).entries.map Prod.fst).Nodup ∧
    (bindVariables d custom c).entries.Pairwise
      (fun entry later => Text.encode entry.1 < Text.encode later.1) ∧
    ∀ pairs : List (String × String), pairs.Perm custom.entries →
      bindVariables d (.ofList pairs) c = bindVariables d custom c := by
  refine ⟨fun key value => get?_bindVariables_of_builtin,
    fun key => get?_bindVariables_of_not_builtin, fun key value => StringMap.mem_entries_iff,
    StringMap.nodup_keys _, ?_, fun pairs hperm => ?_⟩
  · exact (bindVariables d custom c).keys_ascending.imp Text.encode_lt_encode_iff.2
  · rw [StringMap.ofList_of_perm ((hperm.map Prod.fst).nodup_iff.2 custom.nodup_keys) hperm,
      StringMap.ofList_entries]

end Formulary
