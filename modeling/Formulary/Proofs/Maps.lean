import Formulary.Data.StringMap
import Mathlib.Data.List.Sort
import Mathlib.Tactic.Common

/-!
# Maps by their values

A map is its values: it lists a key with a value just if it has that value (`mem_entries_iff`), so
two maps with the same values are the same (`ext_get?`). Of pairs that are bound one after another
the last one of a key counts (`get?_foldl_insert`), and their order does not matter where every key
comes once: `ofList_of_perm`.
-/

namespace Formulary

namespace StringMap

variable {m m' : StringMap} {key value : String} {pairs : List (String × String)}

/-! ### Values and entries -/

theorem mem_entries_iff : (key, value) ∈ m.entries ↔ m.get? key = some value := by
  rw [get?, List.lookup_eq_some_iff]
  constructor
  · intro h
    obtain ⟨before, after, hsplit⟩ := List.append_of_mem h
    refine ⟨before, after, hsplit, fun entry hentry => ?_⟩
    have hascending := m.keys_ascending
    rw [hsplit] at hascending
    have hlt := (List.pairwise_append.1 hascending).2.2 entry hentry (key, value)
      List.mem_cons_self
    rw [bne_iff_ne]
    exact fun hsame => String.lt_irrefl key (hsame ▸ hlt)
  · rintro ⟨before, after, hsplit, -⟩
    simp [hsplit]

theorem nodup_keys (m : StringMap) : (m.entries.map Prod.fst).Nodup := by
  refine List.pairwise_map.2 (m.keys_ascending.imp fun {a b} hlt hsame => ?_)
  rw [hsame] at hlt
  exact String.lt_irrefl b.1 hlt

theorem ext_get? (h : ∀ key, m.get? key = m'.get? key) : m = m' := by
  have hmem (entry : String × String) : entry ∈ m.entries ↔ entry ∈ m'.entries := by
    obtain ⟨key, value⟩ := entry
    rw [mem_entries_iff, mem_entries_iff, h]
  have hperm : m.entries.Perm m'.entries :=
    (List.perm_ext_iff_of_nodup m.nodup_keys.of_map m'.nodup_keys.of_map).2 hmem
  have hentries : m.entries = m'.entries :=
    hperm.eq_of_pairwise (fun a b _ _ hab hba => absurd hab (String.lt_asymm hba))
      m.keys_ascending m'.keys_ascending
  cases m
  cases m'
  cases hentries
  rfl

/-! ### Pairs bound one after another -/

/-- The last pair of a key counts, and what was bound before where there is none. -/
theorem get?_foldl_insert (pairs : List (String × String)) (m : StringMap) (key : String) :
    (pairs.foldl (fun m (k, value) => m.insert k value) m).get? key =
      (pairs.reverse.lookup key).or (m.get? key) := by
  induction pairs generalizing m with
  | nil => rfl
  | cons pair rest ih =>
    obtain ⟨k, value⟩ := pair
    rw [List.foldl_cons, ih, List.reverse_cons, List.lookup_append, Option.or_assoc, get?_insert]
    by_cases hk : key = k
    · simp [hk]
    · simp [hk, List.lookup_cons, beq_false_of_ne hk]

theorem lookup_reverse_eq_some_iff (hkeys : (pairs.map Prod.fst).Nodup) :
    pairs.reverse.lookup key = some value ↔ (key, value) ∈ pairs := by
  rw [List.lookup_eq_some_iff, ← List.mem_reverse]
  constructor
  · rintro ⟨before, after, hsplit, -⟩
    simp [hsplit]
  · intro h
    obtain ⟨before, after, hsplit⟩ := List.append_of_mem h
    refine ⟨before, after, hsplit, fun entry hentry => ?_⟩
    have hkeys' : (pairs.reverse.map Prod.fst).Nodup := by
      rwa [List.map_reverse, List.nodup_reverse]
    rw [hsplit, List.map_append, List.map_cons, List.nodup_middle, List.nodup_cons] at hkeys'
    rw [bne_iff_ne]
    exact fun hsame =>
      hkeys'.1 (List.mem_append_left _ (List.mem_map.2 ⟨entry, hentry, hsame.symm⟩))

theorem get?_ofList_eq_some_iff (hkeys : (pairs.map Prod.fst).Nodup) :
    (ofList pairs).get? key = some value ↔ (key, value) ∈ pairs := by
  rw [ofList, get?_foldl_insert, ← lookup_reverse_eq_some_iff hkeys]
  exact iff_of_eq (congrArg (· = some value) Option.or_none)

theorem ofList_of_perm (hkeys : (pairs.map Prod.fst).Nodup) {pairs' : List (String × String)}
    (hperm : pairs.Perm pairs') : ofList pairs = ofList pairs' := by
  have hkeys' : (pairs'.map Prod.fst).Nodup := (hperm.map Prod.fst).nodup_iff.1 hkeys
  refine ext_get? fun key => Option.ext fun value => ?_
  rw [get?_ofList_eq_some_iff hkeys, get?_ofList_eq_some_iff hkeys', hperm.mem_iff]

theorem ofList_entries (m : StringMap) : ofList m.entries = m :=
  ext_get? fun key => Option.ext fun value => by
    rw [get?_ofList_eq_some_iff m.nodup_keys, mem_entries_iff]

end StringMap

end Formulary
