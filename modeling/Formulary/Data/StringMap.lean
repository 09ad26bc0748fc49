/-!
# Maps between texts

A finite map from texts to texts, kept in ascending order of its keys. The order of texts by code
point is that of their UTF-8 bytes, so listing a map lists it in byte order. `get?_insert` says
what an insertion does, `keys_ascending` that no key is listed twice.
-/

namespace Formulary

/-- Entries with `key` bound to `value`: for an older entry of the key, or at its place in the
order. -/
def insertEntry (key value : String) : List (String × String) → List (String × String)
  | [] => [(key, value)]
  | entry :: rest =>
    if key < entry.1 then (key, value) :: entry :: rest
    else if entry.1 < key then entry :: insertEntry key value rest
    else (key, value) :: rest

/-- Entries in ascending order of their keys. -/
abbrev Ascending (entries : List (String × String)) : Prop :=
  entries.Pairwise fun a b => a.1 < b.1

theorem mem_insertEntry {key value : String} {entries : List (String × String)}
    {entry : String × String} (h : entry ∈ insertEntry key value entries) :
    entry = (key, value) ∨ entry ∈ entries := by
  induction entries with
  | nil => simpa [insertEntry] using h
  | cons e rest ih =>
    rw [insertEntry] at h
    split at h
    · simpa using h
    · split at h
      · rcases List.mem_cons.1 h with rfl | h
        · simp
        · rcases ih h with rfl | h
          · simp
          · simp [h]
      · rcases List.mem_cons.1 h with rfl | h
        · simp
        · simp [h]

theorem ascending_insertEntry (key value : String) {entries : List (String × String)}
    (h : Ascending entries) : Ascending (insertEntry key value entries) := by
  induction entries with
  | nil => simp [insertEntry, Ascending]
  | cons e rest ih =>
    obtain ⟨he, hr⟩ := List.pairwise_cons.1 h
    rw [insertEntry]
    split
    · next hk =>
      refine List.pairwise_cons.2 ⟨fun x hx => ?_, h⟩
      rcases List.mem_cons.1 hx with rfl | hx
      · exact hk
      · exact String.lt_trans hk (he x hx)
    · split
      · next hk =>
        refine List.pairwise_cons.2 ⟨fun x hx => ?_, ih hr⟩
        rcases mem_insertEntry hx with rfl | hx
        · exact hk
        · exact he x hx
      · next hlt hgt =>
        have same : key = e.1 := String.le_antisymm (String.not_lt.1 hgt) (String.not_lt.1 hlt)
        exact List.pairwise_cons.2 ⟨fun x hx => same ▸ he x hx, hr⟩

/-- Looking up in entries after an insertion. -/
theorem lookup_insertEntry (key value k : String) (entries : List (String × String)) :
    (insertEntry key value entries).lookup k =
      if k = key then some value else entries.lookup k := by
  induction entries with
  | nil => by_cases h : k = key <;> simp [insertEntry, h]
  | cons e rest ih =>
    obtain ⟨key', value'⟩ := e
    rw [insertEntry]
    split
    · by_cases h : k = key
      · simp [h]
      · simp [List.lookup_cons, beq_false_of_ne h, h]
    · split
      · next hk =>
        have apart : key' ≠ key := fun same => String.lt_irrefl key (same ▸ hk)
        by_cases h : k = key'
        · simp [h, apart]
        · simp [List.lookup_cons, beq_false_of_ne h, ih]
      · next hlt hgt =>
        have same : key = key' := String.le_antisymm (String.not_lt.1 hgt) (String.not_lt.1 hlt)
        by_cases h : k = key
        · simp [h]
        · simp [List.lookup_cons, ← same, beq_false_of_ne h, h]

/-- A finite map from texts to texts, in ascending order of its keys. -/
structure StringMap where
  /-- The keys with their values. -/
  entries : List (String × String)
  /-- No key comes before a smaller one. -/
  keys_ascending : Ascending entries := by exact List.Pairwise.nil

namespace StringMap

instance : DecidableEq StringMap := fun a b =>
  decidable_of_iff (a.entries = b.entries) (by cases a; cases b; simp)

def empty : StringMap where
  entries := []

instance : Inhabited StringMap := ⟨empty⟩
instance : EmptyCollection StringMap := ⟨empty⟩

def get? (m : StringMap) (key : String) : Option String := m.entries.lookup key

def contains (m : StringMap) (key : String) : Bool := (m.get? key).isSome

/-- The map with `key` bound to `value`, whatever it was bound to. -/
def insert (m : StringMap) (key value : String) : StringMap where
  entries := insertEntry key value m.entries
  keys_ascending := ascending_insertEntry key value m.keys_ascending

/-- An insertion binds its key and leaves every other as it was. -/
theorem get?_insert (m : StringMap) (key value k : String) :
    (m.insert key value).get? k = if k = key then some value else m.get? k :=
  lookup_insertEntry key value k m.entries

def size (m : StringMap) : Nat := m.entries.length

/-- The pairs bound one after another, so that a later one wins. -/
def ofList (pairs : List (String × String)) : StringMap :=
  pairs.foldl (fun m (key, value) => m.insert key value) ∅

end StringMap

end Formulary
