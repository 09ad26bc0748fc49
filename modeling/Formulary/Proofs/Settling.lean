import Formulary.Proofs.Paths

/-!
# Where paths lead by their text

An absolute path without its dots: `..` takes away the name before it, and above the root is the
root. A path is `Within` a directory if its names then start with those of the directory. A relative
path that is put behind a directory leads to places within every directory just if no `..` of it
leads above where it starts: `stays_iff`.
-/

namespace Formulary.Path

/-- One more part after names. -/
def climb (names : List String) (part : String) : List String :=
  if part = ".." then names.dropLast else names ++ [part]

/-- The names of an absolute path without its dots. -/
def settled (p : Path) : List String := p.parts.foldl climb []

/-- A path that leads to a directory, or to a place somewhere below it. -/
structure Within (root p : Path) : Prop where
  absolute : p.isAbsolute = true
  below : root.settled <+: p.settled

instance (root p : Path) : Decidable (Within root p) :=
  decidable_of_iff (p.isAbsolute = true ∧ root.settled <+: p.settled)
    ⟨fun h => ⟨h.1, h.2⟩, fun h => ⟨h.absolute, h.below⟩⟩

/-- Parts that are read so many names below a directory never lead above it. -/
def stays : (depth : Nat) → List String → Bool
  | _, [] => true
  | depth, part :: rest =>
    if part = ".." then 0 < depth && stays (depth - 1) rest else stays (depth + 1) rest

/-! ### Reading parts -/

variable {depth : Nat} {parts : List String}

theorem stays_dropLast (h : stays depth parts = true) : stays depth parts.dropLast = true := by
  induction parts generalizing depth with
  | nil => rfl
  | cons part rest ih =>
    cases rest with
    | nil => rfl
    | cons next rest =>
      rw [List.dropLast_cons_cons, stays]
      rw [stays] at h
      split
      · next hup =>
        rw [if_pos hup, Bool.and_eq_true] at h
        rw [Bool.and_eq_true]
        exact ⟨h.1, ih h.2⟩
      · next hup =>
        rw [if_neg hup] at h
        exact ih h

theorem foldl_climb_of_stays (root below : List String)
    (h : stays below.length parts = true) : root <+: parts.foldl climb (root ++ below) := by
  induction parts generalizing below with
  | nil => exact List.prefix_append root below
  | cons part rest ih =>
    rw [stays] at h
    rw [List.foldl_cons, climb]
    split
    · next hup =>
      rw [if_pos hup, Bool.and_eq_true, decide_eq_true_eq] at h
      rw [List.dropLast_append_of_ne_nil (List.length_pos_iff.1 h.1)]
      refine ih _ ?_
      rw [List.length_dropLast]
      exact h.2
    · next hup =>
      rw [if_neg hup] at h
      rw [List.append_assoc]
      refine ih _ ?_
      rw [List.length_append]
      exact h

theorem mem_of_mem_foldl_climb {name : String} {names : List String}
    (h : name ∈ parts.foldl climb names) : name ∈ names ∨ name ∈ parts := by
  induction parts generalizing names with
  | nil => exact .inl h
  | cons part rest ih =>
    rw [List.foldl_cons, climb] at h
    rcases ih h with h | h
    · split at h
      · exact .inl (List.dropLast_subset _ h)
      · rcases List.mem_append.1 h with h | h
        · exact .inl h
        · exact .inr (List.mem_cons.2 (.inl (List.mem_singleton.1 h)))
    · exact .inr (List.mem_cons_of_mem _ h)

/-- Parts that do not stay lose the name they are read from, if they do not have it themselves. -/
theorem not_mem_foldl_climb {name : String} (below : List String)
    (h : stays below.length parts = false) (hbelow : name ∉ below) (hparts : name ∉ parts) :
    name ∉ parts.foldl climb (name :: below) := by
  induction parts generalizing below with
  | nil => cases h
  | cons part rest ih =>
    rw [List.mem_cons, not_or] at hparts
    rw [stays] at h
    rw [List.foldl_cons, climb]
    split
    · next hup =>
      rw [if_pos hup] at h
      rcases eq_or_ne below [] with rfl | hne
      · -- this is where they lead above the name
        intro hmem
        rcases mem_of_mem_foldl_climb hmem with hmem | hmem
        · cases hmem
        · exact hparts.2 hmem
      · rw [List.dropLast_cons_of_ne_nil hne]
        refine ih _ ?_ (fun hmem => hbelow (List.dropLast_subset _ hmem)) hparts.2
        rw [List.length_dropLast]
        simpa [List.length_pos_iff.2 hne] using h
    · next hup =>
      rw [if_neg hup] at h
      rw [List.cons_append]
      refine ih _ ?_ ?_ hparts.2
      · rw [List.length_append]
        exact h
      · simp [hbelow, hparts.1]

/-! ### A place below a directory -/

variable {root p : Path} {dir name : String}

/-- A name read from a directory leads to no place above where the directory's path starts. -/
structure Stays (dir name : String) : Prop where
  relative : isAbsolute ⟨name⟩ = false
  stays : stays 0 (Path.parts ⟨dir⟩ ++ Path.parts ⟨name⟩) = true

theorem within_of_parts (hp : p.isAbsolute = true) (hparts : p.parts = root.parts ++ parts)
    (h : stays 0 parts = true) : Within root p := by
  refine ⟨hp, ?_⟩
  unfold settled
  rw [hparts, List.foldl_append]
  simpa using foldl_climb_of_stays (root.parts.foldl climb []) [] h

theorem parts_join_join (hdir : isAbsolute ⟨dir⟩ = false) (hname : isAbsolute ⟨name⟩ = false) :
    ((root.join dir).join name).parts = root.parts ++ (Path.parts ⟨dir⟩ ++ Path.parts ⟨name⟩) := by
  rw [parts_join _ hname, parts_join _ hdir, List.append_assoc]

theorem isAbsolute_join_join (hroot : root.isAbsolute = true) (hdir : isAbsolute ⟨dir⟩ = false)
    (hname : isAbsolute ⟨name⟩ = false) : ((root.join dir).join name).isAbsolute = true := by
  rw [isAbsolute_join _ hname, isAbsolute_join _ hdir, hroot]

theorem Stays.within (h : Stays dir name) (hdir : isAbsolute ⟨dir⟩ = false)
    (hroot : root.isAbsolute = true) : Within root ((root.join dir).join name) :=
  within_of_parts (isAbsolute_join_join hroot hdir h.relative)
    (parts_join_join hdir h.relative) h.stays

theorem Stays.parent_within (h : Stays dir name) (hdir : isAbsolute ⟨dir⟩ = false)
    (hparts : Path.parts ⟨dir⟩ ≠ []) (hroot : root.isAbsolute = true)
    (hp : ((root.join dir).join name).parent? = some p) : Within root p := by
  obtain ⟨habs, hdrop⟩ := parent_of_absolute (isAbsolute_join_join hroot hdir h.relative) hp
  refine within_of_parts habs (hdrop.trans ?_) (stays_dropLast h.stays)
  rw [parts_join_join hdir h.relative, List.dropLast_append_of_ne_nil (by simp [hparts])]

theorem exists_fresh (p q : Path) : ∃ name, ProperName name ∧ name ∉ p.parts ∧ name ∉ q.parts := by
  let n := p.text.length + q.text.length + 3
  have hlength : (String.ofList (List.replicate n 'x')).length = n := by simp
  -- it is longer than both
  have hfresh : ∀ r : Path, r.text.length < n → String.ofList (List.replicate n 'x') ∉ r.parts := by
    intro r hr hmem
    obtain ⟨s, hs, heq⟩ := List.mem_map.1 (List.mem_filter.1 hmem).1
    have hle := (Text.of_mem_splitAt hs).1.length_le
    rw [← heq, String.length_ofList] at hlength
    rw [String.length_toList] at hle
    omega
  refine ⟨_, .of_length ?_ (by rw [hlength]; omega), hfresh p (by omega), hfresh q (by omega)⟩
  rw [String.toList_ofList]
  intro hmem
  exact absurd (List.eq_of_mem_replicate hmem) (by decide)

/-- **A name leads to places within every root just if it stays below it.** -/
theorem stays_iff (hdir : isAbsolute ⟨dir⟩ = false) :
    Stays dir name ↔
      ∀ root : Path, root.isAbsolute = true → Within root ((root.join dir).join name) := by
  refine ⟨fun h root hroot => h.within hdir hroot, fun h => ?_⟩
  -- a root of a name that is nowhere else
  obtain ⟨fresh, hfresh, hfreshDir, hfreshName⟩ := exists_fresh ⟨dir⟩ ⟨name⟩
  have hparts : (ofParts true [fresh]).parts = [fresh] :=
    parts_ofParts fun part hpart => List.mem_singleton.1 hpart ▸ hfresh.toIsPart
  have hsettled : climb [] fresh = [fresh] := if_neg hfresh.ne_up
  have hmem : fresh ∈ (((ofParts true [fresh]).join dir).join name).settled := by
    refine (h _ (isAbsolute_ofParts [fresh])).below.subset ?_
    rw [settled, hparts, List.foldl_cons, hsettled]
    exact List.mem_singleton_self fresh
  have hrelative : isAbsolute ⟨name⟩ = false := by
    by_contra habs
    rw [join, if_pos (by simpa using habs)] at hmem
    rcases mem_of_mem_foldl_climb hmem with hmem | hmem
    · cases hmem
    · exact hfreshName hmem
  refine ⟨hrelative, ?_⟩
  by_contra hleaves
  rw [settled, parts_join_join hdir hrelative, hparts, List.foldl_append, List.foldl_cons,
    hsettled] at hmem
  exact not_mem_foldl_climb [] (by simpa using hleaves) List.not_mem_nil
    (by simp [hfreshDir, hfreshName]) hmem

end Formulary.Path
