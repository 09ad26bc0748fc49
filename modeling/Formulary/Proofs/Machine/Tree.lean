import Formulary.Machine.Files
import Mathlib.Data.List.Induction
import Mathlib.Tactic.Common

/-!
# What is where after a change

Which node the basic changes of a file system leave at a place: putting a node, removing a place,
moving one. A file system is `Sound` if it is a tree and a file at several places is one file;
what programs leave is, and the changes a run makes itself keep it so.
-/

namespace Formulary.Files

variable {fs : Files} {l m : Location} {node : Node}

theorem get?_of_ne_nil (h : l ≠ []) : fs.get? l = fs.entries.lookup l := by
  cases l with
  | nil => exact absurd rfl h
  | cons name rest => rfl

theorem lookup_cons_eq (k m : Location) (node : Node) (rest : List (Location × Node)) :
    ((k, node) :: rest).lookup m = if m = k then some node else rest.lookup m := by
  rw [List.lookup_cons]
  split
  · next h => rw [if_pos (beq_iff_eq.1 h)]
  · next h => rw [if_neg (by simpa using h)]

theorem isPrefixOf_of_below (h : l <+: m) : l.isPrefixOf m = true := List.isPrefixOf_iff_prefix.2 h

theorem isPrefixOf_of_not_below (h : ¬ l <+: m) : l.isPrefixOf m = false := by
  rw [← Bool.not_eq_true, List.isPrefixOf_iff_prefix]
  exact h

/-! ### Putting a node -/

theorem lookup_putEntry_self (l : Location) (node : Node) (entries : List (Location × Node)) :
    (putEntry l node entries).lookup l = some node := by
  induction entries with
  | nil => simp [putEntry]
  | cons entry rest ih =>
    obtain ⟨k, old⟩ := entry
    unfold putEntry
    split
    · simp
    · next h => rw [lookup_cons_eq, if_neg (Ne.symm h), ih]

theorem lookup_putEntry_of_ne (h : m ≠ l) (node : Node) (entries : List (Location × Node)) :
    (putEntry l node entries).lookup m = entries.lookup m := by
  induction entries with
  | nil => simp [putEntry, h]
  | cons entry rest ih =>
    obtain ⟨k, old⟩ := entry
    unfold putEntry
    split
    · next hk =>
      obtain rfl : k = l := hk
      rw [lookup_cons_eq, lookup_cons_eq, if_neg h, if_neg h]
    · rw [lookup_cons_eq, lookup_cons_eq, ih]

theorem get?_put_self (h : l ≠ []) : (fs.put l node).get? l = some node := by
  rw [get?_of_ne_nil h]
  exact lookup_putEntry_self l node fs.entries

theorem get?_put_of_ne (h : m ≠ l) : (fs.put l node).get? m = fs.get? m := by
  rcases eq_or_ne m [] with rfl | hm
  · rfl
  · rw [get?_of_ne_nil hm, get?_of_ne_nil hm]
    exact lookup_putEntry_of_ne h node fs.entries

/-! ### Removing a place -/

theorem lookup_filter (l m : Location) (entries : List (Location × Node)) :
    (entries.filter fun entry => !l.isPrefixOf entry.1).lookup m =
      if l <+: m then none else entries.lookup m := by
  induction entries with
  | nil => simp
  | cons entry rest ih =>
    obtain ⟨k, old⟩ := entry
    by_cases hk : l <+: k
    · rw [List.filter_cons_of_neg (by simp [isPrefixOf_of_below hk]), ih, lookup_cons_eq]
      by_cases hm : m = k
      · rw [if_pos (hm ▸ hk), if_pos (hm ▸ hk)]
      · rw [if_neg hm]
    · rw [List.filter_cons_of_pos (by simp [isPrefixOf_of_not_below hk]), lookup_cons_eq,
        lookup_cons_eq, ih]
      by_cases hm : m = k
      · rw [if_pos hm, if_pos hm, if_neg (hm ▸ hk)]
      · rw [if_neg hm, if_neg hm]

theorem get?_remove (h : l ≠ []) :
    (fs.remove l).get? m = if l <+: m then none else fs.get? m := by
  rcases eq_or_ne m [] with rfl | hm
  · rw [if_neg (by simpa using h)]
    rfl
  · rw [get?_of_ne_nil hm, get?_of_ne_nil hm]
    exact lookup_filter l m fs.entries

theorem get?_remove_of_none (l : Location) (h : fs.get? m = none) : (fs.remove l).get? m = none := by
  have hm : m ≠ [] := by
    rintro rfl
    cases h
  rw [get?_of_ne_nil hm] at h ⊢
  change (fs.entries.filter fun entry => !l.isPrefixOf entry.1).lookup m = none
  rw [lookup_filter, h, ite_self]

/-! ### Moving a place -/

section Moving

variable {source target : Location}

/-- An entry put at its place after a move. -/
def movedEntry (source target : Location) : Location × Node → Location × Node := fun (l, node) =>
  if source.isPrefixOf l then (target ++ l.drop source.length, node) else (l, node)

theorem movedEntry_of_below (h : source <+: l) (node : Node) :
    movedEntry source target (l, node) = (target ++ l.drop source.length, node) := by
  simp [movedEntry, isPrefixOf_of_below h]

theorem movedEntry_of_not_below (h : ¬ source <+: l) (node : Node) :
    movedEntry source target (l, node) = (l, node) := by
  simp [movedEntry, isPrefixOf_of_not_below h]

/-- What is at a place after a move onto nothing: what was at the place it came from, or nothing if
it has gone, or else what was there. -/
theorem lookup_movedEntry (m : Location) (entries : List (Location × Node))
    (h : ∀ entry ∈ entries, ¬ target <+: entry.1) :
    (entries.map (movedEntry source target)).lookup m =
      if target <+: m then entries.lookup (source ++ m.drop target.length)
      else if source <+: m then none else entries.lookup m := by
  induction entries with
  | nil => simp
  | cons entry rest ih =>
    obtain ⟨k, old⟩ := entry
    specialize ih fun entry hentry => h entry (List.mem_cons_of_mem _ hentry)
    have hfree : ¬ target <+: k := h (k, old) List.mem_cons_self
    rw [List.map_cons]
    by_cases hk : source <+: k
    · obtain ⟨below, rfl⟩ := hk
      rw [movedEntry_of_below (List.prefix_append _ _), List.drop_left, lookup_cons_eq,
        lookup_cons_eq, lookup_cons_eq, ih]
      by_cases ht : target <+: m
      · obtain ⟨below', rfl⟩ := ht
        simp [eq_comm]
      · have hm : m ≠ target ++ below := by
          rintro rfl
          exact ht (List.prefix_append _ _)
        rw [if_neg hm, if_neg ht, if_neg ht]
        by_cases hs : source <+: m
        · rw [if_pos hs, if_pos hs]
        · rw [if_neg hs, if_neg hs, if_neg]
          rintro rfl
          exact hs (List.prefix_append _ _)
    · rw [movedEntry_of_not_below hk, lookup_cons_eq, lookup_cons_eq, lookup_cons_eq, ih]
      by_cases ht : target <+: m
      · have hm : m ≠ k := by
          rintro rfl
          exact hfree ht
        have hm' : source ++ m.drop target.length ≠ k := by
          rintro rfl
          exact hk (List.prefix_append _ _)
        rw [if_neg hm, if_pos ht, if_pos ht, if_neg hm']
      · rw [if_neg ht, if_neg ht]
        by_cases hs : source <+: m
        · have hm : m ≠ k := by
            rintro rfl
            exact hk hs
          rw [if_neg hm, if_pos hs, if_pos hs]
        · rw [if_neg hs, if_neg hs]

theorem not_prefix_sibling {a b : String} (h : a ≠ b) (l : Location) : ¬ l ++ [a] <+: l ++ [b] := by
  simpa using h

theorem get?_moveTree (ht : target ≠ []) (hs : source ≠ []) (hts : ¬ target <+: source)
    (hst : ¬ source <+: target) (m : Location) :
    (fs.moveTree source target).get? m =
      if target <+: m then fs.get? (source ++ m.drop target.length)
      else if source <+: m then none else fs.get? m := by
  rcases eq_or_ne m [] with rfl | hm
  · rw [if_neg (by simpa using ht), if_neg (by simpa using hs)]
    rfl
  have hfree : ∀ entry ∈ (fs.remove target).entries, ¬ target <+: entry.1 := by
    intro entry hentry hbelow
    have hkept := (List.mem_filter.1 hentry).2
    rw [isPrefixOf_of_below hbelow] at hkept
    cases hkept
  rw [get?_of_ne_nil hm]
  refine (lookup_movedEntry m _ hfree).trans ?_
  have hremove : ∀ k ≠ [], ¬ target <+: k → (fs.remove target).entries.lookup k = fs.get? k := by
    intro k hk hnot
    rw [← get?_of_ne_nil hk, get?_remove ht, if_neg hnot]
  by_cases htm : target <+: m
  · rw [if_pos htm, if_pos htm, hremove _ (by simp [hs])]
    intro hbelow
    rcases List.prefix_or_prefix_of_prefix hbelow (List.prefix_append source _) with h | h
    · exact hts h
    · exact hst h
  · rw [if_neg htm, if_neg htm, hremove m hm htm]

/-- What is at a place after a move within a directory. -/
theorem get?_moveTree_sibling {a b : String} (h : a ≠ b) (d m : Location) :
    (fs.moveTree (d ++ [a]) (d ++ [b])).get? m =
      if d ++ [b] <+: m then fs.get? (d ++ [a] ++ m.drop (d ++ [b]).length)
      else if d ++ [a] <+: m then none else fs.get? m :=
  get?_moveTree (by simp) (by simp) (not_prefix_sibling h.symm d) (not_prefix_sibling h d) m

end Moving

/-! ### Sound file systems -/

/-- Everything in a file system is in another one as well, as it is. -/
def Kept (fs fs' : Files) : Prop := ∀ l node, fs.get? l = some node → fs'.get? l = some node

theorem Kept.refl (fs : Files) : Kept fs fs := fun _ _ h => h

theorem Kept.trans {fs fs' fs'' : Files} (h : Kept fs fs') (h' : Kept fs' fs'') : Kept fs fs'' :=
  fun l node hl => h' l node (h l node hl)

/-- A file system is a tree, and a file at several places is one file. -/
structure Sound (fs : Files) : Prop where
  parent : ∀ l node, l ≠ [] → fs.get? l = some node → fs.get? l.dropLast = some .directory
  same : ∀ l m f g, fs.get? l = some (.file f) → fs.get? m = some (.file g) →
    isSame f g = true → f.data = g.data

theorem mem_entries_of_get? (hl : l ≠ []) (h : fs.get? l = some node) :
    (l, node) ∈ fs.entries := by
  rw [get?_of_ne_nil hl] at h
  obtain ⟨before, after, hentries, -⟩ := List.lookup_eq_some_iff.1 h
  simp [hentries]

/-- To see that a file system is sound it is enough to look at its entries. -/
theorem sound_of_entries (hparent : ∀ e ∈ fs.entries, fs.get? e.1.dropLast = some .directory)
    (hsame : ∀ e ∈ fs.entries, ∀ f, e.2 = .file f → f.serial = 0) : fs.Sound := by
  refine ⟨fun l node hl h => hparent _ (mem_entries_of_get? hl h), fun l m f g hl _ hfg => ?_⟩
  have hne : l ≠ [] := by
    rintro rfl
    cases hl
  rw [isSame, hsame _ (mem_entries_of_get? hne hl) f rfl] at hfg
  cases hfg

theorem Sound.directory_above (hfs : fs.Sound) {below : Location} (hb : below ≠ [])
    (h : fs.get? (l ++ below) = some node) : fs.get? l = some .directory := by
  induction below using List.reverseRecOn generalizing node with
  | nil => exact absurd rfl hb
  | append_singleton init name ih =>
    have hparent := hfs.parent _ _ (by simp) h
    rw [← List.append_assoc, List.dropLast_concat] at hparent
    rcases eq_or_ne init [] with rfl | hi
    · rwa [List.append_nil] at hparent
    · exact ih hi hparent

theorem Sound.not_below (hfs : fs.Sound) (hl : fs.get? l ≠ some .directory) (hne : m ≠ l)
    (hm : fs.get? m = some node) : ¬ l <+: m := by
  rintro ⟨below, rfl⟩
  refine hl (hfs.directory_above ?_ hm)
  rintro rfl
  exact hne (List.append_nil l)

theorem Sound.free_below (hfs : fs.Sound) (hl : fs.get? l = none) (hm : l <+: m) :
    fs.get? m = none := by
  rcases eq_or_ne m l with rfl | hne
  · exact hl
  · refine Option.eq_none_iff_forall_ne_some.2 fun node hnode => ?_
    exact hfs.not_below (by simp [hl]) hne hnode hm

theorem kept_put (h : fs.get? l = none) : Kept fs (fs.put l node) := by
  intro m old hm
  rw [get?_put_of_ne]
  · exact hm
  · rintro rfl
    rw [h] at hm
    cases hm

theorem Sound.put_directory (hfs : fs.Sound) (h : fs.get? l = none)
    (hp : fs.get? l.dropLast = some .directory) : (fs.put l .directory).Sound := by
  have hl : l ≠ [] := by
    rintro rfl
    cases h
  have hold : ∀ m node, m ≠ l → (fs.put l .directory).get? m = some node → fs.get? m = some node :=
    fun m node hm hget => by rwa [get?_put_of_ne hm] at hget
  refine ⟨fun m node hm hget => ?_, fun m m' f g hf hg => ?_⟩
  · refine kept_put h _ _ ?_
    rcases eq_or_ne m l with rfl | hne
    · exact hp
    · exact hfs.parent m node hm (hold m node hne hget)
  · have hne : ∀ k file, (fs.put l .directory).get? k = some (.file file) → k ≠ l := by
      rintro k file hk rfl
      rw [get?_put_self hl] at hk
      cases hk
    exact hfs.same m m' f g (hold _ _ (hne m f hf) hf) (hold _ _ (hne m' g hg) hg)

theorem get?_remove_eq_some (hl : l ≠ []) (h : (fs.remove l).get? m = some node) :
    ¬ l <+: m ∧ fs.get? m = some node := by
  rw [get?_remove hl] at h
  split at h
  · cases h
  · next hbelow => exact ⟨hbelow, h⟩

theorem kept_remove (hl : l ≠ []) : Kept (fs.remove l) fs :=
  fun _ _ h => (get?_remove_eq_some hl h).2

theorem Sound.remove (hfs : fs.Sound) (hl : l ≠ []) : (fs.remove l).Sound := by
  refine ⟨fun m node hm hget => ?_, fun m m' f g hf hg => ?_⟩
  · obtain ⟨hbelow, hget⟩ := get?_remove_eq_some hl hget
    rw [get?_remove hl, if_neg fun h => hbelow (h.trans (List.dropLast_prefix m))]
    exact hfs.parent m node hm hget
  · exact hfs.same m m' f g (kept_remove hl m _ hf) (kept_remove hl m' _ hg)

theorem Sound.moveTree {source target : Location} (hfs : fs.Sound) (ht : target ≠ [])
    (hs : source ≠ []) (hts : ¬ target <+: source) (hst : ¬ source <+: target)
    (hd : fs.get? target.dropLast = some .directory) : (fs.moveTree source target).Sound := by
  have hmoved : ∀ m, (fs.moveTree source target).get? m =
      if target <+: m then fs.get? (source ++ m.drop target.length)
      else if source <+: m then none else fs.get? m := get?_moveTree ht hs hts hst
  -- every file after the move was a file before it
  have hold : ∀ m node, (fs.moveTree source target).get? m = some node →
      ∃ m', fs.get? m' = some node := by
    intro m node hget
    rw [hmoved] at hget
    split at hget
    · exact ⟨_, hget⟩
    · split at hget
      · cases hget
      · exact ⟨_, hget⟩
  refine ⟨fun m node hm hget => ?_, fun m m' f g hf hg => ?_⟩
  · rw [hmoved] at hget ⊢
    by_cases htm : target <+: m
    · obtain ⟨below, rfl⟩ := htm
      rw [if_pos (List.prefix_append _ _), List.drop_left] at hget
      rcases List.eq_nil_or_concat below with rfl | ⟨init, name, rfl⟩
      · rw [List.append_nil, if_neg (fun h => ?_), if_neg fun h => ?_]
        · exact hd
        · exact hst (h.trans (List.dropLast_prefix _))
        · have := h.length_le
          rw [List.length_dropLast] at this
          have := List.length_pos_iff.2 ht
          omega
      · rw [List.concat_eq_append, ← List.append_assoc, List.dropLast_concat,
          if_pos (List.prefix_append _ _), List.drop_left]
        rw [List.concat_eq_append, ← List.append_assoc] at hget
        simpa using hfs.parent _ _ (by simp) hget
    · rw [if_neg htm] at hget
      split at hget
      · cases hget
      · next hsm =>
        rw [if_neg fun h => htm (h.trans (List.dropLast_prefix m)),
          if_neg fun h => hsm (h.trans (List.dropLast_prefix m))]
        exact hfs.parent m node hm hget
  · obtain ⟨l, hl⟩ := hold m _ hf
    obtain ⟨l', hl'⟩ := hold m' _ hg
    exact hfs.same l l' f g hl hl'

end Formulary.Files
