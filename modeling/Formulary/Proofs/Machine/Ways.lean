import Formulary.Proofs.Machine.Tree
import Formulary.Proofs.Results

/-!
# Ways through a file system

`Way fs e n l names m` says that the names lead from the place `l` to the place `m` by way of `n`
links. Walks take such ways (`way_of_walk`, `enters_of_walk`), and a way depends on nothing but the
places it comes by: `Way.along` compares the ways that the same names take in two file systems, up
to the first place where these differ.
-/

namespace Formulary.Files

variable {fs fs' : Files}

/-- Where the target of a link in a directory starts. -/
def linkBase (target : String) (l : Location) : Location :=
  if Path.isAbsolute ⟨target⟩ then [] else l

/-- Names lead from one place to another by way of so many links. All must lead to directories,
except that with `e` something else, or nothing, may be at the end. -/
inductive Way (fs : Files) (e : Bool) : Nat → Location → List String → Location → Prop
  | here (l : Location) : Way fs e 0 l [] l
  | down {n : Nat} {l next m : Location} {name : String} {rest : List String}
    (hs : step l name = .ok next) (hd : fs.get? next = some .directory)
    (h : Way fs e n next rest m) : Way fs e n l (name :: rest) m
  | follow {n : Nat} {l next m : Location} {name target : String} {rest : List String}
    (hs : step l name = .ok next) (hl : fs.get? next = some (.link target))
    (h : Way fs e n (linkBase target l) (namesOf ⟨target⟩ ++ rest) m) :
    Way fs e (n + 1) l (name :: rest) m
  | stop {l next : Location} {name : String} (he : e = true) (hs : step l name = .ok next)
    (hd : fs.get? next ≠ some .directory) (hl : ∀ target, fs.get? next ≠ some (.link target)) :
    Way fs e 0 l [name] next

/-! ### Ways that walks take -/

section Walks

variable {follow : Bool} {through : Location → List String → Except Fault Location}
  {l m : Location} {names : List String}

theorem way_of_walkFrom {k : Nat}
    (ht : ∀ l names m, through l names = .ok m → ∃ n < k, fs.Way true n l names m)
    (h : walkFrom fs true through l names = .ok m) : ∃ n ≤ k, fs.Way true n l names m := by
  induction names generalizing l with
  | nil =>
    cases h
    exact ⟨0, Nat.zero_le _, .here _⟩
  | cons name rest ih =>
    rw [walkFrom] at h
    obtain ⟨next, hs, h⟩ := bind_eq_ok.1 h
    split at h
    · next target hl =>
      rw [if_neg (by simp)] at h
      obtain ⟨n, hlt, hn⟩ := ht _ _ _ h
      exact ⟨n + 1, hlt, .follow hs hl hn⟩
    · next hd =>
      obtain ⟨n, hle, hn⟩ := ih h
      exact ⟨n, hle, .down hs hd hn⟩
    · next node hl hd hget =>
      split at h
      · next hrest =>
        cases h
        rw [List.isEmpty_iff.1 hrest]
        refine ⟨0, Nat.zero_le _, .stop rfl hs ?_ ?_⟩
        · rw [hget]
          exact fun h => hd (Option.some.inj h)
        · rw [hget]
          exact fun target h => hl target (Option.some.inj h)
      · cases h
    · next hget =>
      split at h
      · next hrest =>
        cases h
        rw [List.isEmpty_iff.1 hrest]
        exact ⟨0, Nat.zero_le _, .stop rfl hs (by simp [hget]) (by simp [hget])⟩
      · cases h

/-- A walk that follows links takes a way. -/
theorem way_of_walk {k : Nat} (h : fs.walk true k l names = .ok m) :
    ∃ n ≤ k, fs.Way true n l names m := by
  induction k generalizing l names m with
  | zero => exact way_of_walkFrom (fun _ _ _ h => by cases h) h
  | succ k ih =>
    refine way_of_walkFrom (fun _ _ _ h => ?_) h
    obtain ⟨n, hle, hn⟩ := ih h
    exact ⟨n, Nat.lt_succ_of_le hle, hn⟩

/-- The directory before the last name, by way of so many links, and the place that this name leads
to from there. -/
def Enters (fs : Files) (n : Nat) (l : Location) (init : List String) (name : String)
    (next : Location) : Prop :=
  ∃ d, fs.Way false n l init d ∧ step d name = .ok next

theorem enters_of_walkFrom {k : Nat} {init : List String} {name : String}
    (ht : ∀ l init m, through l (init ++ [name]) = .ok m →
      ∃ n < k, ∃ next, fs.Enters n l init name next ∧ (follow = false → m = next))
    (h : walkFrom fs follow through l (init ++ [name]) = .ok m) :
    ∃ n ≤ k, ∃ next, fs.Enters n l init name next ∧ (follow = false → m = next) := by
  induction init generalizing l with
  | nil =>
    rw [List.nil_append, walkFrom] at h
    obtain ⟨next, hs, h⟩ := bind_eq_ok.1 h
    refine ⟨0, Nat.zero_le _, next, ⟨l, .here l, hs⟩, ?_⟩
    rintro rfl
    split at h
    all_goals
      cases h
      rfl
  | cons first rest ih =>
    rw [List.cons_append, walkFrom] at h
    obtain ⟨next, hs, h⟩ := bind_eq_ok.1 h
    split at h
    · next target hl =>
      rw [if_neg (by simp)] at h
      change through (linkBase target l) (namesOf ⟨target⟩ ++ (rest ++ [name])) = .ok m at h
      rw [← List.append_assoc] at h
      obtain ⟨n, hlt, last, ⟨d, hn, hd⟩, hm⟩ := ht _ _ _ h
      exact ⟨n + 1, hlt, last, ⟨d, .follow hs hl hn, hd⟩, hm⟩
    · next hdir =>
      obtain ⟨n, hle, last, ⟨d, hn, hd⟩, hm⟩ := ih h
      exact ⟨n, hle, last, ⟨d, .down hs hdir hn, hd⟩, hm⟩
    · rw [if_neg (by simp)] at h
      cases h
    · rw [if_neg (by simp)] at h
      cases h

/-- A walk comes to a directory before its last name; a link there stays if it is not followed. -/
theorem enters_of_walk {k : Nat} {init : List String} {name : String}
    (h : fs.walk follow k l (init ++ [name]) = .ok m) :
    ∃ n ≤ k, ∃ next, fs.Enters n l init name next ∧ (follow = false → m = next) := by
  induction k generalizing l init m with
  | zero => exact enters_of_walkFrom (fun _ _ _ h => by cases h) h
  | succ k ih =>
    refine enters_of_walkFrom (fun _ _ _ h => ?_) h
    obtain ⟨n, hle, hn⟩ := ih h
    exact ⟨n, Nat.lt_succ_of_le hle, hn⟩

/-! A walk takes every way that has few enough links. -/

section Taken

variable {k n : Nat} {name : String} {rest : List String} {next : Location}

theorem walk_of_directory (hs : step l name = .ok next) (hd : fs.get? next = some .directory) :
    fs.walk follow k l (name :: rest) = fs.walk follow k next rest := by
  cases k <;> simp [walk, walkFrom, hs, hd, bind, Except.bind]

theorem walk_of_link {target : String} (hs : step l name = .ok next)
    (hl : fs.get? next = some (.link target)) (h : rest ≠ [] ∨ follow = true) :
    fs.walk follow (k + 1) l (name :: rest) =
      fs.walk follow k (linkBase target l) (namesOf ⟨target⟩ ++ rest) := by
  have hgo : (rest.isEmpty && !follow) = false := by
    rcases h with h | rfl
    · simp [h]
    · simp
  simp [walk, walkFrom, hs, hl, hgo, bind, Except.bind, linkBase]

/-- The last name is not followed further, unless it is to be and leads to a link. -/
theorem walk_of_last (hs : step l name = .ok next)
    (h : follow = false ∨ ∀ target, fs.get? next ≠ some (.link target)) :
    fs.walk follow k l [name] = .ok next := by
  cases hget : fs.get? next with
  | none => cases k <;> simp [walk, walkFrom, hs, hget, bind, Except.bind, pure, Except.pure]
  | some node =>
    cases node with
    | directory =>
      rw [walk_of_directory hs hget]
      cases k <;> rfl
    | link target =>
      obtain rfl : follow = false := h.resolve_right fun hl => hl target hget
      cases k <;> simp [walk, walkFrom, hs, hget, bind, Except.bind, pure, Except.pure]
    | _ => cases k <;> simp [walk, walkFrom, hs, hget, bind, Except.bind, pure, Except.pure]

theorem walk_of_way (h : fs.Way true n l names m) (hn : n ≤ k) :
    fs.walk true k l names = .ok m := by
  induction h generalizing k with
  | here l => cases k <;> rfl
  | down hs hd _ ih => rw [walk_of_directory hs hd, ih hn]
  | follow hs hl _ ih =>
    obtain ⟨k, rfl⟩ := Nat.exists_eq_add_of_lt hn
    rw [walk_of_link hs hl (.inr rfl), ih (Nat.le_add_right _ _)]
  | stop _ hs _ hl => exact walk_of_last hs (.inr hl)

theorem walk_of_enters {init : List String} (h : fs.Enters n l init name next) (hn : n ≤ k) :
    fs.walk false k l (init ++ [name]) = .ok next := by
  obtain ⟨d, hway, hs⟩ := h
  induction hway generalizing k with
  | here l => exact walk_of_last hs (.inl rfl)
  | down hs' hd _ ih => rw [List.cons_append, walk_of_directory hs' hd, ih hn hs]
  | follow hs' hl _ ih =>
    obtain ⟨k, rfl⟩ := Nat.exists_eq_add_of_lt hn
    rw [List.cons_append, walk_of_link hs' hl (.inl (by simp)), ← List.append_assoc,
      ih (Nat.le_add_right _ _) hs]
  | stop he => cases he

end Taken

end Walks

/-! ### Ways compared -/

section Ways

variable {e : Bool} {n : Nat} {l m : Location} {names : List String}

theorem directory_linkBase (target : String) (hl : fs.get? l = some .directory) :
    fs.get? (linkBase target l) = some .directory := by
  unfold linkBase
  split
  · rfl
  · exact hl

theorem Way.directory (h : fs.Way false n l names m) (hl : fs.get? l = some .directory) :
    fs.get? m = some .directory := by
  induction h with
  | here => exact hl
  | down _ hd _ ih => exact ih hd
  | follow _ _ _ ih => exact ih (directory_linkBase _ hl)
  | stop he => cases he

theorem Way.loosen (h : fs.Way e n l names m) : fs.Way true n l names m := by
  induction h with
  | here l => exact .here l
  | down hs hd _ ih => exact .down hs hd ih
  | follow hs hl _ ih => exact .follow hs hl ih
  | stop _ hs hd hl => exact .stop rfl hs hd hl

theorem Way.append {k : Nat} {d : Location} {rest : List String} (h : fs.Way false n l names d)
    (h' : fs.Way e k d rest m) : fs.Way e (k + n) l (names ++ rest) m := by
  induction h with
  | here l => exact h'
  | down hs hd _ ih => exact .down hs hd (ih h')
  | follow hs hl _ ih => exact .follow hs hl (by simpa using ih h')
  | stop he => cases he

/-- Whatever leads on in one file system leads on in another one as well. -/
structure Passable (fs fs' : Files) : Prop where
  directory : ∀ l, fs.get? l = some .directory → fs'.get? l = some .directory
  link : ∀ l target, fs.get? l = some (.link target) → fs'.get? l = some (.link target)

theorem Kept.passable (h : Kept fs fs') : Passable fs fs' :=
  ⟨fun l => h l _, fun l target => h l (.link target)⟩

theorem Passable.trans {fs'' : Files} (h : Passable fs fs') (h' : Passable fs' fs'') :
    Passable fs fs'' :=
  ⟨fun l => h'.directory l ∘ h.directory l, fun l target => h'.link l target ∘ h.link l target⟩

theorem Way.of_passable (hp : Passable fs fs') (h : fs.Way false n l names m) :
    fs'.Way false n l names m := by
  induction h with
  | here l => exact .here l
  | down hs hd _ ih => exact .down hs (hp.directory _ hd) ih
  | follow hs hl _ ih => exact .follow hs (hp.link _ _ hl) ih
  | stop he => cases he

/-! What comes after a name is decided by what is at the place that it leads to. -/

section Next

variable {name : String} {next : Location} (hs : step l name = .ok next)

include hs

theorem Way.of_directory (h : fs.Way e n l (name :: names) m)
    (hd : fs.get? next = some .directory) : fs.Way e n next names m := by
  cases h with
  | down hs' _ h =>
    cases hs.symm.trans hs'
    exact h
  | follow hs' hl _ =>
    cases hs.symm.trans hs'
    cases hd.symm.trans hl
  | stop _ hs' hnd _ =>
    cases hs.symm.trans hs'
    exact absurd hd hnd

theorem Way.of_link (h : fs.Way e n l (name :: names) m) {target : String}
    (hl : fs.get? next = some (.link target)) :
    ∃ k, n = k + 1 ∧ fs.Way e k (linkBase target l) (namesOf ⟨target⟩ ++ names) m := by
  cases h with
  | down hs' hd _ =>
    cases hs.symm.trans hs'
    cases hl.symm.trans hd
  | follow hs' hl' h =>
    cases hs.symm.trans hs'
    cases hl.symm.trans hl'
    exact ⟨_, rfl, h⟩
  | stop _ hs' _ hnl =>
    cases hs.symm.trans hs'
    exact absurd hl (hnl target)

theorem Way.of_other (h : fs.Way e n l (name :: names) m) (hd : fs.get? next ≠ some .directory)
    (hl : ∀ target, fs.get? next ≠ some (.link target)) :
    e = true ∧ names = [] ∧ m = next ∧ n = 0 := by
  cases h with
  | down hs' hd' _ =>
    cases hs.symm.trans hs'
    exact absurd hd' hd
  | follow hs' hl' _ =>
    cases hs.symm.trans hs'
    exact absurd hl' (hl _)
  | stop he hs' _ _ =>
    cases hs.symm.trans hs'
    exact ⟨he, rfl, rfl, rfl⟩

end Next

/-- In two file systems the ways along the same names part at a place, which both come to from the
same directory. `p` and `q` are the ends of the two ways, and `rest` are the names that only the
second one has to go on with. -/
structure Parted (fs fs' : Files) (e : Bool) (n n' : Nat) (p q : Location) (rest : List String)
    (place : Location) : Prop where
  exists_ways : ∃ k k' l name names, k ≤ n ∧ k' ≤ n' ∧ fs.get? l = some .directory ∧
    step l name = .ok place ∧ fs.Way e k l (name :: names) p ∧
    fs'.Way true k' l (name :: (names ++ rest)) q

theorem Parted.mono {n' k k' : Nat} {p q place : Location} {rest : List String}
    (h : Parted fs fs' e n n' p q rest place) (hn : n ≤ k) (hn' : n' ≤ k') :
    Parted fs fs' e k k' p q rest place := by
  obtain ⟨i, i', l, name, names, hi, hi', h⟩ := h.exists_ways
  exact ⟨i, i', l, name, names, Nat.le_trans hi hn, Nat.le_trans hi' hn', h⟩

/-- **The same names take the same way as long as the file systems agree.** Either the first way is
the start of the second one, or they part at a place in `B`, where the file systems need not
agree. -/
theorem Way.along {B : Location → Prop}
    (agree : ∀ l node, fs.get? l = some node → ¬ B l → fs'.get? l = some node) {n' : Nat}
    {q : Location} {rest : List String} (h : fs.Way e n l names m)
    (hl : fs.get? l = some .directory) (hm : fs.get? m ≠ none)
    (h' : fs'.Way true n' l (names ++ rest) q) :
    (∃ k, n' = n + k ∧ fs'.Way true k m rest q ∧
      (fs.get? m = some .directory ∨ (rest = [] ∧ ¬ B m))) ∨
    ∃ place, B place ∧ Parted fs fs' e n n' m q rest place := by
  induction h generalizing n' with
  | here l => exact .inl ⟨n', by omega, h', .inl hl⟩
  | @down n l next m name names hs hd h ih =>
    by_cases hB : B next
    · refine .inr ⟨next, hB, n, n', l, name, names, Nat.le_refl _, Nat.le_refl _, hl, hs, ?_, h'⟩
      exact .down hs hd h
    · exact ih hd hm (h'.of_directory hs (agree next _ hd hB))
  | @follow n l next m name target names hs hlink h ih =>
    by_cases hB : B next
    · refine .inr ⟨next, hB, n + 1, n', l, name, names, Nat.le_refl _, Nat.le_refl _, hl, hs, ?_,
        h'⟩
      exact .follow hs hlink h
    · rw [List.cons_append] at h'
      obtain ⟨k', rfl, hlinked⟩ := h'.of_link hs (agree next _ hlink hB)
      rw [← List.append_assoc] at hlinked
      rcases ih (directory_linkBase _ hl) hm hlinked with ⟨k, rfl, hk⟩ | ⟨place, hplace, hparted⟩
      · exact .inl ⟨k, by omega, hk⟩
      · exact .inr ⟨place, hplace, hparted.mono (Nat.le_succ _) (Nat.le_succ _)⟩
  | @stop l next name he hs hd hnl =>
    by_cases hB : B next
    · refine .inr ⟨next, hB, 0, n', l, name, [], Nat.le_refl _, Nat.le_refl _, hl, hs, ?_, h'⟩
      exact .stop he hs hd hnl
    · obtain ⟨node, hnode⟩ := Option.ne_none_iff_exists'.1 hm
      have hnode' := agree next _ hnode hB
      rw [List.cons_append, List.nil_append] at h'
      obtain ⟨-, rfl, rfl, rfl⟩ := h'.of_other hs
        (by rw [hnode', ← hnode]; exact hd) (by rw [hnode', ← hnode]; exact hnl)
      exact .inl ⟨0, rfl, .here _, .inr ⟨rfl, hB⟩⟩

theorem Way.along_kept (hk : Kept fs fs') {n' : Nat} {q : Location} {rest : List String}
    (h : fs.Way e n l names m) (hl : fs.get? l = some .directory) (hm : fs.get? m ≠ none)
    (h' : fs'.Way true n' l (names ++ rest) q) :
    ∃ k, n' = n + k ∧ fs'.Way true k m rest q ∧ (fs.get? m = some .directory ∨ rest = []) := by
  rcases h.along (B := fun _ => False) (fun l node hl _ => hk l node hl) hl hm h' with
    ⟨k, hk, hrest, hend⟩ | ⟨_, hB, _⟩
  · exact ⟨k, hk, hrest, hend.imp id And.left⟩
  · exact hB.elim

theorem Way.unique {n' : Nat} {m' : Location} (h : fs.Way false n l names m)
    (h' : fs.Way false n' l names m') (hl : fs.get? l = some .directory) : m' = m ∧ n' = n := by
  have hm := h.directory hl
  rw [← List.append_nil names] at h'
  obtain ⟨k, rfl, hrest, -⟩ := h.along_kept (.refl fs) hl (by simp [hm]) h'.loosen
  cases hrest
  exact ⟨rfl, rfl⟩

/-- A way to something that is not a directory ends there, however many names follow. -/
theorem Way.ends (hk : Kept fs fs') {n' : Nat} {q : Location} {rest : List String}
    (h : fs.Way e n l names m) (hl : fs.get? l = some .directory) {node : Node}
    (hm : fs.get? m = some node) (hnode : node ≠ .directory)
    (h' : fs'.Way true n' l (names ++ rest) q) : rest = [] ∧ q = m ∧ n' = n := by
  obtain ⟨k, rfl, hrest, hend⟩ := h.along_kept hk hl (by simp [hm]) h'
  rcases hend with hd | rfl
  · rw [hm] at hd
    exact absurd (Option.some.inj hd) hnode
  · cases hrest
    exact ⟨rfl, rfl, rfl⟩

end Ways

/-! ### Single steps -/

theorem step_of_proper {l next : Location} {name : String} (hdot : name ≠ ".") (hup : name ≠ "..")
    (h : step l name = .ok next) : next = l ++ [name] := by
  unfold step at h
  rw [if_neg hdot, if_neg hup] at h
  split at h
  · cases h
  · cases h
    rfl

/-- What is one step from a directory, and is none itself, is in a directory. -/
theorem Sound.parent_of_step (hfs : fs.Sound) {l next : Location} {name : String}
    (hl : fs.get? l = some .directory) (hs : step l name = .ok next)
    (hnext : fs.get? next ≠ some .directory) : fs.get? next.dropLast = some .directory := by
  unfold step at hs
  split at hs
  · cases hs
    exact absurd hl hnext
  split at hs
  · cases hs
    rcases eq_or_ne l [] with rfl | hne
    · exact absurd rfl hnext
    · exact absurd (hfs.parent l _ hne hl) hnext
  split at hs
  · cases hs
  · cases hs
    rwa [List.dropLast_concat]

theorem Sound.parent_of_way (hfs : fs.Sound) {n : Nat} {e : Bool} {l m : Location}
    {names : List String} (h : fs.Way e n l names m) (hl : fs.get? l = some .directory)
    (hm : fs.get? m ≠ some .directory) : fs.get? m.dropLast = some .directory := by
  induction h with
  | here l => exact absurd hl hm
  | down _ hd _ ih => exact ih hd hm
  | follow _ _ _ ih => exact ih (directory_linkBase _ hl) hm
  | stop _ hs => exact hfs.parent_of_step hl hs hm

/-- In a tree only the step down leads from a directory to something that is not one. -/
theorem Sound.eq_of_step (hfs : fs.Sound) {l d : Location} {name other : String}
    (hl : fs.get? l = some .directory) (hs : step l name = .ok (d ++ [other]))
    (hd : fs.get? (d ++ [other]) ≠ some .directory) : l = d := by
  unfold step at hs
  split at hs
  · cases hs
    exact absurd hl hd
  split at hs
  · rcases eq_or_ne l [] with rfl | hne
    · simp at hs
    · have hparent := hfs.parent l _ hne hl
      rw [Except.ok.inj hs] at hparent
      exact absurd hparent hd
  split at hs
  · cases hs
  · exact (List.append_inj' (Except.ok.inj hs) rfl).1

end Formulary.Files
