import Formulary.Proofs.Machine.Ways
import Formulary.Proofs.Paths

/-!
# What operations on files do

The operations a run performs, in terms of places and ways: how a path is found, what making a
directory and removing a file keep.
-/

namespace Formulary.Files

variable {fs fs' : Files} {cwd l : Location} {p : Path} {node : Node}

theorem isDirectory_eq_false : node.isDirectory = false ↔ node ≠ .directory := by
  cases node <;> simp [Node.isDirectory]

/-! ### Finding -/

theorem directory_of_start {x : Location} (h : fs.start cwd p = .ok x) :
    fs.get? x = some .directory := by
  unfold start at h
  split at h
  · cases h
    rfl
  split at h
  · next hd =>
    cases h
    exact hd
  · cases h

theorem start_unique {p' : Path} {x x' : Location} (hp : p.isAbsolute = p'.isAbsolute)
    (h : fs.start cwd p = .ok x) (h' : fs'.start cwd p' = .ok x') : x = x' := by
  unfold start at h h'
  rw [hp] at h
  split at h
  · next ha =>
    rw [if_pos ha] at h'
    cases h
    cases h'
    rfl
  · next ha =>
    rw [if_neg ha] at h'
    split at h
    · split at h'
      · cases h
        cases h'
        rfl
      · cases h'
    · cases h

theorem start_of_passable (hp : Passable fs fs') {x : Location} (h : fs.start cwd p = .ok x) :
    fs'.start cwd p = .ok x := by
  unfold start at h ⊢
  split
  · next habs => rwa [if_pos habs] at h
  · next habs =>
    rw [if_neg habs] at h
    split at h
    · next hd =>
      rw [if_pos (hp.directory _ hd)]
      exact h
    · cases h

theorem present_eq_ok {m : Location} (h : fs.present m = .ok (l, node)) :
    m = l ∧ fs.get? l = some node := by
  unfold present at h
  split at h
  · next hget =>
    cases h
    exact ⟨rfl, hget⟩
  · cases h

theorem findHere_eq_ok (h : fs.findHere cwd p = .ok (l, node)) :
    fs.locateHere cwd p = .ok l ∧ fs.get? l = some node := by
  obtain ⟨m, hm, hp⟩ := bind_eq_ok.1 h
  obtain ⟨rfl, hget⟩ := present_eq_ok hp
  exact ⟨hm, hget⟩

theorem find_eq_ok (h : fs.find cwd p = .ok (l, node)) :
    ∃ x n, fs.start cwd p = .ok x ∧ fs.Way true n x (namesOf p) l ∧ fs.get? l = some node := by
  obtain ⟨m, hm, hp⟩ := bind_eq_ok.1 h
  obtain ⟨-, -, hm⟩ := bind_eq_ok.1 hm
  obtain ⟨x, hx, hm⟩ := bind_eq_ok.1 hm
  obtain ⟨n, -, hn⟩ := way_of_walk hm
  obtain ⟨rfl, hget⟩ := present_eq_ok hp
  exact ⟨x, n, hx, hn, hget⟩

/-- A name in the directory that a path leads to names a place: where the path starts, and where the
directory is. -/
structure Named (fs : Files) (cwd : Location) (c : Path) (name : String) (x d : Location) :
    Prop where
  checked : checkPath (c.join name) = .ok ()
  start : fs.start cwd (c.join name) = .ok x
  way : ∃ n ≤ mostLinks, fs.Way false n x c.names d
  step : Files.step d name = .ok (d ++ [name])

theorem locateHere_join_iff {c : Path} {name : String} (hname : ProperName name) :
    fs.locateHere cwd (c.join name) = .ok l ↔
      ∃ x d, Named fs cwd c name x d ∧ l = d ++ [name] := by
  constructor
  · intro h
    obtain ⟨⟨⟩, hcheck, h⟩ := bind_eq_ok.1 h
    obtain ⟨x, hx, h⟩ := bind_eq_ok.1 h
    rw [namesOf_join c hname] at h
    obtain ⟨n, hn, next, ⟨d, hway, hs⟩, hl⟩ := enters_of_walk h
    obtain rfl := hl rfl
    obtain rfl := step_of_proper hname.ne_dot hname.ne_up hs
    exact ⟨x, d, ⟨hcheck, hx, ⟨n, hn, hway⟩, hs⟩, rfl⟩
  · rintro ⟨x, d, h, rfl⟩
    obtain ⟨n, hn, hway⟩ := h.way
    refine bind_eq_ok.2 ⟨(), h.checked, bind_eq_ok.2 ⟨x, h.start, ?_⟩⟩
    rw [namesOf_join c hname]
    exact walk_of_enters ⟨d, hway, h.step⟩ hn

namespace Named

variable {c : Path} {a b name : String} {x d : Location}

theorem directory (h : Named fs cwd c name x d) : fs.get? d = some .directory := by
  obtain ⟨n, -, hway⟩ := h.way
  exact hway.directory (directory_of_start h.start)

theorem unique {x' d' : Location} (ha : ProperName a) (hb : ProperName b)
    (h : Named fs cwd c a x d) (h' : Named fs cwd c b x' d') : x' = x ∧ d' = d := by
  have habs : (c.join b).isAbsolute = (c.join a).isAbsolute := by
    rw [c.isAbsolute_join ha.relative, c.isAbsolute_join hb.relative]
  obtain rfl := start_unique habs h'.start h.start
  obtain ⟨n, -, hway⟩ := h.way
  obtain ⟨n', -, hway'⟩ := h'.way
  exact ⟨rfl, (hway.unique hway' (directory_of_start h.start)).1⟩

/-- A name names the same place where everything that can be passed is the same. -/
theorem of_passable (hp : Passable fs fs') (h : Named fs cwd c name x d) :
    Named fs' cwd c name x d := by
  obtain ⟨n, hn, hway⟩ := h.way
  exact ⟨h.checked, start_of_passable hp h.start, ⟨n, hn, hway.of_passable hp⟩, h.step⟩

theorem way_of_find (hname : ProperName name) (h : Named fs cwd c name x d)
    (hfind : fs.find cwd (c.join name) = .ok (l, node)) :
    ∃ k, fs.Way true k d [name] l ∧ fs.get? l = some node := by
  obtain ⟨x', k, hx', hway', hl⟩ := find_eq_ok hfind
  obtain rfl := start_unique rfl h.start hx'
  rw [namesOf_join c hname] at hway'
  obtain ⟨n, -, hway⟩ := h.way
  obtain ⟨k', -, hlast, -⟩ :=
    hway.along_kept (.refl fs) (directory_of_start h.start) (by simp [h.directory]) hway'
  exact ⟨k', hlast, hl⟩

/-- What is at the place of a name is found, unless it is a link. -/
theorem find (hname : ProperName name) (h : Named fs cwd c name x d)
    (hget : fs.get? (d ++ [name]) = some node) (hnode : ∀ target, node ≠ .link target) :
    fs.find cwd (c.join name) = .ok (d ++ [name], node) := by
  obtain ⟨n, hn, hway⟩ := h.way
  have hlast : fs.Way true 0 d [name] (d ++ [name]) := by
    rcases eq_or_ne node .directory with rfl | hne
    · exact .down h.step hget (.here _)
    · exact .stop rfl h.step (by simpa [hget] using hne) (by simpa [hget] using hnode)
  have hwalk := walk_of_way (hway.append hlast) (Nat.le_trans (Nat.le_of_eq (Nat.zero_add n)) hn)
  rw [← namesOf_join c hname] at hwalk
  have hlocate : fs.locate cwd (c.join name) = .ok (d ++ [name]) :=
    bind_eq_ok.2 ⟨(), h.checked, bind_eq_ok.2 ⟨x, h.start, hwalk⟩⟩
  refine bind_eq_ok.2 ⟨_, hlocate, ?_⟩
  unfold present
  rw [hget]

end Named

/-- A name in a directory is at the same place where everything that can be passed is the same. -/
theorem locateHere_of_passable {c : Path} {name : String} (hname : ProperName name)
    (hp : Passable fs fs') (h : fs.locateHere cwd (c.join name) = .ok l) :
    fs'.locateHere cwd (c.join name) = .ok l := by
  obtain ⟨x, d, hnamed, rfl⟩ := (locateHere_join_iff hname).1 h
  exact (locateHere_join_iff hname).2 ⟨x, d, hnamed.of_passable hp, rfl⟩

/-- A file is found as it was, if at all, when everything was kept. -/
theorem find_of_kept (hk : Kept fs fs') (h : fs.find cwd p = .ok (l, node))
    (hnode : node ≠ .directory) {l' : Location} {node' : Node}
    (h' : fs'.find cwd p = .ok (l', node')) : node' = node := by
  obtain ⟨x, n, hx, hway, hl⟩ := find_eq_ok h
  obtain ⟨x', n', hx', hway', hl'⟩ := find_eq_ok h'
  obtain rfl := start_unique rfl hx hx'
  rw [← List.append_nil (namesOf p)] at hway'
  obtain ⟨-, rfl, -⟩ := hway.ends hk (directory_of_start hx) hl hnode hway'
  exact Option.some.inj (hl'.symm.trans (hk l' node hl))

/-! ### Making directories, removing files -/

theorem directory_of_locateNew (hfs : fs.Sound) (h : fs.locateNew cwd p = .ok l)
    (hl : fs.get? l = none) : fs.get? l.dropLast = some .directory := by
  obtain ⟨-, -, h⟩ := bind_eq_ok.1 h
  obtain ⟨x, hx, h⟩ := bind_eq_ok.1 h
  change fs.walk false mostLinks x p.names = .ok l at h
  rcases List.eq_nil_or_concat p.names with hnil | ⟨init, name, hcons⟩
  · rw [hnil] at h
    cases h
    rw [directory_of_start hx] at hl
    cases hl
  · rw [hcons, List.concat_eq_append] at h
    obtain ⟨n, -, next, ⟨d, hn, hs⟩, hend⟩ := enters_of_walk h
    obtain rfl := hend rfl
    exact hfs.parent_of_step (hn.directory (directory_of_start hx)) hs (by simp [hl])

theorem makeDirectory_eq_ok (h : fs.makeDirectory cwd p = .ok fs') :
    ∃ l, fs.locateNew cwd p = .ok l ∧ fs.get? l = none ∧ fs' = fs.put l .directory := by
  obtain ⟨l, hl, h⟩ := bind_eq_ok.1 h
  split at h
  · cases h
  · next hnone =>
    cases h
    exact ⟨l, hl, hnone, rfl⟩

theorem makeDirectory_kept (h : fs.makeDirectory cwd p = .ok fs') : Kept fs fs' := by
  obtain ⟨l, -, hnone, rfl⟩ := makeDirectory_eq_ok h
  exact kept_put hnone

theorem makeDirectory_added (h : fs.makeDirectory cwd p = .ok fs') (m : Location) (node : Node)
    (hm : fs'.get? m = some node) : node = .directory ∨ fs.get? m = some node := by
  obtain ⟨l, -, hnone, rfl⟩ := makeDirectory_eq_ok h
  rcases eq_or_ne m l with rfl | hne
  · have hl : m ≠ [] := by
      rintro rfl
      cases hnone
    rw [get?_put_self hl] at hm
    exact .inl (Option.some.inj hm).symm
  · rw [get?_put_of_ne hne] at hm
    exact .inr hm

theorem makeDirectory_sound (hfs : fs.Sound) (h : fs.makeDirectory cwd p = .ok fs') :
    fs'.Sound := by
  obtain ⟨l, hl, hnone, rfl⟩ := makeDirectory_eq_ok h
  exact hfs.put_directory hnone (directory_of_locateNew hfs hl hnone)

theorem removeFile_eq_ok (h : fs.removeFile cwd p = .ok fs') : ∃ l ≠ [], fs' = fs.remove l := by
  obtain ⟨⟨l, node⟩, hl, h⟩ := bind_eq_ok.1 h
  obtain ⟨-, hget⟩ := findHere_eq_ok hl
  dsimp only at h
  split at h
  · cases h
  · next hnode =>
    cases h
    refine ⟨l, ?_, rfl⟩
    rintro rfl
    cases hget
    simp [Node.isDirectory] at hnode

theorem removeFile_sound (hfs : fs.Sound) (h : fs.removeFile cwd p = .ok fs') : fs'.Sound := by
  obtain ⟨l, hl, rfl⟩ := removeFile_eq_ok h
  exact hfs.remove hl

theorem removeFile_kept (h : fs.removeFile cwd p = .ok fs') : Kept fs' fs := by
  obtain ⟨l, hl, rfl⟩ := removeFile_eq_ok h
  exact kept_remove hl

end Formulary.Files
