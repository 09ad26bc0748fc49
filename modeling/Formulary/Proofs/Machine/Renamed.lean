import Formulary.Proofs.Machine.Ways

/-!
# What a renamed path leads to

A file is renamed within its directory. If the old path led to a file, then all that the new path
can lead to afterwards is that file: `Moved.get?_end`. This is not clear when what was renamed is a
link, or when there are links on the way to the directory, for such a link may lead by way of the
very names that the renaming changes. A way that does can only go round in circles, and
`Moved.way_of_link` shows so by induction on the number of links.
-/

namespace Formulary.Files

variable {fs fs' : Files} {d p q x : Location} {a b : String} {held : Node}

/-- What was at `a` in a directory is at `b` in that directory; all else that was there still is. -/
structure Moved (fs fs' : Files) (d : Location) (a b : String) (held : Node) : Prop where
  sound : fs.Sound
  directory : fs.get? d = some .directory
  source : fs.get? (d ++ [a]) = some held
  held_ne : held ≠ .directory
  free : fs.get? (d ++ [b]) ≠ some .directory
  target : fs'.get? (d ++ [b]) = some held
  agree : ∀ l node, fs.get? l = some node → ¬ (l = d ++ [a] ∨ l = d ++ [b]) →
    fs'.get? l = some node

namespace Moved

/-- A link that led to a file leads to that file or nowhere, whatever names follow. -/
theorem way_of_link {target : String} (h : Moved fs fs' d a b (.link target)) {c k : Nat}
    (hp : fs.Way true c (linkBase target d) (namesOf ⟨target⟩) p) {node : Node}
    (hnode : fs.get? p = some node) (hne : node ≠ .directory) {rest : List String}
    (hq : fs'.Way true k (linkBase target d) (namesOf ⟨target⟩ ++ rest) q) :
    rest = [] ∧ q = p ∧ ¬ (p = d ++ [a] ∨ p = d ++ [b]) := by
  induction k using Nat.strongRecOn generalizing rest with
  | ind k ih =>
    have hbase := directory_linkBase target h.directory
    rcases hp.along h.agree hbase (by simp [hnode]) hq with
      ⟨i, -, hrest, hd | ⟨rfl, hB⟩⟩ | ⟨place, hB, hparted⟩
    · rw [hnode] at hd
      exact absurd (Option.some.inj hd) hne
    · cases hrest
      exact ⟨rfl, rfl, hB⟩
    · obtain ⟨i, i', l, name, names, hi, hi', hl, hs, hfirst, hsecond⟩ := hparted.exists_ways
      rcases hB with rfl | rfl
      · -- the first way comes back to where it started, with fewer links left
        obtain rfl := h.sound.eq_of_step hl hs (by simp [h.source])
        obtain ⟨j, rfl, hagain⟩ := hfirst.of_link hs h.source
        obtain ⟨-, -, rfl⟩ := hp.ends (Kept.refl fs) hbase hnode hne hagain
        omega
      · -- the second way does
        obtain rfl := h.sound.eq_of_step hl hs h.free
        obtain ⟨j, rfl, hagain⟩ := hsecond.of_link hs h.target
        obtain ⟨hnil, hend⟩ := ih j (by omega) hagain
        exact ⟨(List.append_eq_nil_iff.1 hnil).2, hend⟩

/-- What the place of the old name leads to, when that is a file: itself, or what its link does. -/
theorem way_of_source (h : Moved fs fs' d a b held) {c : Nat} (hs : step d a = .ok (d ++ [a]))
    (hp : fs.Way true c d [a] p) :
    (∃ target k, held = .link target ∧
      fs.Way true k (linkBase target d) (namesOf ⟨target⟩) p) ∨
    ((∀ target, held ≠ .link target) ∧ p = d ++ [a]) := by
  by_cases hlink : ∃ target, held = .link target
  · obtain ⟨target, rfl⟩ := hlink
    obtain ⟨k, -, hway⟩ := hp.of_link hs h.source
    rw [List.append_nil] at hway
    exact .inl ⟨target, k, rfl, hway⟩
  · obtain ⟨-, -, rfl, -⟩ := hp.of_other hs (by simpa [h.source] using h.held_ne)
      (by simpa [h.source] using hlink)
    exact .inr ⟨not_exists.1 hlink, rfl⟩

/-- The way to the directory is the same as before, if the new name leads on from it at all. -/
theorem way_of_init (h : Moved fs fs' d a b held) {n c k : Nat} {init : List String}
    (hx : fs.get? x = some .directory) (hinit : fs.Way false n x init d)
    (hs : step d a = .ok (d ++ [a])) (hp : fs.Way true c d [a] p) {node : Node}
    (hnode : fs.get? p = some node) (hne : node ≠ .directory)
    (hq : fs'.Way true k x (init ++ [b]) q) : ∃ i, fs'.Way true i d [b] q := by
  rcases hinit.along h.agree hx (by simp [h.directory]) hq with
    ⟨i, -, hrest, -⟩ | ⟨place, hB, hparted⟩
  · exact ⟨i, hrest⟩
  exfalso
  obtain ⟨i, i', l, name, names, -, -, hl, hstep, hfirst, hsecond⟩ := hparted.exists_ways
  rcases h.way_of_source hs hp with ⟨target, c', rfl, hway⟩ | ⟨hlink, rfl⟩
  · rcases hB with rfl | rfl
    · -- the link leads to a file, so no directory lies behind it
      obtain rfl := h.sound.eq_of_step hl hstep (by simp [h.source])
      obtain ⟨j, -, hagain⟩ := hfirst.of_link hstep h.source
      obtain ⟨-, rfl, -⟩ := hway.ends (Kept.refl fs) (directory_linkBase target h.directory) hnode
        hne hagain.loosen
      exact hne (Option.some.inj (hnode.symm.trans h.directory))
    · obtain rfl := h.sound.eq_of_step hl hstep h.free
      obtain ⟨j, -, hagain⟩ := hsecond.of_link hstep h.target
      obtain ⟨hnil, -⟩ := h.way_of_link hway hnode hne hagain
      simp at hnil
  · rcases hB with rfl | rfl
    · obtain ⟨he, -⟩ := hfirst.of_other hstep (by simpa [h.source] using h.held_ne)
        (by simpa [h.source] using hlink)
      cases he
    · obtain ⟨-, hnil, -⟩ := hsecond.of_other hstep (by simpa [h.target] using h.held_ne)
        (by simpa [h.target] using hlink)
      simp at hnil

/-- **The new name leads to what the old one led to, or to nothing.** -/
theorem get?_end (h : Moved fs fs' d a b held) {n c k : Nat} {init : List String}
    (hx : fs.get? x = some .directory) (hinit : fs.Way false n x init d)
    (hs : step d a = .ok (d ++ [a])) (hs' : step d b = .ok (d ++ [b]))
    (hp : fs.Way true c x (init ++ [a]) p) {node : Node} (hnode : fs.get? p = some node)
    (hne : node ≠ .directory) (hq : fs'.Way true k x (init ++ [b]) q) :
    fs'.get? q = some node := by
  obtain ⟨i, -, hp, -⟩ := hinit.along_kept (Kept.refl fs) hx (by simp [h.directory]) hp
  obtain ⟨j, hq⟩ := h.way_of_init hx hinit hs hp hnode hne hq
  rcases h.way_of_source hs hp with ⟨target, c', rfl, hway⟩ | ⟨hlink, rfl⟩
  · obtain ⟨k', -, hagain⟩ := hq.of_link hs' h.target
    obtain ⟨-, rfl, hB⟩ := h.way_of_link hway hnode hne hagain
    exact h.agree q node hnode hB
  · obtain ⟨-, -, rfl, -⟩ := hq.of_other hs' (by simpa [h.target] using h.held_ne)
      (by simpa [h.target] using hlink)
    rw [h.target, ← h.source, hnode]

end Moved

end Formulary.Files
