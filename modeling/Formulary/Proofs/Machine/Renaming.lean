import Formulary.Proofs.Machine.Operations
import Formulary.Proofs.Machine.Renamed

/-!
# Renaming within a directory

Whatever is renamed keeps its directory: `Renaming` says where the two names are and what becomes of
the files, and `renaming_of_rename` that every renaming within a directory goes that way. From it
follows what is found under the new name, when a file was renamed: `find_renamed`.
-/

namespace Formulary.Files

variable {fs fs' : Files} {cwd l : Location} {p : Path} {node : Node}

/-! ### What renaming comes to -/

/-- What renaming something that is not a directory comes to: nothing, if both names are of one
file, or a move. -/
theorem rename_eq_ok {p' : Path} (hl : fs.findHere cwd p = .ok (l, node))
    (hnode : node.isDirectory = false) (h : fs.rename cwd p p' = .ok fs') :
    ∃ t, fs.locateHere cwd p' = .ok t ∧
      (t = l ∨
      (fs' = fs ∧ ∃ f g, node = .file f ∧ fs.get? t = some (.file g) ∧ isSame f g = true) ∨
      (fs' = fs.moveTree l t ∧ fs.get? t ≠ some .directory)) := by
  unfold rename at h
  obtain ⟨⟨_, _⟩, hfound, h⟩ := bind_eq_ok.1 h
  cases hl.symm.trans hfound
  dsimp only at h
  rw [if_neg (by simp [hnode])] at h
  obtain ⟨t, ht, h⟩ := bind_eq_ok.1 h
  refine ⟨t, ht, ?_⟩
  by_cases htl : t = l
  · exact .inl htl
  rw [if_neg htl, if_neg (by simp [hnode])] at h
  by_cases hd : fs.get? t = some .directory
  · rw [hd] at h
    dsimp only at h
    rw [if_pos (by simp [hnode])] at h
    cases h
  split at h
  · cases h
    exact .inr (.inr ⟨rfl, hd⟩)
  · exact absurd ‹_› hd
  · split at h
    · next hsame =>
      cases h
      exact .inr (.inl ⟨rfl, _, _, rfl, ‹_›, hsame⟩)
    · cases h
      exact .inr (.inr ⟨rfl, hd⟩)
  · rw [if_neg (by simp [hnode])] at h
    cases h
    exact .inr (.inr ⟨rfl, hd⟩)

theorem rename_directory_eq_ok {p' : Path} (hl : fs.findHere cwd p = .ok (l, .directory))
    (h : fs.rename cwd p p' = .ok fs') :
    ∃ t, fs.locateNew cwd p' = .ok t ∧ (t = l ∨ fs' = fs.moveTree l t) := by
  unfold rename at h
  obtain ⟨⟨_, _⟩, hfound, h⟩ := bind_eq_ok.1 h
  cases hl.symm.trans hfound
  have hdir : Node.directory.isDirectory = true := rfl
  dsimp only at h
  rw [if_pos hdir] at h
  obtain ⟨t, ht, h⟩ := bind_eq_ok.1 h
  refine ⟨t, ht, ?_⟩
  by_cases htl : t = l
  · exact .inl htl
  rw [if_neg htl] at h
  split at h
  · cases h
  split at h
  · cases h
    exact .inr rfl
  · rw [if_neg (by simp [hdir])] at h
    split at h
    · cases h
    · cases h
      exact .inr rfl
  · next hfile => cases hfile
  · cases h

/-- After a move, what was at the old name is at the new one, and the rest is where it was. -/
theorem moved_of_moveTree {d : Location} {a b : String} (hab : a ≠ b) (hfs : fs.Sound)
    (hd : fs.get? d = some .directory) (hsource : fs.get? (d ++ [a]) = some node)
    (hnode : node ≠ .directory) (hfree : fs.get? (d ++ [b]) ≠ some .directory)
    (hk : Kept (fs.moveTree (d ++ [a]) (d ++ [b])) fs') : Moved fs fs' d a b node where
  sound := hfs
  directory := hd
  source := hsource
  held_ne := hnode
  free := hfree
  target := by
    refine hk _ _ ?_
    rw [get?_moveTree_sibling hab, if_pos (List.prefix_refl _), List.drop_length, List.append_nil]
    exact hsource
  agree l other hl hB := by
    rw [not_or] at hB
    refine hk _ _ ?_
    rw [get?_moveTree_sibling hab, if_neg (hfs.not_below hfree hB.2 hl),
      if_neg (hfs.not_below (by simpa [hsource] using hnode) hB.1 hl)]
    exact hl

theorem locateNew_join (fs : Files) (cwd : Location) (c : Path) {name : String}
    (hname : ProperName name) :
    fs.locateNew cwd (c.join name) = fs.locateHere cwd (c.join name) := by
  have hnames := c.names_join hname
  unfold locateNew locateHere
  rw [namesOf_join c hname, ← hnames]
  rfl

/-! ### Names in one directory -/

/-- How something is renamed within the directory of a path: where its names are, what it is, and
what becomes of the files. -/
structure Renaming (fs fs' : Files) (cwd : Location) (c : Path) (a b : String) (x d : Location)
    (held : Node) : Prop where
  old : Named fs cwd c a x d
  new : Named fs cwd c b x d
  source : fs.get? (d ++ [a]) = some held
  /-- Two names of one file stay, else the old name's place moves. -/
  change : (fs' = fs ∧ ∃ f g, held = .file f ∧ fs.get? (d ++ [b]) = some (.file g) ∧
      isSame f g = true) ∨
    (fs' = fs.moveTree (d ++ [a]) (d ++ [b]) ∧
      (held ≠ .directory → fs.get? (d ++ [b]) ≠ some .directory))

theorem renaming_of_rename {c : Path} {a b : String} (ha : ProperName a) (hb : ProperName b)
    (hab : a ≠ b) (h : fs.rename cwd (c.join a) (c.join b) = .ok fs') :
    ∃ x d held, Renaming fs fs' cwd c a b x d held := by
  obtain ⟨⟨m, held⟩, hhere, -⟩ := bind_eq_ok.1 h
  obtain ⟨hm, hsource⟩ := findHere_eq_ok hhere
  obtain ⟨x, d, hold, rfl⟩ := (locateHere_join_iff ha).1 hm
  -- the new name is looked for in the same directory
  have hnew : ∀ t, fs.locateHere cwd (c.join b) = .ok t →
      t = d ++ [b] ∧ Named fs cwd c b x d := by
    intro t ht
    obtain ⟨x', d', hnamed, rfl⟩ := (locateHere_join_iff hb).1 ht
    obtain ⟨rfl, rfl⟩ := hold.unique ha hb hnamed
    exact ⟨rfl, hnamed⟩
  have hne : d ++ [b] ≠ d ++ [a] := by simpa using hab.symm
  rcases eq_or_ne held .directory with rfl | hheld
  · obtain ⟨t, ht, hmoved⟩ := rename_directory_eq_ok hhere h
    rw [locateNew_join fs cwd c hb] at ht
    obtain ⟨rfl, hnamed⟩ := hnew t ht
    exact ⟨x, d, _, hold, hnamed, hsource, .inr ⟨hmoved.resolve_left hne, fun h => absurd rfl h⟩⟩
  · obtain ⟨t, ht, hchange⟩ := rename_eq_ok hhere (isDirectory_eq_false.2 hheld) h
    obtain ⟨rfl, hnamed⟩ := hnew t ht
    refine ⟨x, d, held, hold, hnamed, hsource, ?_⟩
    exact (hchange.resolve_left hne).imp id fun ⟨hmoved, hfree⟩ => ⟨hmoved, fun _ => hfree⟩

/-! What can be in the way of a renaming within a directory. -/

theorem checkPath_of_append {p q : Path} {ending : String} (hq : q.text = p.text ++ ending)
    (hp : p.text ≠ "") (h : checkPath q = .ok ()) : checkPath p = .ok () := by
  unfold checkPath at h ⊢
  rw [hq] at h
  split at h
  · cases h
  next hnul =>
  split at h
  · cases h
  split at h
  · cases h
  next hlength =>
  rw [String.utf8ByteSize_append] at hlength
  have hnul' : ¬ p.text.toList.contains '\x00' = true := by
    intro hmem
    exact hnul (by simpa using .inl (by simpa using hmem))
  rw [if_neg hnul', if_neg (by simpa using hp), if_neg (by omega)]

theorem Named.shorten {c : Path} {name ending : String} {x d : Location} (hname : ProperName name)
    (hlong : ProperName (name ++ ending)) (h : Named fs cwd c (name ++ ending) x d) :
    Named fs cwd c name x d := by
  have htext : (c.join (name ++ ending)).text = (c.join name).text ++ ending := by
    unfold Path.join
    rw [hlong.relative, hname.relative]
    split
    · next habs => cases habs
    · split <;> simp [String.append_assoc]
  have hne : (c.join name).text ≠ "" := by
    unfold Path.join
    rw [hname.relative]
    split
    · next habs => cases habs
    · split <;> simp [hname.ne_empty]
  have hstep : Files.step d name = .ok (d ++ [name]) := by
    have hs := h.step
    unfold Files.step at hs ⊢
    rw [if_neg hlong.ne_dot, if_neg hlong.ne_up] at hs
    rw [if_neg hname.ne_dot, if_neg hname.ne_up, if_neg]
    intro hlength
    rw [if_pos (by rw [String.utf8ByteSize_append]; omega)] at hs
    cases hs
  refine ⟨checkPath_of_append htext hne h.checked, ?_, h.way, hstep⟩
  rw [← h.start]
  unfold Files.start
  rw [c.isAbsolute_join hname.relative, c.isAbsolute_join hlong.relative]

/-- Only a directory that has the new name is in the way of something else. -/
theorem rename_eq_error_iff {c : Path} {a b : String} {x d : Location} {fault : Fault}
    (ha : ProperName a) (hb : ProperName b) (hab : a ≠ b) (hold : Named fs cwd c a x d)
    (hnew : Named fs cwd c b x d) (hsource : fs.get? (d ++ [a]) = some node)
    (hnode : node ≠ .directory) :
    fs.rename cwd (c.join a) (c.join b) = .error fault ↔
      fault = .isDirectory ∧ fs.get? (d ++ [b]) = some .directory := by
  have hhere := (locateHere_join_iff ha).2 ⟨x, d, hold, rfl⟩
  have hthere := (locateHere_join_iff hb).2 ⟨x, d, hnew, rfl⟩
  have hne : d ++ [b] ≠ d ++ [a] := by simpa using hab.symm
  have hdir := isDirectory_eq_false.2 hnode
  unfold rename findHere present
  rw [hhere, hthere]
  dsimp only [bind, Except.bind]
  rw [hsource]
  dsimp only
  rw [if_neg (by simp [hdir]), if_neg hne, if_neg (by simp [hdir])]
  cases fs.get? (d ++ [b]) with
  | none => simp [pure, Except.pure]
  | some other =>
    cases other with
    | directory => simp [hdir, throw, throwThe, MonadExceptOf.throw, eq_comm]
    | file g =>
      cases node with
      | file f =>
        dsimp only
        split <;> simp [pure, Except.pure]
      | directory => exact absurd rfl hnode
      | _ => simp [Node.isDirectory, pure, Except.pure]
    | _ => simp [hdir, pure, Except.pure]

namespace Renaming

variable {c : Path} {a b : String} {x d : Location} {held : Node}

theorem sound (h : Renaming fs fs' cwd c a b x d held) (hab : a ≠ b) (hfs : fs.Sound) :
    fs'.Sound := by
  rcases h.change with ⟨rfl, -⟩ | ⟨rfl, -⟩
  · exact hfs
  · refine hfs.moveTree (by simp) (by simp) (not_prefix_sibling hab.symm d)
      (not_prefix_sibling hab d) ?_
    rw [List.dropLast_concat]
    exact h.old.directory

theorem get?_other (h : Renaming fs fs' cwd c a b x d held) (hab : a ≠ b) {name : String}
    (ha : name ≠ a) (hb : name ≠ b) : fs'.get? (d ++ [name]) = fs.get? (d ++ [name]) := by
  rcases h.change with ⟨rfl, -⟩ | ⟨rfl, -⟩
  · rfl
  · rw [get?_moveTree_sibling hab, if_neg (not_prefix_sibling hb.symm d),
      if_neg (not_prefix_sibling ha.symm d)]

theorem get?_new (h : Renaming fs fs' cwd c a b x d held) (hab : a ≠ b) (hfs : fs.Sound) :
    ∃ node, fs'.get? (d ++ [b]) = some node ∧
      (node = held ∨ ∃ f g, held = .file f ∧ node = .file g ∧ g.data = f.data) := by
  rcases h.change with ⟨rfl, f, g, rfl, hget, hsame⟩ | ⟨rfl, -⟩
  · exact ⟨_, hget, .inr ⟨f, g, rfl, rfl, (hfs.same _ _ _ _ h.source hget hsame).symm⟩⟩
  · refine ⟨held, ?_, .inl rfl⟩
    rw [get?_moveTree_sibling hab, if_pos (List.prefix_refl _), List.drop_length, List.append_nil]
    exact h.source

/-- If neither name leads on, what leads on stays. -/
theorem passable (h : Renaming fs fs' cwd c a b x d held) (hab : a ≠ b) (hfs : fs.Sound)
    (hdir : held ≠ .directory) (hheld : ∀ target, held ≠ .link target)
    (hfree : ∀ target, fs.get? (d ++ [b]) ≠ some (.link target)) : Passable fs fs' := by
  rcases h.change with ⟨rfl, -⟩ | ⟨rfl, hnew⟩
  · exact (Kept.refl fs').passable
  have hmoved := moved_of_moveTree hab hfs h.old.directory h.source hdir (hnew hdir) (.refl _)
  refine ⟨fun l hl => hmoved.agree l _ hl ?_, fun l target hl => hmoved.agree l _ hl ?_⟩
  · rintro (rfl | rfl)
    · exact hdir (Option.some.inj (h.source.symm.trans hl))
    · exact hnew hdir hl
  · rintro (rfl | rfl)
    · exact hheld target (Option.some.inj (h.source.symm.trans hl))
    · exact hfree target hl

theorem directory (h : Renaming fs fs' cwd c a b x d held) (hab : a ≠ b) (hfs : fs.Sound)
    (hl : fs.get? l = some .directory) (hclear : held ≠ .directory ∨ (a ∉ l ∧ b ∉ l)) :
    fs'.get? l = some .directory := by
  rcases h.change with ⟨rfl, -⟩ | ⟨rfl, hnew⟩
  · exact hl
  have hapart : ¬ d ++ [b] <+: l ∧ ¬ d ++ [a] <+: l := by
    rcases hclear with hheld | ⟨ha, hb⟩
    · have hold : fs.get? (d ++ [a]) ≠ some .directory := by simpa [h.source] using hheld
      exact ⟨hfs.not_below (hnew hheld) (fun he => hnew hheld (he ▸ hl)) hl,
        hfs.not_below hold (fun he => hold (he ▸ hl)) hl⟩
    · exact ⟨fun hbelow => hb (hbelow.subset (by simp)), fun hbelow => ha (hbelow.subset (by simp))⟩
  rw [get?_moveTree_sibling hab, if_neg hapart.1, if_neg hapart.2]
  exact hl

section Found

variable (ha : ProperName a) (hfind : fs.find cwd (c.join a) = .ok (l, node))
  (hnode : node ≠ .directory)

include ha hfind hnode

theorem held_ne (h : Renaming fs fs' cwd c a b x d held) : held ≠ .directory := by
  rintro rfl
  obtain ⟨k, hlast, hl⟩ := h.old.way_of_find ha hfind
  cases hlast.of_directory h.old.step h.source
  exact hnode (Option.some.inj (hl.symm.trans h.source))

/-- What is found under a name that is not a link is what is there. -/
theorem held_eq (h : Renaming fs fs' cwd c a b x d held) (hheld : ∀ target, held ≠ .link target) :
    held = node := by
  obtain ⟨k, hlast, hl⟩ := h.old.way_of_find ha hfind
  have hne := h.held_ne ha hfind hnode
  obtain ⟨-, -, rfl, -⟩ := hlast.of_other h.old.step (by simpa [h.source] using hne)
    (by simpa [h.source] using hheld)
  exact Option.some.inj (h.source.symm.trans hl)

theorem data_of_new (h : Renaming fs fs' cwd c a b x d held) (hab : a ≠ b) (hfs : fs.Sound)
    {f : File} (hf : fs'.get? (d ++ [b]) = some (.file f)) : f.data = node.contents := by
  obtain ⟨other, hother, hheld⟩ := h.get?_new hab hfs
  obtain rfl : other = .file f := Option.some.inj (hother.symm.trans hf)
  rcases hheld with rfl | ⟨f', g, rfl, hg, hdata⟩
  · rw [← h.held_eq ha hfind hnode (by simp)]
    rfl
  · cases hg
    rw [← h.held_eq ha hfind hnode (by simp)]
    exact hdata

theorem find_new (h : Renaming fs fs' cwd c a b x d held) (hb : ProperName b) (hab : a ≠ b)
    (hfs : fs.Sound) (hheld : ∀ target, held ≠ .link target)
    (hfree : ∀ target, fs.get? (d ++ [b]) ≠ some (.link target)) :
    ∃ node', fs'.find cwd (c.join b) = .ok (d ++ [b], node') ∧ node' ≠ .directory ∧
      node'.contents = node.contents := by
  have hne := h.held_ne ha hfind hnode
  obtain rfl := h.held_eq ha hfind hnode hheld
  obtain ⟨node', hget, hsame⟩ := h.get?_new hab hfs
  have hnamed := h.new.of_passable (h.passable hab hfs hne hheld hfree)
  rcases hsame with rfl | ⟨f, g, rfl, rfl, hdata⟩
  · exact ⟨_, hnamed.find hb hget hheld, hne, rfl⟩
  · exact ⟨_, hnamed.find hb hget (by simp), by simp, hdata⟩

end Found

end Renaming

/-! ### What is found afterwards -/

/-- **A file that is renamed within its directory is found under the new name, if anything is**,
also when directories were made since, and whatever links there are. -/
theorem find_renamed {fs'' : Files} {c : Path} {a b : String} (ha : ProperName a)
    (hb : ProperName b) (hab : a ≠ b) (hfs : fs.Sound)
    (hfind : fs.find cwd (c.join a) = .ok (l, node)) (hnode : node ≠ .directory)
    (hren : fs.rename cwd (c.join a) (c.join b) = .ok fs') (hk : Kept fs' fs'') {l' : Location}
    {node' : Node} (hfind' : fs''.find cwd (c.join b) = .ok (l', node')) :
    node'.contents = node.contents := by
  obtain ⟨x, d, held, h⟩ := renaming_of_rename ha hb hab hren
  have hxd := directory_of_start h.old.start
  have hheld := h.held_ne ha hfind hnode
  obtain ⟨n, -, hinit⟩ := h.old.way
  obtain ⟨x₁, c₁, hx₁, hway, hl⟩ := find_eq_ok hfind
  obtain ⟨x₂, c₂, hx₂, hway', hl'⟩ := find_eq_ok hfind'
  obtain rfl := start_unique rfl h.old.start hx₁
  obtain rfl := start_unique rfl h.new.start hx₂
  rw [namesOf_join c ha] at hway
  rw [namesOf_join c hb] at hway'
  rcases h.change with ⟨rfl, f, g, rfl, hget, hfile⟩ | ⟨rfl, hfree⟩
  · obtain rfl := h.held_eq ha hfind hnode (by simp)
    have hget' := hk _ _ hget
    obtain ⟨i, -, hlast, -⟩ := hinit.along_kept hk hxd (by simp [h.old.directory]) hway'
    obtain ⟨-, -, rfl, -⟩ := hlast.of_other h.new.step (by simp [hget']) (by simp [hget'])
    cases hl'.symm.trans hget'
    exact (hfs.same _ _ _ _ h.source hget hfile).symm
  · have hmoved := moved_of_moveTree hab hfs h.old.directory h.source hheld (hfree hheld) hk
    have hget := hmoved.get?_end hxd hinit h.old.step h.new.step hway hl hnode hway'
    rw [Option.some.inj (hl'.symm.trans hget)]

end Formulary.Files
