import Formulary.Proofs.Machine.Operations

/-!
# What writing to a path changes

A program that writes to a path changes the file that the path leads to, and nothing else: `Written`.
That file may be at several places, by links and by further names of one file (`LeadsTo`). To write
a file in one go is an instance: `written_of_write`.
-/

namespace Formulary

/-- What becomes of a node when a file is put anew somewhere. -/
def Node.renewed (f : File) : Node → Node
  | .file g => .file (if Files.isSame f g then f else g)
  | node => node

namespace Files

variable {fs fs' : Files} {cwd l m : Location} {p : Path} {f : File} {node : Node}

/-! ### Putting a file -/

theorem lookup_map (g : Node → Node) (entries : List (Location × Node)) :
    (entries.map fun entry => (entry.1, g entry.2)).lookup m = (entries.lookup m).map g := by
  induction entries with
  | nil => rfl
  | cons entry rest ih =>
    obtain ⟨k, old⟩ := entry
    rw [List.map_cons, lookup_cons_eq, lookup_cons_eq, ih]
    split <;> rfl

theorem get?_putFile (hl : l ≠ []) (f : File) (m : Location) :
    (fs.putFile l f).get? m = if m = l then some (.file f) else (fs.get? m).map (Node.renewed f) := by
  rcases eq_or_ne m [] with rfl | hm
  · rw [if_neg (Ne.symm hl)]
    rfl
  have hentries : (fs.putFile l f).entries =
      (fs.put l (.file f)).entries.map fun entry => (entry.1, entry.2.renewed f) := by
    refine List.map_congr_left fun entry _ => ?_
    obtain ⟨place, node⟩ := entry
    cases node with
    | file g =>
      dsimp only [Node.renewed]
      split <;> rfl
    | _ => rfl
  rw [get?_of_ne_nil hm, hentries, lookup_map, ← get?_of_ne_nil hm]
  split
  · next h =>
    rw [h, get?_put_self hl, Option.map_some, Node.renewed, ite_self]
  · next h => rw [get?_put_of_ne h]

theorem isSame_symm {f g : File} (h : isSame f g = true) : isSame g f = true := by
  simp only [isSame, Bool.and_eq_true, decide_eq_true_eq] at h ⊢
  exact ⟨h.2 ▸ h.1, h.2.symm⟩

theorem isSame_of_serial {f f' : File} (h : f'.serial = f.serial) (g : File) :
    isSame f' g = isSame f g := by
  rw [isSame, isSame, h]

/-- A file system does not become unsound when a file is put in a directory, where no directory
is. -/
theorem Sound.putFile (hfs : fs.Sound) (hl : l ≠ []) (hdir : fs.get? l ≠ some .directory)
    (hparent : fs.get? l.dropLast = some .directory) (f : File) : (fs.putFile l f).Sound := by
  have hput : ∀ m, (fs.putFile l f).get? m =
      if m = l then some (.file f) else (fs.get? m).map (Node.renewed f) := get?_putFile hl f
  have hdirectory : ∀ m, fs.get? m = some .directory →
      (fs.putFile l f).get? m = some .directory := by
    intro m hm
    rw [hput, if_neg, hm]
    · rfl
    · rintro rfl
      exact hdir hm
  -- a file is the new one, or an old one that is another file
  have hfile : ∀ m g, (fs.putFile l f).get? m = some (.file g) →
      g = f ∨ (isSame f g = false ∧ fs.get? m = some (.file g)) := by
    intro m g hm
    rw [hput] at hm
    split at hm
    · exact .inl (Node.file.inj (Option.some.inj hm)).symm
    · obtain ⟨node, hnode, hrenewed⟩ := Option.map_eq_some_iff.1 hm
      cases node with
      | file g' =>
        rw [Node.renewed, Node.file.injEq] at hrenewed
        split at hrenewed
        · exact .inl hrenewed.symm
        · next hother =>
          subst hrenewed
          exact .inr ⟨by simpa using hother, hnode⟩
      | _ => cases hrenewed
  refine ⟨fun m node hm hget => ?_, fun m m' g g' hg hg' hsame => ?_⟩
  · refine hdirectory _ ?_
    rw [hput] at hget
    split at hget
    · next h => rwa [h]
    · obtain ⟨old, hold, -⟩ := Option.map_eq_some_iff.1 hget
      exact hfs.parent m old hm hold
  · rcases hfile m g hg with rfl | ⟨hg, hold⟩
    · rcases hfile m' g' hg' with rfl | ⟨hg', -⟩
      · rfl
      · rw [hsame] at hg'
        cases hg'
    · rcases hfile m' g' hg' with rfl | ⟨-, hold'⟩
      · rw [isSame_symm hsame] at hg
        cases hg
      · exact hfs.same m m' g g' hold hold' hsame

theorem Sound.of_get? (hfs : fs.Sound) (h : ∀ m, fs'.get? m = fs.get? m) : fs'.Sound :=
  ⟨fun l node hl hget => by
      rw [h] at hget ⊢
      exact hfs.parent l node hl hget,
    fun l m f g hf hg => hfs.same l m f g (by rwa [← h]) (by rwa [← h])⟩

/-! ### Writing -/

/-- A place holds the file that a path leads to. -/
def LeadsTo (fs : Files) (cwd : Location) (p : Path) (l : Location) : Prop :=
  ∃ m, fs.locate cwd p = .ok m ∧
    (l = m ∨ ∃ f g, fs.get? m = some (.file f) ∧ fs.get? l = some (.file g) ∧ isSame f g = true)

/-- Only the file that a path leads to was written: where there was one, or nothing, there may be
another one. -/
structure Written (fs : Files) (cwd : Location) (p : Path) (fs' : Files) : Prop where
  sound : fs.Sound → fs'.Sound
  elsewhere : ∀ l, ¬ fs.LeadsTo cwd p l → fs'.get? l = fs.get? l
  there : ∀ l, fs'.get? l = fs.get? l ∨
    (∀ node, fs.get? l = some node → ∃ f, node = .file f) ∧ ∃ f, fs'.get? l = some (.file f)

theorem Written.refl (fs : Files) (cwd : Location) (p : Path) : Written fs cwd p fs :=
  ⟨id, fun _ _ => rfl, fun _ => .inl rfl⟩

theorem Written.passable (h : Written fs cwd p fs') : Passable fs' fs := by
  refine ⟨fun l hl => ?_, fun l target hl => ?_⟩ <;>
    rcases h.there l with hsame | ⟨-, f, hf⟩
  · rwa [← hsame]
  · cases hl.symm.trans hf
  · rwa [← hsame]
  · cases hl.symm.trans hf

theorem Written.back (h : Written fs cwd p fs') : Passable fs fs' := by
  refine ⟨fun l hl => ?_, fun l target hl => ?_⟩ <;>
    rcases h.there l with hsame | ⟨hold, -⟩
  · rwa [hsame]
  · obtain ⟨f, hf⟩ := hold _ hl
    cases hf
  · rwa [hsame]
  · obtain ⟨f, hf⟩ := hold _ hl
    cases hf

/-- A file that is put anew at a place: a new one where there was nothing, or the one that was there
under its number. -/
def PutAnew (fs : Files) (l : Location) (f : File) : Prop :=
  (fs.get? l = none ∧ f.serial = 0) ∨ ∃ g, fs.get? l = some (.file g) ∧ f.serial = g.serial

theorem PutAnew.ne_directory (h : fs.PutAnew l f) : fs.get? l ≠ some .directory := by
  rcases h with ⟨hnone, -⟩ | ⟨g, hg, -⟩
  · simp [hnone]
  · simp [hg]

theorem PutAnew.ne_nil (h : fs.PutAnew l f) : l ≠ [] := by
  rintro rfl
  exact h.ne_directory rfl

/-- To put a file anew where a path leads to is to write to the path. -/
theorem written_of_putFile (hlocate : fs.locate cwd p = .ok l) (hold : fs.PutAnew l f)
    (h : ∀ m, fs'.get? m = (fs.putFile l f).get? m) : Written fs cwd p fs' := by
  have hdir := hold.ne_directory
  have hl := hold.ne_nil
  refine ⟨fun hfs => ?_, fun m hm => ?_, fun m => ?_⟩
  · obtain ⟨-, -, hwalk⟩ := bind_eq_ok.1 hlocate
    obtain ⟨x, hx, hwalk⟩ := bind_eq_ok.1 hwalk
    obtain ⟨n, -, hway⟩ := way_of_walk hwalk
    have hparent := hfs.parent_of_way hway (directory_of_start hx) hdir
    exact (hfs.putFile hl hdir hparent f).of_get? h
  · have hml : m ≠ l := by
      rintro rfl
      exact hm ⟨m, hlocate, .inl rfl⟩
    rw [h, get?_putFile hl, if_neg hml]
    cases hget : fs.get? m with
    | none => rfl
    | some node =>
      cases node with
      | file g =>
        rw [Option.map_some, Node.renewed, if_neg]
        -- the same file there would be one that the path leads to
        intro hsame
        rcases hold with ⟨-, hzero⟩ | ⟨g', hg', hserial⟩
        · simp [isSame, hzero] at hsame
        · rw [isSame_of_serial hserial] at hsame
          exact hm ⟨l, hlocate, .inr ⟨g', g, hg', hget, hsame⟩⟩
      | _ => rfl
  · rw [h, get?_putFile hl]
    split
    · next hml =>
      subst hml
      refine .inr ⟨fun node hnode => ?_, f, rfl⟩
      rcases hold with ⟨hnone, -⟩ | ⟨g, hg, -⟩
      · cases hnone.symm.trans hnode
      · cases hg.symm.trans hnode
        exact ⟨g, rfl⟩
    · cases hget : fs.get? m with
      | none => exact .inl rfl
      | some node =>
        cases node with
        | file g =>
          refine .inr ⟨fun node hnode => ?_, _, rfl⟩
          cases hnode
          exact ⟨g, rfl⟩
        | _ => exact .inl rfl

theorem get?_change (fs : Files) (l : Location) (f : File) (m : Location) :
    (fs.change l f).get? m = (fs.putFile l { f with changed := fs.turn }).get? m := by
  cases m <;> rfl

/-- A file that is put anew twice is the one that was put last. -/
theorem renewed_renewed {f f' : File} (h : f'.serial = f.serial) (node : Node) :
    (node.renewed f).renewed f' = node.renewed f' := by
  cases node with
  | file g =>
    simp only [Node.renewed, isSame_of_serial h, Node.file.injEq]
    split
    · next hsame =>
      have hself : isSame f f = true := by
        simp only [isSame, Bool.and_eq_true, decide_eq_true_eq] at hsame ⊢
        exact ⟨hsame.1, trivial⟩
      rw [if_pos hself]
    · rfl
  | _ => rfl

/-- To empty a file and then to add bytes to it is to put it anew once. -/
theorem get?_change_append (hl : l ≠ []) (f : File) (bytes : Bytes) (m : Location) :
    ((fs.change l f).append l bytes).get? m =
      (fs.putFile l { f with data := f.data ++ bytes, changed := fs.turn + 1 }).get? m := by
  have hthere : (fs.change l f).get? l = some (.file { f with changed := fs.turn }) := by
    rw [get?_change, get?_putFile hl, if_pos rfl]
  unfold append
  rw [hthere]
  dsimp only
  rw [get?_change, get?_putFile hl, get?_change, get?_putFile hl, get?_putFile hl]
  split
  · rfl
  · rw [Option.map_map]
    exact congrArg (Option.map · (fs.get? m)) (funext fun node => renewed_renewed (by rfl) node)

/-- What is at the place that a file is written to: the bytes, in a file that is put anew, or what
was there, if that is neither a file nor a directory. -/
theorem write_cases {bytes : Bytes} (h : fs.write cwd p bytes = .ok fs') :
    ∃ l, fs.locate cwd p = .ok l ∧
      ((∃ f, f.data = bytes ∧ fs.PutAnew l f ∧ ∀ m, fs'.get? m = (fs.putFile l f).get? m) ∨
        ∃ node, fs.get? l = some node ∧ node ≠ .directory ∧ (∀ f, node ≠ .file f) ∧ fs' = fs) := by
  obtain ⟨⟨l, opened⟩, hopen, h⟩ := bind_eq_ok.1 h
  dsimp only at h
  split at h
  · cases h
  cases h
  unfold openForWriting at hopen
  split at hopen
  · split at hopen
    · obtain ⟨m, -, hopen⟩ := bind_eq_ok.1 hopen
      split at hopen <;> cases hopen
    · cases hopen
  next m hlocate =>
  have hne : fs.get? m ≠ some .directory → m ≠ [] := by
    rintro hdir rfl
    exact hdir rfl
  refine ⟨l, ?_⟩
  split at hopen
  · next hnone =>
    cases hopen
    exact ⟨hlocate, .inl ⟨{ data := bytes, changed := fs.turn + 1 }, rfl, .inl ⟨hnone, rfl⟩,
      get?_change_append (hne (by simp [hnone])) {} bytes⟩⟩
  · cases hopen
  · next f hf =>
    rw [if_neg Bool.false_ne_true] at hopen
    cases hopen
    exact ⟨hlocate, .inl ⟨{ f with data := bytes, changed := fs.turn + 1 }, rfl,
      .inr ⟨f, hf, rfl⟩, get?_change_append (hne (by simp [hf])) { f with data := [] } bytes⟩⟩
  · next node hdir hfile hget =>
    cases hopen
    have happend : fs.append l bytes = fs := by
      unfold append
      split
      · next f hf =>
        rw [hget] at hf
        exact absurd (Option.some.inj hf) (hfile f)
      · rfl
    exact ⟨hlocate, .inr ⟨node, hget, fun h => hdir h, hfile, happend⟩⟩

/-- **A file that is written is the one that the path leads to.** -/
theorem written_of_write {bytes : Bytes} (h : fs.write cwd p bytes = .ok fs') :
    Written fs cwd p fs' := by
  obtain ⟨l, hlocate, ⟨f, -, hanew, hput⟩ | ⟨node, -, -, -, rfl⟩⟩ := write_cases h
  · exact written_of_putFile hlocate hanew hput
  · exact .refl _ cwd p

end Files

end Formulary
