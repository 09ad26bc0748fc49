import Formulary.Proofs.Machine.Renaming
import Formulary.Proofs.Machine.Written
import Mathlib.Logic.Equiv.Basic

/-!
# Names in the directory that a path leads to

Where a name in a directory is, is a matter of the way to the directory alone: `Leads` says where
the way leads to, `placeIn` where a name is then. What is at a `Plain` place leads on to nowhere,
and is at no other place. So a file system of which only plain places were changed (`Tended`) has
every way that it had before; the operations on single files at such places change nothing else.
-/

namespace Formulary.Files

variable {fs fs' fs'' : Files} {cwd l m d : Location} {c p : Path} {name : String}
  {base : Except Fault Location} {follow : Bool}

/-! ### The way to a directory -/

theorem walk_append {n : Nat} {names rest : List String} (h : fs.Way false n l names d) (k : Nat)
    (hrest : rest ≠ []) :
    fs.walk follow (k + n) l (names ++ rest) = fs.walk follow k d rest := by
  induction h with
  | here l => rfl
  | down hs hd _ ih => rw [List.cons_append, walk_of_directory hs hd, ih]
  | @follow n l next m name target names hs hl _ ih =>
    rw [List.cons_append, ← Nat.add_assoc, walk_of_link hs hl (.inl (by simp [hrest])),
      ← List.append_assoc, ih]
  | stop he => cases he

/-- The walk along one name is a step, unless it leads to a link that is to be followed. -/
theorem walk_single (k : Nat) (h : follow = false ∨ ∀ next, step l name = .ok next →
      ∀ target, fs.get? next ≠ some (.link target)) :
    fs.walk follow k l [name] = step l name := by
  cases hs : step l name with
  | error e => cases k <;> simp [walk, walkFrom, hs, bind, Except.bind]
  | ok next => exact walk_of_last hs (h.imp id fun hlink => hlink next hs)

/-- Where a path leads to a directory, or why it starts nowhere. -/
inductive Leads (fs : Files) (cwd : Location) (c : Path) : Except Fault Location → Prop
  | there {x d : Location} {n : Nat} (hx : fs.start cwd c = .ok x) (hn : n ≤ mostLinks)
    (hway : fs.Way false n x c.names d) : Leads fs cwd c (.ok d)
  | nowhere {e : Fault} (he : fs.start cwd c = .error e) : Leads fs cwd c (.error e)

/-- The place of a name in the directory of a path. -/
def placeIn (base : Except Fault Location) (c : Path) (name : String) : Except Fault Location := do
  checkPath (c.join name)
  step (← base) name

theorem start_join (fs : Files) (cwd : Location) (c : Path) (hname : ProperName name) :
    fs.start cwd (c.join name) = fs.start cwd c := by
  unfold start
  rw [c.isAbsolute_join hname.relative]

namespace Leads

/-- Both ways to find a name come to a step from the directory. -/
theorem walk (h : fs.Leads cwd c base) (hname : ProperName name)
    (hlink : follow = false ∨ ∀ d next, base = .ok d → step d name = .ok next →
      ∀ target, fs.get? next ≠ some (.link target)) :
    (fs.start cwd (c.join name) >>= fun x =>
      fs.walk follow mostLinks x (namesOf (c.join name))) = base >>= fun d => step d name := by
  rw [start_join fs cwd c hname, namesOf_join c hname]
  cases h with
  | @there x d n hx hn hway =>
    obtain ⟨k, hk⟩ := Nat.exists_eq_add_of_le' hn
    rw [hx, hk]
    change fs.walk follow (k + n) x (c.names ++ [name]) = step d name
    rw [walk_append hway k (by simp)]
    exact walk_single k (hlink.imp id fun hl next => hl d next rfl)
  | nowhere he =>
    rw [he]
    rfl

theorem locateHere (h : fs.Leads cwd c base) (hname : ProperName name) :
    fs.locateHere cwd (c.join name) = placeIn base c name := by
  unfold Files.locateHere placeIn
  rw [h.walk hname (.inl rfl)]

theorem locate (h : fs.Leads cwd c base) (hname : ProperName name)
    (hlink : ∀ l, placeIn base c name = .ok l → ∀ target, fs.get? l ≠ some (.link target)) :
    fs.locate cwd (c.join name) = placeIn base c name := by
  unfold Files.locate placeIn
  cases hcheck : checkPath (c.join name) with
  | error e => rfl
  | ok =>
    have hstep : (fs.start cwd (c.join name) >>= fun x =>
        fs.walk true mostLinks x (namesOf (c.join name))) = base >>= fun d => step d name :=
      h.walk hname (.inr fun d next hd hs target =>
        hlink next (by simp [placeIn, hcheck, hd, hs, bind, Except.bind]) target)
    exact hstep

theorem directory (h : fs.Leads cwd c (.ok d)) : fs.get? d = some .directory := by
  cases h with
  | there hx _ hway => exact hway.directory (directory_of_start hx)

theorem of_passable (hp : Passable fs fs') (hback : Passable fs' fs)
    (h : fs.Leads cwd c base) : fs'.Leads cwd c base := by
  cases h with
  | there hx hn hway => exact .there (start_of_passable hp hx) hn (hway.of_passable hp)
  | @nowhere e he =>
    cases hx : fs'.start cwd c with
    | ok x =>
      rw [start_of_passable hback hx] at he
      cases he
    | error e' =>
      -- there is only one reason to start nowhere
      have hreason : ∀ {fs : Files} {e : Fault}, fs.start cwd c = .error e → e = .noEntry := by
        intro fs e he
        unfold start at he
        split at he
        · cases he
        split at he
        · cases he
        · cases he
          rfl
      rw [hreason he, ← hreason hx]
      exact .nowhere hx

end Leads

theorem leads_of_locate (hname : ProperName name) (h : fs.locate cwd (c.join name) = .ok l) :
    ∃ d, fs.Leads cwd c (.ok d) := by
  obtain ⟨-, -, h⟩ := bind_eq_ok.1 h
  obtain ⟨x, hx, h⟩ := bind_eq_ok.1 h
  rw [namesOf_join c hname] at h
  obtain ⟨n, hn, next, ⟨d, hway, -⟩, -⟩ := enters_of_walk h
  rw [start_join fs cwd c hname] at hx
  exact ⟨d, .there hx hn hway⟩

theorem locateHere_of_locate (hname : ProperName name)
    (hlink : ∀ l, fs.locateHere cwd (c.join name) = .ok l →
      ∀ target, fs.get? l ≠ some (.link target))
    (h : fs.locate cwd (c.join name) = .ok l) : fs.locateHere cwd (c.join name) = .ok l := by
  obtain ⟨d, hleads⟩ := leads_of_locate hname h
  rw [hleads.locateHere hname] at hlink ⊢
  rw [← hleads.locate hname hlink]
  exact h

theorem placeIn_eq_ok (hname : ProperName name) (h : placeIn base c name = .ok l) :
    ∃ d, base = .ok d ∧ l = d ++ [name] := by
  obtain ⟨-, -, h⟩ := bind_eq_ok.1 h
  obtain ⟨d, hd, hs⟩ := bind_eq_ok.1 h
  exact ⟨d, hd, step_of_proper hname.ne_dot hname.ne_up hs⟩

/-! ### Plain places -/

/-- What is at a place does not lead on. -/
structure Still (fs : Files) (l : Location) : Prop where
  noDirectory : fs.get? l ≠ some .directory
  noLink : ∀ target, fs.get? l ≠ some (.link target)

/-- What is at a place is no link, and if it is a file, it is at no other place. -/
structure Plain (fs : Files) (l : Location) : Prop where
  noLink : ∀ target, fs.get? l ≠ some (.link target)
  lone : ∀ f, fs.get? l = some (.file f) → ∀ m g, m ≠ l → fs.get? m = some (.file g) →
    isSame f g = false

theorem Plain.of_kept (h : fs.Plain l) (hk : Kept fs' fs) : fs'.Plain l :=
  ⟨fun target hl => h.noLink target (hk l _ hl),
    fun f hf m g hne hg => h.lone f (hk l _ hf) m g hne (hk m _ hg)⟩

/-- Where there are no links and no file has a number, all places are plain. -/
theorem plain_of_entries (h : ∀ e ∈ fs.entries, (∀ target, e.2 ≠ .link target) ∧
    ∀ f, e.2 = .file f → f.serial = 0) (l : Location) : fs.Plain l := by
  have hmem : ∀ node, node ≠ .directory → fs.get? l = some node → (l, node) ∈ fs.entries := by
    intro node hnode hl
    refine mem_entries_of_get? ?_ hl
    rintro rfl
    exact hnode (Option.some.inj hl).symm
  refine ⟨fun target hlink => ?_, fun f hf m g _ _ => ?_⟩
  · exact (h _ (hmem _ (by simp) hlink)).1 target rfl
  · rw [isSame, (h _ (hmem _ (by simp) hf)).2 f rfl]
    rfl

/-- A path that is found at a plain place leads to no other one. -/
theorem Plain.eq_of_leadsTo (h : fs.Plain l) (hl : fs.locate cwd p = .ok l)
    (hm : fs.LeadsTo cwd p m) : m = l := by
  obtain ⟨l', hl', hm⟩ := hm
  cases hl.symm.trans hl'
  rcases hm with rfl | ⟨f, g, hf, hg, hsame⟩
  · rfl
  · by_contra hne
    rw [h.lone f hf m g hne hg] at hsame
    cases hsame

/-- Only what is at some places was changed, and it does not lead on, nor did it before. -/
structure Tended (own : Location → Prop) (fs fs' : Files) : Prop where
  sound : fs.Sound → fs'.Sound
  passable : Passable fs fs'
  back : Passable fs' fs
  elsewhere : ∀ l, ¬ own l → fs'.get? l = fs.get? l
  plain : (∀ l, own l → fs.Plain l) → ∀ l, own l → fs'.Plain l

section Tending

variable {own : Location → Prop}

theorem Tended.refl (own : Location → Prop) (fs : Files) : Tended own fs fs :=
  ⟨id, (Kept.refl fs).passable, (Kept.refl fs).passable, fun _ _ => rfl, id⟩

theorem Tended.trans (h : Tended own fs fs') (h' : Tended own fs' fs'') : Tended own fs fs'' where
  sound := h'.sound ∘ h.sound
  passable := h.passable.trans h'.passable
  back := h'.back.trans h.back
  elsewhere l hl := (h'.elsewhere l hl).trans (h.elsewhere l hl)
  plain := h'.plain ∘ h.plain

theorem passable_of_still (h : ∀ l, fs'.get? l = fs.get? l ∨ fs.Still l) : Passable fs fs' := by
  refine ⟨fun l hl => ?_, fun l target hl => ?_⟩ <;>
    rcases h l with hsame | hstill
  · rwa [hsame]
  · exact absurd hl hstill.noDirectory
  · rwa [hsame]
  · exact absurd hl (hstill.noLink target)

/-- Files have the numbers of the files that they come from, each from one, or they have none. So a
place that was plain stays plain. -/
theorem tended_of_changes (σ : Equiv.Perm Location) (hown : ∀ l, own l → own (σ l))
    (hsound : fs.Sound → fs'.Sound)
    (hchange : ∀ l, fs'.get? l = fs.get? l ∨ own l ∧ fs.Still l ∧ fs'.Still l)
    (hserial : ∀ l f, fs'.get? l = some (.file f) →
      f.serial = 0 ∨ ∃ g, fs.get? (σ l) = some (.file g) ∧ f.serial = g.serial) :
    Tended own fs fs' where
  sound := hsound
  passable := passable_of_still fun l => (hchange l).imp id fun h => h.2.1
  back := passable_of_still fun l => (hchange l).imp Eq.symm fun h => h.2.2
  elsewhere l hl := (hchange l).resolve_right fun h => hl h.1
  plain hplain l hl := by
    refine ⟨fun target hlink => ?_, fun f hf m g hne hg => ?_⟩
    · rcases hchange l with hsame | ⟨-, -, hstill⟩
      · exact (hplain l hl).noLink target (hsame ▸ hlink)
      · exact hstill.noLink target hlink
    · rcases hserial l f hf with hzero | ⟨f', hf', hserial'⟩
      · simp [isSame, hzero]
      rcases hserial m g hg with hzero | ⟨g', hg', hother⟩
      · simp [isSame, hzero]
      have hne' : σ m ≠ σ l := fun h => hne (σ.injective h)
      have hsame := (hplain _ (hown l hl)).lone f' hf' _ g' hne' hg'
      rw [isSame, hserial', hother]
      exact hsame

/-! ### Operations at plain places -/

theorem get?_remove_file (hfs : fs.Sound) (hl : fs.get? l ≠ some .directory) (m : Location) :
    (fs.remove l).get? m = if m = l then none else fs.get? m := by
  have hne : l ≠ [] := by
    rintro rfl
    exact hl rfl
  rw [get?_remove hne]
  by_cases hm : m = l
  · rw [if_pos hm, if_pos (hm ▸ List.prefix_refl _)]
  · rw [if_neg hm]
    split
    · next hbelow =>
      cases hget : fs.get? m with
      | none => rfl
      | some node => exact absurd hbelow (hfs.not_below hl hm hget)
    · rfl

/-- What is moved within a directory, and is none itself, is all that has changed its place. -/
theorem get?_moveTree_file {a b : String} (hab : a ≠ b) (hfs : fs.Sound)
    (ha : fs.get? (d ++ [a]) ≠ some .directory) (hb : fs.get? (d ++ [b]) ≠ some .directory)
    (m : Location) :
    (fs.moveTree (d ++ [a]) (d ++ [b])).get? m =
      if m = d ++ [b] then fs.get? (d ++ [a]) else if m = d ++ [a] then none else fs.get? m := by
  have hbelow : ∀ {l m : Location}, fs.get? l ≠ some .directory → m ≠ l → l <+: m →
      fs.get? m = none := by
    intro l m hl hne hm
    cases hget : fs.get? m with
    | none => rfl
    | some node => exact absurd hm (hfs.not_below hl hne hget)
  rw [get?_moveTree_sibling hab]
  by_cases hmb : m = d ++ [b]
  · subst hmb
    rw [if_pos (List.prefix_refl _), if_pos rfl, List.drop_length, List.append_nil]
  rw [if_neg hmb]
  have hma : d ++ [b] <+: m → m ≠ d ++ [a] := by
    rintro hm rfl
    exact not_prefix_sibling hab.symm d hm
  split
  · next hm =>
    obtain ⟨below, rfl⟩ := hm
    rw [if_neg (hma (List.prefix_append _ _)), List.drop_left,
      hbelow hb hmb (List.prefix_append _ _)]
    refine hbelow ha (fun hsame => hmb ?_) (List.prefix_append _ _)
    have hnil : below = [] := by simpa using hsame
    rw [hnil, List.append_nil]
  · split
    · next hm =>
      by_cases hsame : m = d ++ [a]
      · rw [if_pos hsame]
      · rw [if_neg hsame, hbelow ha hsame hm]
    · next hm =>
      rw [if_neg]
      rintro rfl
      exact hm (List.prefix_refl _)

theorem tended_remove (hfs : fs.Sound) (hl : own l) (hplain : fs.Plain l)
    (hdir : fs.get? l ≠ some .directory) : Tended own fs (fs.remove l) := by
  have hget := get?_remove_file hfs hdir
  have hne : l ≠ [] := by
    rintro rfl
    exact hdir rfl
  refine tended_of_changes (Equiv.refl _) (fun _ => id) (fun _ => hfs.remove hne) (fun m => ?_)
    fun m f hf => .inr ⟨f, kept_remove hne m _ hf, rfl⟩
  by_cases hm : m = l
  · subst hm
    exact .inr ⟨hl, ⟨hdir, hplain.noLink⟩, by simp [hget], by simp [hget]⟩
  · rw [hget, if_neg hm]
    exact .inl rfl

theorem tended_move {a b : String} (hab : a ≠ b) (hfs : fs.Sound)
    (hd : fs.get? d = some .directory) (hown : own (d ++ [a]) ∧ own (d ++ [b]))
    (hplain : ∀ l, own l → fs.Plain l) (ha : fs.get? (d ++ [a]) ≠ some .directory)
    (hb : fs.get? (d ++ [b]) ≠ some .directory) :
    Tended own fs (fs.moveTree (d ++ [a]) (d ++ [b])) := by
  have hget := get?_moveTree_file hab hfs ha hb
  have hswap : ∀ m, Equiv.swap (d ++ [a]) (d ++ [b]) m =
      if m = d ++ [a] then d ++ [b] else if m = d ++ [b] then d ++ [a] else m :=
    Equiv.swap_apply_def _ _
  have hne : d ++ [b] ≠ d ++ [a] := by simpa using hab.symm
  refine tended_of_changes (Equiv.swap (d ++ [a]) (d ++ [b])) (fun l hl => ?_) (fun _ => ?_)
    (fun m => ?_) fun m f hf => .inr ⟨f, ?_, rfl⟩
  · rw [hswap]
    split
    · exact hown.2
    split
    · exact hown.1
    · exact hl
  · refine hfs.moveTree (by simp) (by simp) (not_prefix_sibling hab.symm d)
      (not_prefix_sibling hab d) ?_
    rwa [List.dropLast_concat]
  · have hstill : ∀ l, own l → fs.get? l ≠ some .directory → fs.Still l :=
      fun l hl hdir => ⟨hdir, (hplain l hl).noLink⟩
    by_cases hmb : m = d ++ [b]
    · subst hmb
      refine .inr ⟨hown.2, hstill _ hown.2 hb, ?_, ?_⟩
      · rw [hget, if_pos rfl]
        exact ha
      · rw [hget, if_pos rfl]
        exact (hplain _ hown.1).noLink
    by_cases hma : m = d ++ [a]
    · subst hma
      exact .inr ⟨hown.1, hstill _ hown.1 ha, by simp [hget, hmb], by simp [hget, hmb]⟩
    · rw [hget, if_neg hmb, if_neg hma]
      exact .inl rfl
  · rw [hget] at hf
    rw [hswap]
    split at hf
    · next hmb =>
      rw [if_neg (hmb ▸ hne), if_pos hmb]
      exact hf
    · next hmb =>
      split at hf
      · cases hf
      · next hma =>
        rw [if_neg hma, if_neg hmb]
        exact hf

/-- To write to a plain place is to change nothing else, if that gives the file no further name. -/
theorem tended_written (h : Written fs cwd p fs')
    (hp : ∀ l, fs.locate cwd p = .ok l → own l ∧ fs.Plain l)
    (hserial : ∀ l f, fs.locate cwd p = .ok l → fs'.get? l = some (.file f) →
      f.serial = 0 ∨ ∃ g, fs.get? l = some (.file g) ∧ f.serial = g.serial) :
    Tended own fs fs' := by
  have hled : ∀ l, fs.LeadsTo cwd p l → fs.locate cwd p = .ok l := by
    intro l hl
    obtain ⟨m, hm, -⟩ := id hl
    rw [(hp m hm).2.eq_of_leadsTo hm hl]
    exact hm
  refine tended_of_changes (Equiv.refl _) (fun _ => id) h.sound (fun l => ?_) fun l f hf => ?_
  · by_cases hl : fs.LeadsTo cwd p l
    · refine (h.there l).imp id fun ⟨hold, f, hf⟩ => ⟨(hp l (hled l hl)).1, ?_, ?_⟩
      · refine ⟨fun hdir => ?_, (hp l (hled l hl)).2.noLink⟩
        obtain ⟨f, hf⟩ := hold _ hdir
        cases hf
      · exact ⟨by simp [hf], by simp [hf]⟩
    · exact .inl (h.elsewhere l hl)
  · by_cases hl : fs.LeadsTo cwd p l
    · exact hserial l f (hled l hl) hf
    · rw [h.elsewhere l hl] at hf
      exact .inr ⟨f, hf, rfl⟩

end Tending

/-! ### What operations come to -/

section At

variable {place target : Except Fault Location}

theorem find_at (h : fs.locate cwd p = place) :
    fs.find cwd p = place >>= fun l => match fs.get? l with
      | none => .error .noEntry
      | some node => .ok (l, node) := by
  unfold find present
  rw [h]
  cases place with
  | error e => rfl
  | ok l =>
    dsimp only [bind, Except.bind]
    cases fs.get? l <;> rfl

theorem removeFile_at (h : fs.locateHere cwd p = place) :
    fs.removeFile cwd p = place >>= fun l => match fs.get? l with
      | none => .error .noEntry
      | some node => if node.isDirectory then .error .isDirectory else .ok (fs.remove l) := by
  unfold removeFile findHere present
  rw [h]
  cases place with
  | error e => rfl
  | ok l =>
    dsimp only [bind, Except.bind]
    cases fs.get? l with
    | none => rfl
    | some node => cases node <;> rfl

/-- Moving what is at a place that a path leads to, unless a directory is in its way. -/
def moveAt (fs : Files) (place target : Except Fault Location) : Except Fault Files :=
  place >>= fun l => match fs.get? l with
    | none => .error .noEntry
    | some _ => target >>= fun t =>
      if fs.get? t = some .directory then .error .isDirectory else .ok (fs.moveTree l t)

/-- Renaming a file that is at no other place is nothing but moving it. -/
theorem rename_at {q : Path} (hp : fs.locateHere cwd p = place) (hq : fs.locateHere cwd q = target)
    (hne : ∀ l t, place = .ok l → target = .ok t → t ≠ l)
    (hplain : ∀ l, place = .ok l → fs.Plain l ∧ fs.get? l ≠ some .directory) :
    fs.rename cwd p q = fs.moveAt place target := by
  unfold rename moveAt findHere present
  rw [hp, hq]
  cases place with
  | error e => rfl
  | ok l =>
    dsimp only [bind, Except.bind]
    obtain ⟨hlone, hdir⟩ := hplain l rfl
    cases hl : fs.get? l with
    | none => rfl
    | some node =>
      have hnode : node.isDirectory = false :=
        isDirectory_eq_false.2 fun h => hdir (by rw [hl, h])
      dsimp only
      rw [if_neg (by simp [hnode])]
      cases target with
      | error e => rfl
      | ok t =>
        dsimp only
        rw [if_neg (hne l t rfl rfl), if_neg (by simp [hnode])]
        have hsame : ∀ f g, fs.get? t = some (.file g) → node = .file f → isSame f g = false := by
          rintro f g hg rfl
          exact hlone.lone f hl t g (hne l t rfl rfl) hg
        cases ht : fs.get? t with
        | none => rfl
        | some other =>
          cases other with
          | directory => simp [hnode, throw, throwThe, MonadExceptOf.throw]
          | file g =>
            cases node with
            | file f => simp [hsame f g ht rfl, pure, Except.pure]
            | directory => cases hnode
            | _ => simp [Node.isDirectory, pure, Except.pure]
          | _ => simp [hnode, pure, Except.pure]

end At

end Formulary.Files
