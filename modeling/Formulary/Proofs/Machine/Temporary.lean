import Formulary.Proofs.Machine.Alike
import Formulary.Proofs.Machine.Renaming

/-!
# Temporary directories

A temporary directory is made where there was nothing (`Made`), or nothing is made. It is given up by
removing what its path names then; as long as that is the directory (`Names`), there is nothing left at
its place. How often it was looked whether to stop does not matter to its making.
-/

namespace Formulary.Disk

/-! ### Making one -/

/-- The world from which so many more looks whether to stop have been taken. -/
def After (n : Nat) (w w' : World) : Prop := w' = { w with looks := w.looks + n }

theorem alike_makeFresh (label : String) (dir : Path) (tries n : Nat) :
    Act.Alike (After n) (makeFresh label dir tries) (makeFresh label dir tries) := by
  induction tries with
  | zero => exact .pure _
  | succ tries ih =>
    unfold makeFresh
    refine .bind (fun w w' h => ?_) fun ticket => .bind (fun w w' h => ?_) fun result => ?_
    · obtain rfl := h
      exact ⟨rfl, rfl⟩
    · obtain rfl := h
      unfold makeDirectory
      rw [outcome_change, outcome_change]
      dsimp only [World.here]
      cases w.files.makeDirectory w.cwd.parts (dir.join (label ++ nameTail ticket)) with
      | ok files => exact ⟨rfl, rfl⟩
      | error e => exact ⟨rfl, rfl⟩
    · split
      · exact .pure _
      · exact ih
      · exact .pure _

/-- Where a temporary directory is made does not depend on the looks before. -/
theorem alike_makeTemporary (label : String) (n : Nat) :
    Act.Alike (After n) (makeTemporary label) (makeTemporary label) := by
  intro w w' h
  have henv : w'.env = w.env ∧ w'.cwd = w.cwd := by
    obtain rfl := h
    exact ⟨rfl, rfl⟩
  unfold makeTemporary
  rw [outcome_bind, outcome_bind, outcome_get, outcome_get]
  dsimp only
  rw [henv.1, henv.2]
  exact alike_makeFresh label _ mostNames n w w' h

/-! ### Where it is -/

/-- A temporary directory is made in a world: its path, its place, and the world in which it is
there. -/
structure Made (label : String) (w : World) (p : Path) (l : Location) (v : World) : Prop where
  made : outcome (makeTemporary label) w = (.ok p, v)
  named : ∃ (dir : Path) (n : Nat), p = dir.join (label ++ nameTail n)
  located : w.files.locateNew w.here p = .ok l
  free : w.files.get? l = none
  files : v.files = w.files.put l .directory

/-- Names that are taken are passed over, so either one directory is made, or none is. -/
theorem makeFresh_cases (label : String) (dir : Path) (tries : Nat) (w : World) :
    (∃ n l v, outcome (makeFresh label dir tries) w = (.ok (dir.join (label ++ nameTail n)), v) ∧
      w.files.locateNew w.here (dir.join (label ++ nameTail n)) = .ok l ∧
      w.files.get? l = none ∧ v.files = w.files.put l .directory) ∨
    ∃ e v, outcome (makeFresh label dir tries) w = (.error e, v) ∧ v.files = w.files := by
  induction tries generalizing w with
  | zero => exact .inr ⟨_, w, rfl, rfl⟩
  | succ tries ih =>
    let v : World := { w with tickets := w.tickets + 1 }
    have hticket : outcome (modifyGet fun w : World =>
        (w.tickets, { w with tickets := w.tickets + 1 })) w = (w.tickets, v) := rfl
    unfold makeFresh
    rw [outcome_bind, hticket]
    dsimp only
    rw [outcome_bind]
    unfold makeDirectory
    rw [outcome_change]
    cases hmake : v.files.makeDirectory v.here (dir.join (label ++ nameTail w.tickets)) with
    | ok files =>
      obtain ⟨l, hl, hfree, rfl⟩ := Files.makeDirectory_eq_ok hmake
      exact .inl ⟨_, l, _, rfl, hl, hfree, rfl⟩
    | error e =>
      cases e with
      | «exists» => exact ih v
      | _ => exact .inr ⟨_, v, rfl, rfl⟩

theorem exists_makeFresh_eq (label : String) (w : World) :
    ∃ dir, outcome (makeTemporary label) w = outcome (makeFresh label dir mostNames) w := by
  unfold makeTemporary
  rw [outcome_bind, outcome_get]
  exact ⟨_, rfl⟩

theorem makeTemporary_cases (label : String) (w : World) :
    (∃ p l v, Made label w p l v) ∨
    ∃ e v, outcome (makeTemporary label) w = (.error e, v) ∧ v.files = w.files := by
  obtain ⟨dir, hfresh⟩ := exists_makeFresh_eq label w
  rw [hfresh]
  refine (makeFresh_cases label dir mostNames w).imp ?_ id
  rintro ⟨n, l, v, hmade, hlocated, hfree, hfiles⟩
  exact ⟨_, l, v, hfresh.trans hmade, ⟨dir, n, rfl⟩, hlocated, hfree, hfiles⟩

namespace Made

variable {label : String} {w v v' : World} {p p' : Path} {l l' : Location}

theorem of_made (h : outcome (makeTemporary label) w = (.ok p, v)) : ∃ l, Made label w p l v := by
  rcases makeTemporary_cases label w with ⟨p', l, v', hmade⟩ | ⟨e, v', hfailed, -⟩
  · obtain ⟨hp, rfl⟩ := Prod.mk.inj (h.symm.trans hmade.made)
    cases hp
    exact ⟨l, hmade⟩
  · cases h.symm.trans hfailed

theorem ne_nil (h : Made label w p l v) : l ≠ [] := by
  rintro rfl
  cases h.free

theorem directory (h : Made label w p l v) : v.files.get? l = some .directory := by
  rw [h.files]
  exact Files.get?_put_self h.ne_nil

theorem sound (h : Made label w p l v) (hfiles : w.files.Sound) : v.files.Sound := by
  rw [h.files]
  exact hfiles.put_directory h.free (Files.directory_of_locateNew hfiles h.located h.free)

end Made

/-! ### Giving it up -/

/-- What a path names in a world is at a place, and can be removed with all that is in it. -/
def Names (w : World) (p : Path) (l : Location) : Prop :=
  ∃ node, w.files.findHere w.here p = .ok (l, node) ∧ node.isTree = true

theorem outcome_removeTree {w : World} {p : Path} {l : Location} (h : Names w p l) :
    outcome (removeTree p) w = (.ok (), { w with files := w.files.remove l }) := by
  obtain ⟨node, hfound, htree⟩ := h
  unfold removeTree
  rw [outcome_change]
  unfold Files.removeTree
  rw [hfound]
  dsimp only [bind, Except.bind]
  rw [if_pos htree]
  rfl

/-! ### What it is called -/

theorem noSlash_nameTail (n : Nat) : '/' ∉ (nameTail n).toList := by
  unfold nameTail
  dsimp only
  rw [String.toList_ofList, List.mem_map]
  rintro ⟨i, -, hi⟩
  cases hget : nameCharacters[n / Nat.pow nameCharacters.length i % nameCharacters.length]? with
  | none =>
    rw [hget] at hi
    cases hi
  | some character =>
    rw [hget] at hi
    obtain rfl : character = '/' := hi
    exact absurd (List.mem_of_getElem? hget) (by decide)

theorem properName_temporary {label : String} (hlabel : '/' ∉ label.toList) (n : Nat) :
    ProperName (label ++ nameTail n) := by
  refine .of_length (by simp [hlabel, noSlash_nameTail]) ?_
  have hlength : (nameTail n).length = 6 := by simp [nameTail]
  rw [String.length_append, hlength]
  omega

/-- As long as all directories and links stay that there were when it was made, the path of a
temporary directory names it. -/
theorem Made.names {label : String} {w u v : World} {p : Path} {l : Location}
    (h : Made label w p l v) (hlabel : '/' ∉ label.toList) (hcwd : u.cwd = v.cwd)
    (hpassable : Files.Passable v.files u.files) : Names u p l := by
  obtain ⟨dir, n, rfl⟩ := h.named
  have hname := properName_temporary hlabel n
  have hhere : u.here = w.here := by
    have hgrown := grows_makeTemporary label w
    rw [h.made] at hgrown
    exact congrArg Path.parts (hcwd.trans hgrown.cwd)
  have hkept : Files.Passable w.files v.files := by
    rw [h.files]
    exact (Files.kept_put h.free).passable
  have hlocated := h.located
  rw [Files.locateNew_join _ _ _ hname] at hlocated
  refine ⟨.directory, ?_, rfl⟩
  unfold Files.findHere Files.present
  rw [hhere, Files.locateHere_of_passable hname hpassable
    (Files.locateHere_of_passable hname hkept hlocated)]
  dsimp only [bind, Except.bind]
  rw [hpassable.directory l h.directory]

end Formulary.Disk
