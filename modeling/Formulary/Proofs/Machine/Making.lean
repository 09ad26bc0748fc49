import Formulary.Proofs.Machine.Actions
import Formulary.Proofs.Machine.Leads

/-!
# Making a directory once more

A path leads to a directory just if there is one at it, and then making the directory with all that
leads to it changes nothing (`makeAll_of_leads`). Conversely, where it changes nothing and succeeds,
the directory is there (`isDirectory_of_makeAll`).
-/

namespace Formulary

namespace Files

variable {fs : Files} {cwd l m d : Location} {c : Path} {n : Nat} {e : Bool} {names : List String}

theorem Way.strict (h : fs.Way e n l names m) (hm : fs.get? m = some .directory) :
    fs.Way false n l names m := by
  induction h with
  | here l => exact .here l
  | down hs hd _ ih => exact .down hs hd (ih hm)
  | follow hs hl _ ih => exact .follow hs hl (ih hm)
  | stop _ _ hd => exact absurd hm hd

theorem Way.enters {init : List String} {name : String}
    (h : fs.Way false n l (init ++ [name]) m) :
    ∃ k ≤ n, ∃ next, fs.Enters k l init name next ∧ fs.get? next ≠ none := by
  generalize hnames : init ++ [name] = names at h
  induction h generalizing init with
  | here => simp at hnames
  | @down n l next m first rest hs hd _ ih =>
    cases init with
    | nil =>
      obtain ⟨rfl, rfl⟩ := List.cons.inj hnames
      exact ⟨0, Nat.zero_le _, next, ⟨l, .here l, hs⟩, by simp [hd]⟩
    | cons other init =>
      obtain ⟨rfl, hrest⟩ := List.cons.inj hnames
      obtain ⟨k, hk, last, ⟨d, hway, hd'⟩, hlast⟩ := ih hrest
      exact ⟨k, hk, last, ⟨d, .down hs hd hway, hd'⟩, hlast⟩
  | @follow n l next m first target rest hs hl _ ih =>
    cases init with
    | nil =>
      obtain ⟨rfl, rfl⟩ := List.cons.inj hnames
      exact ⟨0, Nat.zero_le _, next, ⟨l, .here l, hs⟩, by simp [hl]⟩
    | cons other init =>
      obtain ⟨rfl, rfl⟩ := List.cons.inj hnames
      obtain ⟨k, hk, last, ⟨d, hway, hd⟩, hlast⟩ := ih (List.append_assoc ..)
      exact ⟨k + 1, Nat.succ_le_succ hk, last, ⟨d, .follow hs hl hway, hd⟩, hlast⟩
  | stop he => cases he

/-- A slash at the end of a path names the directory itself. -/
theorem namesOf_cases (c : Path) : namesOf c = c.names ∨ namesOf c = c.names ++ ["."] := by
  unfold namesOf Path.names
  dsimp only
  split
  · exact .inr rfl
  · exact .inl rfl

theorem step_dot (d : Location) : step d "." = .ok d := rfl

theorem Leads.find (h : fs.Leads cwd c (.ok d)) (hcheck : checkPath c = .ok ()) :
    fs.find cwd c = .ok (d, .directory) := by
  obtain ⟨x, n, hx, hn, hway⟩ : ∃ x n, fs.start cwd c = .ok x ∧ n ≤ mostLinks ∧
      fs.Way false n x c.names d := by
    cases h with
    | there hx hn hway => exact ⟨_, _, hx, hn, hway⟩
  have hd := hway.directory (directory_of_start hx)
  have hnames : fs.Way false n x (namesOf c) d := by
    rcases namesOf_cases c with h | h <;> rw [h]
    · exact hway
    · have hdot : fs.Way false 0 d ["."] d := .down (step_dot d) hd (.here d)
      have happend := hway.append hdot
      rwa [Nat.zero_add] at happend
  have hlocate : fs.locate cwd c = .ok d :=
    bind_eq_ok.2 ⟨(), hcheck, bind_eq_ok.2 ⟨x, hx, walk_of_way hnames.loosen hn⟩⟩
  rw [find_at hlocate]
  dsimp only [bind, Except.bind]
  rw [hd]

theorem Leads.isDirectory (h : fs.Leads cwd c (.ok d)) (hcheck : checkPath c = .ok ()) :
    fs.isDirectory cwd c = true := by
  unfold Files.isDirectory
  rw [h.find hcheck]
  rfl

theorem leads_of_isDirectory (h : fs.isDirectory cwd c = true) :
    checkPath c = .ok () ∧ ∃ d, fs.Leads cwd c (.ok d) := by
  unfold Files.isDirectory at h
  split at h
  · next l node hfind =>
    obtain ⟨l', hlocate, hpresent⟩ := bind_eq_ok.1 hfind
    obtain ⟨rfl, hl⟩ := present_eq_ok hpresent
    obtain ⟨⟨⟩, hcheck, hlocate⟩ := bind_eq_ok.1 hlocate
    obtain ⟨x, hx, hwalk⟩ := bind_eq_ok.1 hlocate
    obtain ⟨n, hn, hway⟩ := way_of_walk hwalk
    have hdir : node = .directory := by
      cases node <;> first | rfl | cases h
    have hstrict := hway.strict (by rw [hl, hdir])
    refine ⟨hcheck, ?_⟩
    rcases namesOf_cases c with hnames | hnames <;> rw [hnames] at hstrict
    · exact ⟨_, .there hx hn hstrict⟩
    · obtain ⟨k, hk, -, ⟨d, hbefore, -⟩, -⟩ := hstrict.enters
      exact ⟨d, .there hx (Nat.le_trans hk hn) hbefore⟩
  · cases h

theorem makeDirectory_of_leads (h : fs.Leads cwd c (.ok d)) (hcheck : checkPath c = .ok ()) :
    fs.makeDirectory cwd c = .error .exists := by
  obtain ⟨l, hlocate, hl⟩ : ∃ l, fs.locateNew cwd c = .ok l ∧ fs.get? l ≠ none := by
    cases h with
    | @there x _ n hx hn hway =>
      have hdir := directory_of_start hx
      have hnew : ∀ l, fs.walk false mostLinks x c.names = .ok l → fs.locateNew cwd c = .ok l :=
        fun l hl => bind_eq_ok.2 ⟨(), hcheck, bind_eq_ok.2 ⟨x, hx, hl⟩⟩
      rcases List.eq_nil_or_concat c.names with hnil | ⟨init, name, hcons⟩
      · exact ⟨x, hnew x (by rw [hnil]; rfl), by simp [hdir]⟩
      · rw [List.concat_eq_append] at hcons
        rw [hcons] at hway hnew
        obtain ⟨k, hk, next, henters, hnext⟩ := hway.enters
        exact ⟨next, hnew next (walk_of_enters henters (Nat.le_trans hk hn)), hnext⟩
  obtain ⟨node, hnode⟩ := Option.ne_none_iff_exists'.1 hl
  unfold makeDirectory
  rw [hlocate]
  dsimp only [bind, Except.bind]
  rw [hnode]
  rfl

end Files

variable {c : Path} {w : World}

theorem makeAll_of_leads {d : Location} (h : w.files.Leads w.here c (.ok d))
    (hcheck : Files.checkPath c = .ok ()) : outcome (Disk.makeAll c) w = (.ok (), w) := by
  have hthere := h.isDirectory hcheck
  have hmake : outcome (Disk.makeDirectory c) w = (.error .exists, w) := by
    unfold Disk.makeDirectory
    rw [outcome_change, Files.makeDirectory_of_leads h hcheck]
  have horThere : outcome (Disk.orThere c (.error .exists)) w = (.ok (), w) := by
    change (if w.files.isDirectory w.here c = true then Except.ok () else Except.error _, w) = _
    rw [if_pos hthere]
  unfold Disk.makeAll Disk.makeAllDown
  split
  · rfl
  · rw [outcome_bind, hmake]
    exact horThere

theorem makeAll_of_empty (h : c.text = "") : outcome (Disk.makeAll c) w = (.ok (), w) := by
  unfold Disk.makeAll Disk.makeAllDown
  rw [if_pos (by simp [h])]
  rfl

/-- Something is there that was not there before. -/
def Newly (w w' : World) : Prop := ∃ l, w.files.get? l = none ∧ w'.files.get? l ≠ none

theorem newly_of_makeDirectory (h : (outcome (Disk.makeDirectory c) w).1 = .ok ()) :
    Newly w (outcome (Disk.makeDirectory c) w).2 := by
  unfold Disk.makeDirectory at h ⊢
  rw [outcome_change] at h ⊢
  cases hfiles : w.files.makeDirectory w.here c with
  | error e =>
    rw [hfiles] at h
    cases h
  | ok files =>
    obtain ⟨l, -, hnone, rfl⟩ := Files.makeDirectory_eq_ok hfiles
    refine ⟨l, hnone, ?_⟩
    have hne : l ≠ [] := by
      rintro rfl
      cases hnone
    dsimp only
    rw [Files.get?_put_self hne]
    simp

/-- There is a directory at a path, or something else has become of the files. -/
def There (c : Path) (w w' : World) : Prop :=
  w'.files.isDirectory w'.here c = true ∨ Newly w w'

theorem there_of_orThere {v : World} {result : Except Fault Unit}
    (hresult : result = .ok () → Newly w v)
    (h : (outcome (Disk.orThere c result) v).1 = .ok ()) :
    There c w (outcome (Disk.orThere c result) v).2 := by
  cases result with
  | ok => exact .inr (hresult rfl)
  | error e =>
    change (if v.files.isDirectory v.here c = true then Except.ok () else Except.error e) = _ at h
    by_cases hthere : v.files.isDirectory v.here c = true
    · exact .inl hthere
    · rw [if_neg hthere] at h
      cases h

/-- Whoever succeeds in making a directory with all that leads to it finds it there, or has made
something. -/
theorem there_of_makeAllDown (hc : c.text ≠ "") (depth : Nat)
    (h : (outcome (Disk.makeAllDown depth c) w).1 = .ok ()) :
    There c w (outcome (Disk.makeAllDown depth c) w).2 := by
  have hnew := newly_of_makeDirectory (c := c) (w := w)
  unfold Disk.makeAllDown at h ⊢
  rw [if_neg (by simpa using hc), outcome_bind] at h ⊢
  rcases hmake : outcome (Disk.makeDirectory c) w with ⟨result, v⟩
  rw [hmake] at h hnew
  dsimp only at h hnew ⊢
  split at h
  · -- what leads to it has to be made first
    split at h
    · next depth parent hparent =>
      have hgrown : Grown w (outcome (Disk.makeAllDown depth parent) v).2 := by
        have hfirst := grows_makeDirectory c w
        rw [hmake] at hfirst
        exact hfirst.trans
          (makeAllDown_keeps Grown.refl grows_makeDirectory Grown.trans depth parent v)
      rw [outcome_bind] at h ⊢
      generalize outcome (Disk.makeAllDown depth parent) v = made at h hgrown ⊢
      obtain ⟨_ | _, u⟩ := made
      · cases h
      · have hagain := newly_of_makeDirectory (c := c) (w := u)
        rw [outcome_bind] at h ⊢
        refine there_of_orThere (fun hr => ?_) h
        obtain ⟨l, hnone, hsome⟩ := hagain hr
        refine ⟨l, ?_, hsome⟩
        cases hw : w.files.get? l with
        | none => rfl
        | some node => exact absurd (hgrown.kept l node hw) (by simp [hnone])
    · cases h
  · exact there_of_orThere (fun hr => hnew (by rw [hr])) h

theorem isDirectory_of_makeAll (h : outcome (Disk.makeAll c) w = (.ok (), w)) :
    c.text = "" ∨ w.files.isDirectory w.here c = true := by
  by_cases hc : c.text = ""
  · exact .inl hc
  have hthere : (outcome (Disk.makeAll c) w).1 = .ok () →
      There c w (outcome (Disk.makeAll c) w).2 := there_of_makeAllDown hc _
  rw [h] at hthere
  refine .inr ((hthere rfl).resolve_right ?_)
  rintro ⟨l, hnone, hsome⟩
  exact hsome hnone

end Formulary
