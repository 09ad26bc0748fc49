import Formulary.Proofs.Machine.Actions
import Formulary.Proofs.Machine.Written

/-!
# What paths show

A path shows the file that it leads to, wherever this is and whatever its other names. Directories
that are made change nothing of that, and a file that is written is seen at the paths that lead to it,
and at no others (`Overwritten`). So of the files that are delivered one after another, a path shows
the last one that went where it leads: `World.Holds`.
-/

namespace Formulary

variable {w w' w'' : World} {p q : Path} {l m : Location} {node : Node}

namespace Files

variable {fs fs' : Files} {cwd : Location}

theorem find_eq_ok_iff :
    fs.find cwd p = .ok (l, node) ↔ fs.locate cwd p = .ok l ∧ fs.get? l = some node := by
  constructor
  · intro h
    obtain ⟨m, hlocate, hpresent⟩ := bind_eq_ok.1 h
    obtain ⟨rfl, hnode⟩ := present_eq_ok hpresent
    exact ⟨hlocate, hnode⟩
  · rintro ⟨hlocate, hnode⟩
    refine bind_eq_ok.2 ⟨l, hlocate, ?_⟩
    unfold present
    rw [hnode]

/-- A way stays the same where whatever led on still does, if there is no new directory or link at its
end. -/
theorem Way.of_passable_end {n : Nat} {names : List String} (hp : Passable fs fs')
    (h : fs.Way true n l names m)
    (hend : fs'.get? m = fs.get? m ∨ ∃ f, fs'.get? m = some (.file f)) :
    fs'.Way true n l names m := by
  induction h with
  | here l => exact .here l
  | down hs hd _ ih => exact .down hs (hp.directory _ hd) (ih hend)
  | follow hs hl _ ih => exact .follow hs (hp.link _ _ hl) (ih hend)
  | stop he hs hd hl =>
    rcases hend with hsame | ⟨f, hf⟩
    · exact .stop he hs (by rwa [hsame]) (by rwa [hsame])
    · exact .stop he hs (by simp [hf]) (by simp [hf])

theorem locate_of_passable (hp : Passable fs fs') (h : fs.locate cwd p = .ok l)
    (hend : fs'.get? l = fs.get? l ∨ ∃ f, fs'.get? l = some (.file f)) :
    fs'.locate cwd p = .ok l := by
  obtain ⟨⟨⟩, hcheck, h⟩ := bind_eq_ok.1 h
  obtain ⟨x, hx, h⟩ := bind_eq_ok.1 h
  obtain ⟨n, hn, hway⟩ := way_of_walk h
  exact bind_eq_ok.2 ⟨(), hcheck, bind_eq_ok.2 ⟨x, start_of_passable hp hx,
    walk_of_way (hway.of_passable_end hp hend) hn⟩⟩

end Files

/-! ### Files at paths -/

/-- What a path leads to, with its place, unless it is a directory. -/
def World.fileAt (w : World) (p : Path) : Option (Location × Node) :=
  (w.files.find w.here p).toOption.filter fun found => !found.2.isDirectory

theorem fileAt_eq_some : w.fileAt p = some (l, node) ↔
    w.files.locate w.here p = .ok l ∧ w.files.get? l = some node ∧ node ≠ .directory := by
  have hfind : (w.files.find w.here p).toOption = some (l, node) ↔
      w.files.find w.here p = .ok (l, node) := by
    cases w.files.find w.here p <;> simp [Except.toOption]
  unfold World.fileAt
  rw [Option.filter_eq_some_iff, hfind, Files.find_eq_ok_iff, and_assoc, Bool.not_eq_true',
    Files.isDirectory_eq_false]

/-- The number that a file shares with its other names, unless it is zero. -/
def Node.number? : Node → Option Nat
  | .file f => some f.serial
  | _ => none

/-- A node of which only the contents count. -/
def Node.held : Node → Node
  | .file f => .file { data := f.data }
  | node => node

/-- What a path shows, unless it leads to nothing, or to a directory. -/
def World.shown (w : World) (p : Path) : Option Node := (w.fileAt p).map fun found => found.2.held

/-- Two paths lead to one file: at one place, or under one number. -/
def World.SameFile (w : World) (p q : Path) : Prop :=
  ∃ l node m node', w.fileAt p = some (l, node) ∧ w.fileAt q = some (m, node') ∧
    (l = m ∨ ∃ n ≠ 0, node.number? = some n ∧ node'.number? = some n)

theorem sameFile_iff {node' : Node} (hp : w.fileAt p = some (l, node))
    (hq : w.fileAt q = some (m, node')) :
    w.SameFile p q ↔ l = m ∨ ∃ n ≠ 0, node.number? = some n ∧ node'.number? = some n := by
  constructor
  · rintro ⟨_, _, _, _, hp', hq', hone⟩
    rw [hp] at hp'
    rw [hq] at hq'
    cases hp'
    cases hq'
    exact hone
  · exact fun hone => ⟨l, node, m, node', hp, hq, hone⟩

theorem shown_eq_some : w.shown p = some node ↔
    ∃ l found, w.fileAt p = some (l, found) ∧ found.held = node := by
  simp [World.shown, Option.map_eq_some_iff]

theorem held_eq_file {f : File} (h : node.held = .file f) :
    ∃ g, node = .file g ∧ g.data = f.data := by
  cases node with
  | file g =>
    cases h
    exact ⟨g, rfl, rfl⟩
  | _ => cases h

/-- Paths show the same, and lead to one file if they did. -/
structure Spared (places : List Path) (w w' : World) : Prop where
  shown : ∀ p ∈ places, w'.shown p = w.shown p
  same : ∀ p ∈ places, ∀ q ∈ places, w'.SameFile p q ↔ w.SameFile p q

namespace Spared

variable {places : List Path}

theorem refl (places : List Path) (w : World) : Spared places w w :=
  ⟨fun _ _ => rfl, fun _ _ _ _ => .rfl⟩

theorem trans (h : Spared places w w') (h' : Spared places w' w'') : Spared places w w'' where
  shown p hp := (h'.shown p hp).trans (h.shown p hp)
  same p hp q hq := (h'.same p hp q hq).trans (h.same p hp q hq)

theorem of_files_eq (hcwd : w'.cwd = w.cwd) (hfiles : w'.files = w.files) :
    Spared places w w' := by
  have hfileAt : w'.fileAt = w.fileAt := by
    funext p
    rw [World.fileAt, World.fileAt, World.here, World.here, hcwd, hfiles]
  refine ⟨fun p _ => ?_, fun p _ q _ => ?_⟩
  · rw [World.shown, World.shown, hfileAt]
  · rw [World.SameFile, World.SameFile, hfileAt]

theorem mono {fewer : List Path} (h : Spared places w w') (hfewer : fewer ⊆ places) :
    Spared fewer w w' where
  shown p hp := h.shown p (hfewer hp)
  same p hp q hq := h.same p (hfewer hp) q (hfewer hq)

/-- Paths are spared that lead to the same places as before, where there is the same, or at least as
much under the same number. -/
theorem of_fileAt (h : ∀ p ∈ places, ∃ l node node', w.fileAt p = some (l, node) ∧
    w'.fileAt p = some (l, node') ∧ node'.number? = node.number? ∧ node'.held = node.held) :
    Spared places w w' := by
  refine ⟨fun p hp => ?_, fun p hp q hq => ?_⟩
  · obtain ⟨l, node, node', hold, hnew, -, hheld⟩ := h p hp
    rw [World.shown, World.shown, hold, hnew, Option.map_some, Option.map_some, hheld]
  · obtain ⟨l, node, node', hold, hnew, hnumber, -⟩ := h p hp
    obtain ⟨m, other, other', hold', hnew', hnumber', -⟩ := h q hq
    rw [sameFile_iff hold hold', sameFile_iff hnew hnew', hnumber, hnumber']

end Spared

/-! ### Making directories -/

theorem Grown.fileAt (h : Grown w w') {found : Location × Node} (hp : w.fileAt p = some found) :
    w'.fileAt p = some found := by
  obtain ⟨l, node⟩ := found
  obtain ⟨hlocate, hnode, hdir⟩ := fileAt_eq_some.1 hp
  have hhere : w'.here = w.here := congrArg Path.parts h.cwd
  have hkept := h.kept l node hnode
  refine fileAt_eq_some.2 ⟨?_, hkept, hdir⟩
  rw [hhere]
  exact Files.locate_of_passable h.kept.passable hlocate (.inl (hkept.trans hnode.symm))

theorem Grown.spared (h : Grown w w') {places : List Path}
    (hplaces : ∀ p ∈ places, ∃ found, w.fileAt p = some found) : Spared places w w' := by
  refine .of_fileAt fun p hp => ?_
  obtain ⟨⟨l, node⟩, hfound⟩ := hplaces p hp
  exact ⟨l, node, node, hfound, h.fileAt hfound, rfl, rfl⟩

/-! ### Writing files -/

/-- Where a file is put anew, whatever shares its number is that file, and everything else stays. -/
theorem renewed_cases (f : File) (node : Node) :
    (node.renewed f = .file f ∧ f.serial ≠ 0 ∧ node.number? = some f.serial) ∨
      node.renewed f = node ∧ ¬ (f.serial ≠ 0 ∧ node.number? = some f.serial) := by
  cases node with
  | file g =>
    by_cases hsame : Files.isSame f g = true
    · simp only [Files.isSame, Bool.and_eq_true, decide_eq_true_eq] at hsame
      refine .inl ⟨congrArg Node.file (if_pos ?_), hsame.1, congrArg some hsame.2.symm⟩
      simpa [Files.isSame] using hsame
    · refine .inr ⟨congrArg Node.file (if_neg hsame), ?_⟩
      rintro ⟨hzero, hnumber⟩
      have hserial : g.serial = f.serial := Option.some.inj hnumber
      simp [Files.isSame, hzero, hserial] at hsame
  | _ => exact .inr ⟨rfl, by simp [Node.number?]⟩

/-- Where a file is put anew, it is at its place and wherever its number was, and everything else
stays. -/
theorem putFile_cases {fs : Files} {f : File} (hanew : fs.PutAnew l f)
    (hnode : fs.get? m = some node) :
    ((fs.putFile l f).get? m = some (.file f) ∧ node.number? = some f.serial ∧
        (m = l ∨ f.serial ≠ 0)) ∨
      (fs.putFile l f).get? m = some node ∧ m ≠ l ∧
        ¬ (f.serial ≠ 0 ∧ node.number? = some f.serial) := by
  rw [Files.get?_putFile hanew.ne_nil]
  by_cases hm : m = l
  · subst hm
    rw [if_pos rfl]
    obtain ⟨hnone, -⟩ | ⟨g, hg, hserial⟩ := hanew
    · cases hnone.symm.trans hnode
    · cases hg.symm.trans hnode
      exact .inl ⟨rfl, congrArg some hserial.symm, .inl rfl⟩
  · rw [if_neg hm, hnode, Option.map_some]
    obtain ⟨hrenewed, hserial, hnumber⟩ | ⟨hrenewed, hother⟩ := renewed_cases f node
    · rw [hrenewed]
      exact .inl ⟨rfl, hnumber, .inr hserial⟩
    · rw [hrenewed]
      exact .inr ⟨rfl, hm, hother⟩

/-- A file is written to a path: its bytes are at the paths that lead to it afterwards, unless it is
a device, and whatever else was found somewhere is there as it was. -/
structure Overwritten (w : World) (q : Path) (bytes : Bytes) (w' : World) : Prop where
  there : ∃ l node, w'.fileAt q = some (l, node) ∧ ∀ f, node = .file f → f.data = bytes
  found : ∀ p l node, w.fileAt p = some (l, node) →
    ∃ node', w'.fileAt p = some (l, node') ∧ node'.number? = node.number? ∧
      (w'.SameFile p q → ∀ f, node' = .file f → f.data = bytes) ∧
      (¬ w'.SameFile p q → node' = node)

theorem Overwritten.same {bytes : Bytes} (h : Overwritten w q bytes w') {a b : Path}
    {found found' : Location × Node} (ha : w.fileAt a = some found)
    (hb : w.fileAt b = some found') : w'.SameFile a b ↔ w.SameFile a b := by
  obtain ⟨node, hnew, hnumber, -⟩ := h.found a _ _ ha
  obtain ⟨node', hnew', hnumber', -⟩ := h.found b _ _ hb
  rw [sameFile_iff ha hb, sameFile_iff hnew hnew', hnumber, hnumber']

theorem overwritten_of_putFile {f : File} {files : Files} (hanew : w.files.PutAnew l f)
    (hput : ∀ m, files.get? m = (w.files.putFile l f).get? m)
    (hlocated : ∀ p m, w.files.locate w.here p = .ok m → files.locate w.here p = .ok m)
    (hq : w.files.locate w.here q = .ok l) : Overwritten w q f.data { w with files } := by
  have hthere : World.fileAt { w with files } q = some (l, .file f) := by
    refine fileAt_eq_some.2 ⟨hlocated q l hq, ?_, by simp⟩
    rw [hput, Files.get?_putFile hanew.ne_nil, if_pos rfl]
  refine ⟨⟨l, _, hthere, fun g hg => by cases hg; rfl⟩, fun p m node hp => ?_⟩
  obtain ⟨hlocate, hnode, hdir⟩ := fileAt_eq_some.1 hp
  obtain ⟨hget, hnumber, hone⟩ | ⟨hget, hplace, hother⟩ := putFile_cases hanew hnode
  · have hnew : World.fileAt { w with files } p = some (m, .file f) :=
      fileAt_eq_some.2 ⟨hlocated p m hlocate, (hput m).trans hget, by simp⟩
    refine ⟨_, hnew, hnumber.symm, fun _ g hg => by cases hg; rfl, fun hother => ?_⟩
    exact absurd ((sameFile_iff hnew hthere).2 (hone.imp_right fun h => ⟨_, h, rfl, rfl⟩)) hother
  · have hnew : World.fileAt { w with files } p = some (m, node) :=
      fileAt_eq_some.2 ⟨hlocated p m hlocate, (hput m).trans hget, hdir⟩
    refine ⟨node, hnew, rfl, fun hone => ?_, fun _ => rfl⟩
    obtain hplace' | ⟨n, hn, hp', hq'⟩ := (sameFile_iff hnew hthere).1 hone
    · exact absurd hplace' hplace
    · cases hq'
      exact absurd ⟨hn, hp'⟩ hother

theorem overwritten_of_device {bytes : Bytes} {device : Node}
    (hthere : w.fileAt q = some (l, device)) (hfile : ∀ f, device ≠ .file f) :
    Overwritten w q bytes w := by
  refine ⟨⟨l, device, hthere, fun f hf => absurd hf (hfile f)⟩, fun p m node hp => ?_⟩
  refine ⟨node, hp, rfl, fun hone f hf => ?_, fun _ => rfl⟩
  obtain rfl | ⟨n, -, -, hq'⟩ := (sameFile_iff hp hthere).1 hone
  · obtain ⟨-, hnode, -⟩ := fileAt_eq_some.1 hp
    obtain ⟨-, hdevice, -⟩ := fileAt_eq_some.1 hthere
    cases hnode.symm.trans hdevice
    exact absurd hf (hfile f)
  · cases device with
    | file g => exact absurd rfl (hfile g)
    | _ => cases hq'

theorem overwritten_of_write {bytes : Bytes} {files : Files}
    (h : w.files.write w.here q bytes = .ok files) :
    Overwritten w q bytes { w with files } := by
  have hwritten := Files.written_of_write h
  obtain ⟨l, hq, ⟨f, rfl, hanew, hput⟩ | ⟨device, hdevice, hdir, hfile, rfl⟩⟩ :=
    Files.write_cases h
  · exact overwritten_of_putFile hanew hput (fun p m hm =>
      Files.locate_of_passable hwritten.back hm ((hwritten.there m).imp_right And.right)) hq
  · exact overwritten_of_device (fileAt_eq_some.2 ⟨hq, hdevice, hdir⟩) hfile

/-! ### Deliveries -/

/-- Of files delivered one after another, every path shows the one that was last delivered to the file
it leads to, unless this is a device. -/
def World.Holds (w : World) (delivered : List (Path × Bytes)) : Prop :=
  ∀ p ∈ delivered.map Prod.fst, ∃ node, w.shown p = some node ∧ ∀ f, node = .file f →
    ∃ before q later, delivered = before ++ (q, f.data) :: later ∧ w.SameFile p q ∧
      ∀ entry ∈ later, ¬ w.SameFile p entry.1

namespace World.Holds

variable {delivered : List (Path × Bytes)}

theorem nil (w : World) : w.Holds [] := fun _ hp => absurd hp List.not_mem_nil

theorem fileAt (h : w.Holds delivered) (hp : p ∈ delivered.map Prod.fst) :
    ∃ found, w.fileAt p = some found := by
  obtain ⟨node, hshown, -⟩ := h p hp
  obtain ⟨l, found, hfound, -⟩ := shown_eq_some.1 hshown
  exact ⟨_, hfound⟩

theorem of_spared (h : w.Holds delivered) (hspared : Spared (delivered.map Prod.fst) w w') :
    w'.Holds delivered := by
  intro p hp
  obtain ⟨node, hshown, hlast⟩ := h p hp
  refine ⟨node, (hspared.shown p hp).trans hshown, fun f hf => ?_⟩
  obtain ⟨before, q, later, rfl, hone, hothers⟩ := hlast f hf
  refine ⟨before, q, later, rfl, (hspared.same p hp q (by simp)).2 hone, fun entry hentry => ?_⟩
  have hmem : entry.1 ∈ (before ++ (q, f.data) :: later).map Prod.fst :=
    List.mem_map_of_mem (by simp [hentry])
  rw [hspared.same p hp _ hmem]
  exact hothers entry hentry

theorem of_grown (h : w.Holds delivered) (hgrown : Grown w w') : w'.Holds delivered :=
  h.of_spared (hgrown.spared fun _ hp => h.fileAt hp)

theorem deliver {bytes : Bytes} (h : w.Holds delivered) (hwrite : Overwritten w q bytes w') :
    w'.Holds (delivered ++ [(q, bytes)]) := by
  intro p hp
  rw [List.map_append, List.mem_append] at hp
  obtain hp | hp := hp
  · obtain ⟨⟨l, old⟩, hfound⟩ := h.fileAt hp
    obtain ⟨node, hnew, -, hwritten, hleft⟩ := hwrite.found p l old hfound
    refine ⟨node.held, shown_eq_some.2 ⟨l, node, hnew, rfl⟩, fun f hf => ?_⟩
    by_cases hone : w'.SameFile p q
    · obtain ⟨g, hg, hdata⟩ := held_eq_file hf
      rw [← hdata, hwritten hone g hg]
      exact ⟨delivered, q, [], rfl, hone, by simp⟩
    · obtain rfl := hleft hone
      obtain ⟨shown, hshown, hlast⟩ := h p hp
      obtain ⟨_, _, hfound', rfl⟩ := shown_eq_some.1 hshown
      obtain ⟨rfl, rfl⟩ := Prod.mk.inj (Option.some.inj (hfound.symm.trans hfound'))
      obtain ⟨before, q', later, rfl, hone', hothers⟩ := hlast f hf
      -- among the paths of earlier deliveries, nothing has changed
      have hsame : ∀ r ∈ (before ++ (q', f.data) :: later).map Prod.fst,
          (w'.SameFile p r ↔ w.SameFile p r) := fun r hr => by
        obtain ⟨found, hr⟩ := h.fileAt hr
        exact hwrite.same hfound hr
      refine ⟨before, q', later ++ [(q, bytes)], by simp, (hsame q' (by simp)).2 hone',
        fun entry hentry => ?_⟩
      obtain hentry | hentry := List.mem_append.1 hentry
      · rw [hsame entry.1 (List.mem_map_of_mem (by simp [hentry]))]
        exact hothers entry hentry
      · rw [List.mem_singleton.1 hentry]
        exact hone
  · obtain rfl := List.mem_singleton.1 hp
    obtain ⟨l, node, hthere, hwritten⟩ := hwrite.there
    refine ⟨node.held, shown_eq_some.2 ⟨l, node, hthere, rfl⟩, fun f hf => ?_⟩
    obtain ⟨g, hg, hdata⟩ := held_eq_file hf
    rw [← hdata, hwritten g hg]
    exact ⟨delivered, _, [], rfl, (sameFile_iff hthere hthere).2 (.inl rfl), by simp⟩

end World.Holds

end Formulary
