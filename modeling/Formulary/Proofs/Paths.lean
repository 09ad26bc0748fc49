import Formulary.Machine.Files
import Mathlib.Tactic.Common

/-!
# Paths put together

The names and the parts of a path that was made of a directory's path and a relative one: those of
the directory, and then those of the other. Also the parts of the path that leads to a path.
-/

namespace Formulary

/-! ### Texts split at a character -/

namespace Text

variable {sep : Char} {s t : List Char}

theorem splitAt_of_not_mem (h : sep ∉ s) : splitAt sep s = [s] := by
  induction s with
  | nil => rfl
  | cons c s ih =>
    rw [List.mem_cons, not_or] at h
    rw [splitAt, if_neg (Ne.symm h.1), ih h.2]

theorem splitAt_ne_nil (sep : Char) (s : List Char) : splitAt sep s ≠ [] := by
  cases s with
  | nil => simp [splitAt]
  | cons c s =>
    rw [splitAt]
    split
    · simp
    · split <;> simp

theorem splitAt_append (sep : Char) (s t : List Char) :
    splitAt sep (s ++ sep :: t) = splitAt sep s ++ splitAt sep t := by
  induction s with
  | nil => simp [splitAt]
  | cons c s ih =>
    rw [List.cons_append, splitAt, splitAt, ih]
    split
    · rfl
    · cases h : splitAt sep s with
      | nil => exact absurd h (splitAt_ne_nil sep s)
      | cons part parts => rfl

theorem of_mem_splitAt {part : List Char} (h : part ∈ splitAt sep s) :
    part.Sublist s ∧ sep ∉ part := by
  induction s generalizing part with
  | nil =>
    rw [splitAt, List.mem_singleton] at h
    subst h
    exact ⟨List.Sublist.refl _, List.not_mem_nil⟩
  | cons c s ih =>
    rw [splitAt] at h
    split at h
    · rcases List.mem_cons.1 h with rfl | h
      · exact ⟨List.nil_sublist _, List.not_mem_nil⟩
      · exact ⟨(ih h).1.cons c, (ih h).2⟩
    · next hc =>
      split at h
      · next hnil => exact absurd hnil (splitAt_ne_nil sep s)
      · next first rest hs =>
        rw [hs] at ih
        rcases List.mem_cons.1 h with rfl | h
        · obtain ⟨hsub, hsep⟩ := ih List.mem_cons_self
          exact ⟨hsub.cons_cons c, by simp [hsep, Ne.symm hc]⟩
        · obtain ⟨hsub, hsep⟩ := ih (List.mem_cons_of_mem _ h)
          exact ⟨hsub.cons c, hsep⟩

end Text

/-! ### A name behind a directory -/

/-- A text that says something where it stands between slashes. -/
structure IsPart (part : String) : Prop where
  noSlash : '/' ∉ part.toList
  ne_empty : part ≠ ""
  ne_dot : part ≠ "."

/-- A text that is the name of something in a directory. -/
structure ProperName (name : String) : Prop extends IsPart name where
  ne_up : name ≠ ".."

theorem ProperName.of_length {name : String} (hslash : '/' ∉ name.toList)
    (hlength : 2 < name.length) : ProperName name := by
  have hne : ∀ short : String, short.length ≤ 2 → name ≠ short := by
    rintro short hshort rfl
    omega
  exact ⟨⟨hslash, hne "" (by decide), hne "." (by decide)⟩, hne ".." (by decide)⟩

theorem ProperName.relative {name : String} (h : ProperName name) :
    Path.isAbsolute ⟨name⟩ = false := by
  unfold Path.isAbsolute
  rw [decide_eq_false_iff_not]
  exact fun hhead => h.noSlash (List.mem_of_head? hhead)

namespace Path

/-- The names of a path, whatever stands at its end. -/
def names (p : Path) : List String := p.rawParts.filter (· ≠ "")

theorem rawParts_of_not_mem {s : List Char} (h : '/' ∉ s) :
    rawParts ⟨String.ofList s⟩ = [String.ofList s] := by
  simp [rawParts, Text.splitAt_of_not_mem h]

theorem rawParts_append_slash (s t : List Char) :
    rawParts ⟨String.ofList (s ++ '/' :: t)⟩ =
      rawParts ⟨String.ofList s⟩ ++ rawParts ⟨String.ofList t⟩ := by
  simp [rawParts, Text.splitAt_append]

theorem names_append_slash (s t : List Char) :
    names ⟨String.ofList (s ++ '/' :: t)⟩ =
      names ⟨String.ofList s⟩ ++ names ⟨String.ofList t⟩ := by
  rw [names, rawParts_append_slash, List.filter_append]
  rfl

theorem parts_append_slash (s t : List Char) :
    parts ⟨String.ofList (s ++ '/' :: t)⟩ =
      parts ⟨String.ofList s⟩ ++ parts ⟨String.ofList t⟩ := by
  rw [parts, rawParts_append_slash, List.filter_append]
  rfl

theorem names_of_proper {name : String} (h : ProperName name) : names ⟨name⟩ = [name] := by
  have hraw := rawParts_of_not_mem h.noSlash
  rw [String.ofList_toList] at hraw
  simp [names, hraw, h.ne_empty]

/-! ### A relative path behind a directory -/

section Join

variable (p : Path) {q : String} (hq : isAbsolute ⟨q⟩ = false)

include hq

/-- The text of a relative path behind a directory: the directory's without a slash at its end, a
slash unless the directory has no text, and the relative path. -/
theorem join_eq :
    (p.text = "" ∧ p.join q = ⟨q⟩) ∨
    ∃ s, (p.text = String.ofList s ∨ p.text = String.ofList (s ++ ['/'])) ∧ p.text ≠ "" ∧
      p.join q = ⟨String.ofList (s ++ '/' :: q.toList)⟩ := by
  unfold join
  rw [if_neg (by simp [hq])]
  by_cases hempty : p.text = ""
  · exact .inl ⟨hempty, by simp [hempty]⟩
  · refine .inr ?_
    by_cases hslash : p.text.toList.getLast? = some '/'
    · obtain ⟨s, hs⟩ := List.getLast?_eq_some_iff.1 hslash
      refine ⟨s, .inr ?_, hempty, ?_⟩
      · rw [← hs, String.ofList_toList]
      · rw [if_pos (by simp [hslash]), Path.mk.injEq, ← String.toList_inj]
        simp [hs]
    · refine ⟨p.text.toList, .inl (String.ofList_toList).symm, hempty, ?_⟩
      rw [if_neg (by simp [hslash, hempty]), Path.mk.injEq, ← String.toList_inj]
      simp

/-- What is read off a path part by part is read off the directory and then off the other path. -/
theorem read_join (read : Path → List String) (hempty : read ⟨""⟩ = [])
    (hslash : ∀ s t, read ⟨String.ofList (s ++ '/' :: t)⟩ =
      read ⟨String.ofList s⟩ ++ read ⟨String.ofList t⟩) :
    read (p.join q) = read p ++ read ⟨q⟩ := by
  obtain ⟨text⟩ := p
  rcases join_eq ⟨text⟩ hq with ⟨hp, hj⟩ | ⟨s, hp, -, hj⟩
  · obtain rfl : text = "" := hp
    rw [hj, hempty, List.nil_append]
  · rw [hj, hslash, String.ofList_toList]
    rcases hp with rfl | rfl
    · rfl
    · rw [hslash]
      change _ = read _ ++ read ⟨""⟩ ++ _
      rw [hempty, List.append_nil]

theorem parts_join : (p.join q).parts = p.parts ++ parts ⟨q⟩ :=
  read_join p hq parts rfl parts_append_slash

theorem isAbsolute_join : (p.join q).isAbsolute = p.isAbsolute := by
  rcases p.join_eq hq with ⟨hp, hj⟩ | ⟨s, hp, hne, hj⟩
  · rw [hj, hq]
    unfold isAbsolute
    simp [hp]
  · rw [hj]
    unfold isAbsolute
    rcases hp with hp | hp
    · cases s with
      | nil => exact absurd hp hne
      | cons c s => simp [hp]
    · cases s <;> simp [hp]

end Join

theorem names_join (p : Path) {name : String} (h : ProperName name) :
    (p.join name).names = p.names ++ [name] := by
  rw [read_join p h.relative names rfl names_append_slash, names_of_proper h]

/-! ### The path that leads to a path -/

theorem isPart_of_mem {p : Path} {part : String} (h : part ∈ p.parts) : IsPart part := by
  obtain ⟨hraw, hsays⟩ := List.mem_filter.1 h
  obtain ⟨s, hs, rfl⟩ := List.mem_map.1 hraw
  have hsays : String.ofList s ≠ "" ∧ String.ofList s ≠ "." := by simpa using hsays
  exact ⟨by simpa using (Text.of_mem_splitAt hs).2, hsays.1, hsays.2⟩

theorem rawParts_intercalate {part : String} {l : List String}
    (h : ∀ x ∈ part :: l, '/' ∉ x.toList) :
    rawParts ⟨"/".intercalate (part :: l)⟩ = part :: l := by
  induction l generalizing part with
  | nil =>
    have hraw := rawParts_of_not_mem (h part List.mem_cons_self)
    rw [String.ofList_toList] at hraw
    simpa using hraw
  | cons next rest ih =>
    obtain ⟨hpart, hrest⟩ := List.forall_mem_cons.1 h
    have hraw := rawParts_of_not_mem hpart
    have htext : "/".intercalate (part :: next :: rest) = String.ofList
        (part.toList ++ '/' :: ("/".intercalate (next :: rest)).toList) := by
      rw [String.intercalate_cons_cons, ← String.toList_inj]
      simp
    rw [htext, rawParts_append_slash, hraw, String.ofList_toList, String.ofList_toList, ih hrest]
    rfl

/-- Parts that say something are the parts of the path they make. -/
theorem parts_ofParts {l : List String} (h : ∀ part ∈ l, IsPart part) :
    (ofParts true l).parts = l := by
  have htext : (ofParts true l) = ⟨String.ofList ([] ++ '/' :: ("/".intercalate l).toList)⟩ := by
    rw [ofParts, if_pos rfl, Path.mk.injEq, ← String.toList_inj]
    simp
  rw [htext, parts_append_slash, String.ofList_toList]
  change [] ++ _ = l
  cases l with
  | nil => rfl
  | cons part rest =>
    rw [List.nil_append, parts, rawParts_intercalate fun x hx => (h x hx).noSlash]
    refine List.filter_eq_self.2 fun x hx => ?_
    simp [(h x hx).ne_empty, (h x hx).ne_dot]

theorem isAbsolute_ofParts (l : List String) : (ofParts true l).isAbsolute = true := by
  unfold isAbsolute ofParts
  simp

theorem parent_of_absolute {p dir : Path} (hp : p.isAbsolute = true) (h : p.parent? = some dir) :
    dir.isAbsolute = true ∧ dir.parts = p.parts.dropLast := by
  have hdot : p.startsWithDot = false := by
    obtain ⟨text⟩ := p
    have hhead : text.toList.head? = some '/' := of_decide_eq_true hp
    unfold startsWithDot rawParts
    cases hs : text.toList with
    | nil =>
      rw [hs] at hhead
      cases hhead
    | cons c s =>
      rw [hs] at hhead
      obtain rfl := Option.some.inj hhead
      simp [Text.splitAt]
  unfold parent? at h
  rw [hdot, if_neg Bool.false_ne_true, hp] at h
  dsimp only at h
  split at h
  · cases h
  · cases h
    exact ⟨isAbsolute_ofParts _,
      parts_ofParts fun part hpart => isPart_of_mem (List.dropLast_subset _ hpart)⟩

end Path

namespace Files

theorem namesOf_join (p : Path) {name : String} (h : ProperName name) :
    namesOf (p.join name) = p.names ++ [name] := by
  have hlast : (p.join name).text.toList.getLast? ≠ some '/' := by
    have hname : name.toList ≠ [] := by simpa using h.ne_empty
    intro hslash
    refine h.noSlash ?_
    rcases p.join_eq h.relative with ⟨-, hj⟩ | ⟨s, -, -, hj⟩
    · rw [hj] at hslash
      exact List.mem_of_getLast? hslash
    · rw [hj, String.toList_ofList, List.getLast?_append, List.getLast?_cons_of_ne_nil hname,
        List.getLast?_eq_some_getLast hname, Option.some_or, ← List.getLast?_eq_some_getLast hname]
        at hslash
      exact List.mem_of_getLast? hslash
  have hnames := p.names_join h
  unfold Path.names at hnames ⊢
  unfold namesOf
  simp only [hnames]
  rw [if_neg (by simp [hlast])]

end Files

end Formulary
