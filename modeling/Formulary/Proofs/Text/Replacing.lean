import Formulary.Proofs.Text.Marks

/-!
# Replacing a mark

A text is replaced part by part: what comes before a mark and does not hold it stays, the mark
itself becomes the other text, and so on behind it. Where no mark starts in a part, the part stays
as it is (`replaceChars_append`).
-/

namespace Formulary.Text

variable {mark sub s x y : List Char} {m : Char} {rest : List Char}

/-- The mark starts nowhere in `x`, when `s` follows. -/
def Clear (mark x s : List Char) : Prop := ∀ z, z <:+ x → z ≠ [] → ¬ mark <+: z ++ s

theorem clear_nil : Clear mark [] s := fun _ hz hne => absurd (List.suffix_nil.1 hz) hne

theorem clear_cons {c : Char} :
    Clear mark (c :: x) s ↔ ¬ mark <+: c :: x ++ s ∧ Clear mark x s := by
  constructor
  · intro h
    exact ⟨h _ List.suffix_rfl (List.cons_ne_nil c x),
      fun z hz hne => h z (hz.trans (List.suffix_cons c x)) hne⟩
  · rintro ⟨hhere, hx⟩ z hz hne
    rcases List.suffix_cons_iff.1 hz with rfl | hz
    · exact hhere
    · exact hx z hz hne

theorem clear_append : Clear mark (x ++ y) s ↔ Clear mark x (y ++ s) ∧ Clear mark y s := by
  induction x with
  | nil => simp [clear_nil]
  | cons c x ih =>
    rw [List.cons_append, clear_cons, ih, clear_cons, List.cons_append, List.cons_append,
      List.append_assoc, and_assoc]

theorem Clear.mono {mark' : List Char} (h : Clear mark x s) (hmark : mark <+: mark') :
    Clear mark' x s :=
  fun z hz hne hprefix => h z hz hne (hmark.trans hprefix)

theorem clear_of_not_mem (h : m ∉ x) : Clear (m :: rest) x s := by
  intro z hz hne hprefix
  cases z with
  | nil => exact hne rfl
  | cons c z =>
    obtain ⟨rfl, -⟩ := List.cons_prefix_cons.1 hprefix
    exact h (hz.subset (List.mem_cons_self))

/-- Up to where the character behind the mark's start cannot be one of the mark, nothing but the
part itself can hold the mark. -/
theorem clear_of_absent {c : Char} (hc : c ∉ rest) (h : ¬ m :: rest <:+: x) :
    Clear (m :: rest) x (c :: s) := by
  intro z hz hne hprefix
  cases z with
  | nil => exact hne rfl
  | cons d z =>
    rw [List.cons_append, List.cons_prefix_cons] at hprefix
    obtain ⟨rfl, hrest⟩ := hprefix
    have hwhole : m :: rest <+: m :: z :=
      List.cons_prefix_cons.2 ⟨rfl, prefix_of_append_cons hc hrest⟩
    exact h (hwhole.isInfix.trans hz.isInfix)

theorem cut?_append (h : Clear mark x s) :
    cut? mark (x ++ s) = (cut? mark s).map fun (before, after) => (x ++ before, after) := by
  induction x with
  | nil => simp
  | cons c x ih =>
    obtain ⟨hhere, hx⟩ := clear_cons.1 h
    have hnone : afterMark? mark (c :: (x ++ s)) = none := by
      rwa [← Option.not_isSome_iff_eq_none, isSome_afterMark?]
    rw [List.cons_append, cut?, hnone]
    dsimp only
    rw [ih hx, Option.map_map]
    rfl

/-! ### Part by part -/

theorem replaceChars_of_absent (h : ¬ mark <:+: s) : replaceChars mark sub s = s := by
  rw [replaceChars]
  split
  · rfl
  · split
    · rfl
    · next hcut => simp [cut?_eq_none_iff.2 h] at hcut

theorem replaceChars_of_cut? {before after : List Char} (hmark : mark ≠ [])
    (h : cut? mark s = some (before, after)) :
    replaceChars mark sub s = before ++ sub ++ replaceChars mark sub after := by
  rw [replaceChars, dif_neg hmark]
  split
  · next hcut => simp [h] at hcut
  · next hcut =>
    cases h.symm.trans hcut
    rfl

/-- What no mark starts in stays. -/
theorem replaceChars_append (hmark : mark ≠ []) (h : Clear mark x s) :
    replaceChars mark sub (x ++ s) = x ++ replaceChars mark sub s := by
  have hcut := cut?_append h
  cases hs : cut? mark s with
  | none =>
    rw [hs] at hcut
    rw [replaceChars_of_absent (cut?_eq_none_iff.1 hs),
      replaceChars_of_absent (cut?_eq_none_iff.1 hcut)]
  | some parts =>
    obtain ⟨before, after⟩ := parts
    rw [hs] at hcut
    rw [replaceChars_of_cut? hmark hs, replaceChars_of_cut? hmark hcut, List.append_assoc,
      List.append_assoc, List.append_assoc]

/-- What a text starts with after a replacement and lacks the other text's first character, it
started with before. -/
theorem prefix_of_replaceChars {c : Char} (hmark : mark ≠ []) (hc : c ∉ x)
    (h : x <+: replaceChars mark (c :: sub) s) : x <+: s := by
  cases hcut : cut? mark s with
  | none => rwa [replaceChars_of_absent (cut?_eq_none_iff.1 hcut)] at h
  | some parts =>
    obtain ⟨before, after⟩ := parts
    rw [replaceChars_of_cut? hmark hcut, List.append_assoc, List.cons_append] at h
    have hbefore : x <+: before := prefix_of_append_cons hc h
    rw [cut?_eq_some hcut, List.append_assoc]
    exact hbefore.trans (List.prefix_append _ _)

end Formulary.Text
