import Formulary.Text.Search
import Formulary.Text.Utf8
import Mathlib.Data.List.DropRight
import Mathlib.Data.List.Infix
import Mathlib.Tactic.Common

/-!
# Marks in a text

Where a text is cut at a mark: `cut?_eq_some_iff` says that the part before the mark is the one
that does not hold it. Marks are ASCII, and an ASCII character is found among the bytes of a text
only where it is a character of its own, so what stands before and after a mark are whole
characters in bytes as well: `standsWhole_of_ascii`.
-/

namespace Formulary.Text

variable {mark s before after : List Char}

/-! ### Cutting -/

theorem isSome_afterMark? : (afterMark? mark s).isSome ↔ mark <+: s := by
  rw [Option.isSome_iff_exists]
  exact ⟨fun ⟨rest, h⟩ => ⟨rest, (afterMark?_eq_some.1 h).symm⟩,
    fun ⟨rest, h⟩ => ⟨rest, afterMark?_eq_some.2 h.symm⟩⟩

theorem cut?_eq_none_iff : cut? mark s = none ↔ ¬ mark <:+: s := by
  rw [← Option.not_isSome_iff_eq_none, isSome_cut?, not_iff_not]
  induction s with
  | nil => rw [occurs, isSome_afterMark?, List.infix_nil, List.prefix_nil]
  | cons c s ih => rw [occurs, Bool.or_eq_true, isSome_afterMark?, ih, List.infix_cons_iff]

theorem holds_iff {s mark : String} : holds s mark = true ↔ mark.toList <:+: s.toList := by
  unfold holds
  rw [← isSome_cut?, Option.isSome_iff_ne_none, Ne, cut?_eq_none_iff, not_not]

theorem not_infix_of_cut? (hmark : mark ≠ []) (h : cut? mark s = some (before, after)) :
    ¬ mark <:+: before := by
  induction s generalizing before with
  | nil =>
    obtain ⟨rest, hrest, hbefore⟩ := Option.map_eq_some_iff.1 h
    cases hbefore
    rwa [List.infix_nil]
  | cons c s ih =>
    rw [cut?] at h
    split at h
    · cases h
      rwa [List.infix_nil]
    · next hnone =>
      obtain ⟨⟨front, back⟩, hcut, hparts⟩ := Option.map_eq_some_iff.1 h
      cases hparts
      rw [List.infix_cons_iff, not_or]
      refine ⟨fun hprefix => ?_, ih hcut⟩
      have hwhole : mark <+: c :: s := by
        rw [cut?_eq_some hcut, List.append_assoc, ← List.cons_append]
        exact hprefix.trans (List.prefix_append _ _)
      rw [← isSome_afterMark?, hnone] at hwhole
      cases hwhole

/-- What starts in a text and lacks the character behind it ends in the text. -/
theorem prefix_of_append_cons {m : Char} {rest front tail : List Char} (hm : m ∉ rest)
    (h : rest <+: front ++ m :: tail) : rest <+: front := by
  rcases List.prefix_or_prefix_of_prefix h (List.prefix_append front (m :: tail)) with h' | ⟨y, rfl⟩
  · exact h'
  · have hy : y <+: m :: tail := (List.prefix_append_right_inj front).1 h
    cases y with
    | nil => rw [List.append_nil]
    | cons d y =>
      obtain ⟨rfl, -⟩ := List.cons_prefix_cons.1 hy
      exact absurd (by simp) hm

/-- **A text is cut where what stands before the mark does not hold it.** The first character of the
mark comes only once in it, so that it cannot overlap with itself. -/
theorem cut?_eq_some_iff {m : Char} {rest : List Char} (hm : m ∉ rest) :
    cut? (m :: rest) s = some (before, after) ↔
      s = before ++ m :: rest ++ after ∧ ¬ m :: rest <:+: before := by
  refine ⟨fun h => ⟨cut?_eq_some h, not_infix_of_cut? (by simp) h⟩, ?_⟩
  rintro ⟨rfl, hbefore⟩
  induction before with
  | nil =>
    have hmark : afterMark? (m :: rest) (m :: (rest ++ after)) = some after :=
      afterMark?_eq_some.2 rfl
    rw [List.nil_append, List.cons_append, cut?, hmark]
  | cons c front ih =>
    rw [List.infix_cons_iff, not_or] at hbefore
    have hnone : afterMark? (m :: rest) (c :: (front ++ m :: rest ++ after)) = none := by
      rw [← Option.not_isSome_iff_eq_none, isSome_afterMark?]
      intro hprefix
      rw [List.append_assoc, List.cons_append, List.cons_prefix_cons] at hprefix
      obtain ⟨rfl, hrest⟩ := hprefix
      exact hbefore.1 (List.cons_prefix_cons.2 ⟨rfl, prefix_of_append_cons hm hrest⟩)
    rw [List.cons_append, List.cons_append, cut?, hnone]
    dsimp only
    rw [ih hbefore.2]
    rfl

/-- What follows the last separator holds none: it is all of the text, or one stands before it. -/
theorem afterLast_eq_iff {sep : Char} {last : List Char} :
    afterLast sep s = last ↔ sep ∉ last ∧ (s = last ∨ ∃ base, s = base ++ sep :: last) := by
  constructor
  · rintro rfl
    change sep ∉ s.rtakeWhile (· ≠ sep) ∧
      (s = s.rtakeWhile (· ≠ sep) ∨ ∃ base, s = base ++ sep :: s.rtakeWhile (· ≠ sep))
    refine ⟨fun hsep => by simpa using List.mem_rtakeWhile_imp hsep, ?_⟩
    have hsplit := List.rdropWhile_append_rtakeWhile (p := (· ≠ sep)) (l := s)
    by_cases hnone : s.rdropWhile (· ≠ sep) = []
    · rw [hnone, List.nil_append] at hsplit
      exact .inl hsplit.symm
    · refine .inr ⟨(s.rdropWhile (· ≠ sep)).dropLast, ?_⟩
      have hlast := List.rdropWhile_last_not (· ≠ sep) s hnone
      have hsep : (s.rdropWhile (· ≠ sep)).getLast hnone = sep := by simpa using hlast
      conv_lhs => rw [← hsplit, ← List.dropLast_append_getLast hnone, hsep]
      rw [List.append_assoc, List.singleton_append]
  · rintro ⟨hlast, hs⟩
    have hall : ∀ c ∈ last.reverse, decide (c ≠ sep) = true := fun c hc =>
      decide_eq_true (ne_of_mem_of_not_mem (List.mem_reverse.1 hc) hlast)
    rcases hs with rfl | ⟨base, rfl⟩
    · rw [afterLast, List.takeWhile_eq_self_iff.2 hall, List.reverse_reverse]
    · rw [afterLast, List.reverse_append, List.reverse_cons, List.append_assoc,
        List.takeWhile_append_of_pos hall, List.singleton_append,
        List.takeWhile_cons_of_neg (by simp), List.append_nil, List.reverse_reverse]

/-! ### Marks among bytes -/

theorem toList_loop (bytes : ByteArray) (i : Nat) (seen : List UInt8) :
    ByteArray.toList.loop bytes i seen = seen.reverse ++ bytes.data.toList.drop i := by
  fun_induction ByteArray.toList.loop bytes i seen with
  | case1 i seen h ih =>
    have hi : i < bytes.data.toList.length := h
    rw [ih, List.drop_eq_getElem_cons hi, List.reverse_cons, List.append_assoc,
      List.singleton_append, ByteArray.get!, getElem!_pos bytes.data i h, Array.getElem_toList]
  | case2 i seen h =>
    rw [List.drop_eq_nil_of_le (Nat.le_of_not_lt h), List.append_nil]

theorem encode_ofList (s : List Char) :
    encode (String.ofList s) = s.flatMap String.utf8EncodeChar := by
  rw [encode, String.toUTF8, String.toByteArray_ofList, List.utf8Encode, ByteArray.toList,
    toList_loop, List.toList_data_toByteArray]
  rfl

theorem encode_eq_flatMap (s : String) : encode s = s.toList.flatMap String.utf8EncodeChar := by
  rw [← encode_ofList, String.ofList_toList]

/-- A byte below 128 in a character is the only byte of it: every byte of a longer character has
its highest bit set. -/
theorem utf8EncodeChar_of_mem {c : Char} {b : UInt8} (hb : b < 128)
    (h : b ∈ String.utf8EncodeChar c) : String.utf8EncodeChar c = [b] := by
  have high (n : Nat) (hn : 128 ≤ n) (hn' : n < 256) : b ≠ UInt8.ofNat n := by
    rintro rfl
    rw [UInt8.lt_iff_toNat_lt, UInt8.toNat_ofNat', Nat.mod_eq_of_lt hn'] at hb
    exact absurd hb (Nat.not_lt.2 hn)
  rw [String.utf8EncodeChar.eq_1] at h ⊢
  split at h
  · next hone => rw [if_pos hone, List.mem_singleton.1 h]
  · exfalso
    split at h
    · simp only [List.mem_cons, List.not_mem_nil, or_false] at h
      rcases h with h | h <;> exact high _ (by omega) (by omega) h
    split at h <;> simp only [List.mem_cons, List.not_mem_nil, or_false] at h
    · rcases h with h | h | h <;> exact high _ (by omega) (by omega) h
    · rcases h with h | h | h | h <;> exact high _ (by omega) (by omega) h

/-- An ASCII character is one byte, below 128. -/
theorem utf8EncodeChar_ascii {c : Char} (hc : c.toNat < 128) :
    ∃ b < 128, String.utf8EncodeChar c = [b] := by
  refine ⟨UInt8.ofNat c.toNat, ?_, ?_⟩
  · rwa [UInt8.lt_iff_toNat_lt, UInt8.toNat_ofNat', Nat.mod_eq_of_lt (by omega)]
  · exact if_pos (Nat.le_of_lt_succ hc)

theorem utf8EncodeChar_injective : Function.Injective String.utf8EncodeChar := by
  intro c d h
  have hread := ByteArray.utf8DecodeChar?_utf8EncodeChar_append (b := ByteArray.empty) (c := c)
  rw [h, ByteArray.utf8DecodeChar?_utf8EncodeChar_append] at hread
  exact (Option.some.inj hread).symm

variable {x y : Bytes}

/-- A byte below 128 in a text is a character of it. -/
theorem flatMap_eq_append_cons {b : UInt8} (hb : b < 128)
    (h : s.flatMap String.utf8EncodeChar = x ++ b :: y) :
    ∃ before c after, s = before ++ c :: after ∧ before.flatMap String.utf8EncodeChar = x ∧
      String.utf8EncodeChar c = [b] ∧ after.flatMap String.utf8EncodeChar = y := by
  induction s generalizing x with
  | nil => simp at h
  | cons c s ih =>
    rw [List.flatMap_cons, List.append_eq_append_iff] at h
    -- the byte comes after the bytes of `c`, or is among them
    rcases h with ⟨x, rfl, hs⟩ | ⟨t, hc, ht⟩
    · obtain ⟨before, d, after, rfl, rfl, hd, rfl⟩ := ih hs
      exact ⟨c :: before, d, after, rfl, List.flatMap_cons, hd, rfl⟩
    · rcases List.cons_eq_append_iff.1 ht with ⟨rfl, hs⟩ | ⟨t, rfl, hy⟩
      · obtain ⟨before, d, after, rfl, hbefore, hd, rfl⟩ := ih (x := []) hs
        refine ⟨c :: before, d, after, rfl, ?_, hd, rfl⟩
        rw [List.flatMap_cons, hbefore, hc, List.append_nil, List.append_nil]
      · have hone : String.utf8EncodeChar c = [b] := utf8EncodeChar_of_mem hb (by simp [hc])
        rw [hone] at hc
        obtain ⟨rfl, rfl⟩ : x = [] ∧ t = [] := by
          have hlength := congrArg List.length hc
          rw [List.length_singleton, List.length_append, List.length_cons] at hlength
          exact ⟨List.length_eq_zero_iff.1 (by omega), List.length_eq_zero_iff.1 (by omega)⟩
        exact ⟨[], c, s, rfl, rfl, hone, hy.symm⟩


/-- An ASCII text at the start of the bytes of a text is the start of the text. -/
theorem flatMap_eq_append_ascii (hmark : ∀ c ∈ mark, c.toNat < 128)
    (h : s.flatMap String.utf8EncodeChar = mark.flatMap String.utf8EncodeChar ++ y) :
    ∃ after, s = mark ++ after ∧ after.flatMap String.utf8EncodeChar = y := by
  induction mark generalizing s with
  | nil => exact ⟨s, rfl, h⟩
  | cons m mark ih =>
    obtain ⟨hm, hrest⟩ := List.forall_mem_cons.1 hmark
    obtain ⟨b, hb, henc⟩ := utf8EncodeChar_ascii hm
    rw [List.flatMap_cons, henc, List.append_assoc, List.singleton_append] at h
    obtain ⟨before, c, rest, rfl, hbefore, hc, hbytes⟩ := flatMap_eq_append_cons (x := []) hb h
    obtain rfl : before = [] := by
      cases before with
      | nil => rfl
      | cons d before => simp [String.utf8EncodeChar_ne_nil] at hbefore
    obtain rfl : c = m := utf8EncodeChar_injective (hc.trans henc.symm)
    obtain ⟨after, rfl, hafter⟩ := ih hrest hbytes
    exact ⟨after, rfl, hafter⟩

/-- Wherever its bytes occur among those of a text, a mark is made of characters of the text, and so
is what stands before it and after it. -/
def StandsWhole (mark : List Char) : Prop :=
  ∀ (text : String) (x y : Bytes), encode text = x ++ encode (String.ofList mark) ++ y →
    ∃ before after, text.toList = before ++ mark ++ after ∧
      encode (String.ofList before) = x ∧ encode (String.ofList after) = y

/-- **To cut the bytes of a text at an ASCII mark never cuts a character.** -/
theorem standsWhole_of_ascii (hmark : mark ≠ []) (hascii : ∀ c ∈ mark, c.toNat < 128) :
    StandsWhole mark := by
  intro text x y h
  obtain ⟨m, rest, rfl⟩ := List.exists_cons_of_ne_nil hmark
  obtain ⟨hm, hrest⟩ := List.forall_mem_cons.1 hascii
  obtain ⟨b, hb, henc⟩ := utf8EncodeChar_ascii hm
  rw [← String.ofList_toList (s := text), encode_ofList, encode_ofList, List.flatMap_cons, henc,
    List.append_assoc, List.singleton_append, List.cons_append] at h
  obtain ⟨before, c, tail, htext, hbefore, hc, htail⟩ := flatMap_eq_append_cons hb h
  obtain rfl : c = m := utf8EncodeChar_injective (hc.trans henc.symm)
  obtain ⟨after, rfl, hafter⟩ := flatMap_eq_append_ascii hrest htail
  refine ⟨before, after, ?_, ?_, ?_⟩
  · rw [htext, List.append_assoc, List.cons_append]
  · rw [encode_ofList, hbefore]
  · rw [encode_ofList, hafter]

end Formulary.Text
