import Formulary.Proofs.Text.Decoding

/-!
# The order of texts

Texts are ordered by their characters, and so are their bytes: of two characters the larger one has
the larger bytes, from the first byte on in which they differ (`utf8EncodeChar_lt`). So a list of
texts that ascends does so byte by byte as well: `encode_lt_encode_iff`.
-/

namespace Formulary.Text

/-! ### Characters -/

/-- The larger of two numbers is the larger one in groups of six bits, from the top. -/
theorem sextets_lt {n m : Nat} (h : n < m) :
    n / 262144 < m / 262144 ∨ n / 262144 = m / 262144 ∧
      (n / 4096 % 64 < m / 4096 % 64 ∨ n / 4096 % 64 = m / 4096 % 64 ∧
        (n / 64 % 64 < m / 64 % 64 ∨ n / 64 % 64 = m / 64 % 64 ∧ n % 64 < m % 64)) := by
  have hlow : n / 4096 < m / 4096 ∨ n / 4096 = m / 4096 ∧
      (n / 64 % 64 < m / 64 % 64 ∨ n / 64 % 64 = m / 64 % 64 ∧ n % 64 < m % 64) := by omega
  rcases hlow with hhigh | ⟨hhigh, hrest⟩
  · have htop : n / 262144 < m / 262144 ∨
        n / 262144 = m / 262144 ∧ n / 4096 % 64 < m / 4096 % 64 := by omega
    exact htop.imp_right fun ⟨hsame, hlt⟩ => ⟨hsame, .inl hlt⟩
  · exact .inr ⟨by omega, .inr ⟨by omega, hrest⟩⟩

/-- The bytes of the larger of two characters are the larger ones, whatever follows. -/
theorem utf8EncodeChar_lt {c d : Char} (h : c < d) (x y : Bytes) :
    String.utf8EncodeChar c ++ x < String.utf8EncodeChar d ++ y := by
  have hlt : c.val.toNat < d.val.toNat := h
  have hd : d.val.toNat < 2097152 := by
    have hvalid := d.valid
    rw [UInt32.isValidChar, Nat.isValidChar] at hvalid
    omega
  rw [String.utf8EncodeChar.eq_1, String.utf8EncodeChar.eq_1]
  by_cases hwide : c.val.toNat ≤ 65535
  · split_ifs
    all_goals
      simp (disch := omega) only [List.cons_append, List.nil_append, List.cons_lt_cons_iff,
        UInt8.lt_iff_toNat_lt, ← UInt8.toNat_inj, toNat_ofNat]
      omega
  · -- both characters have four bytes
    have hsextets := sextets_lt hlt
    rw [if_neg (by omega), if_neg (by omega), if_neg (by omega), if_neg (by omega),
      if_neg (by omega), if_neg (by omega)]
    simp (disch := omega) only [List.cons_append, List.nil_append, List.cons_lt_cons_iff,
      UInt8.lt_iff_toNat_lt, ← UInt8.toNat_inj, toNat_ofNat, Nat.mod_eq_of_lt,
      Nat.add_lt_add_iff_right, Nat.add_right_cancel_iff]
    tauto

/-! ### Texts -/

theorem flatMap_utf8EncodeChar_lt {s t : List Char} (h : s < t) :
    s.flatMap String.utf8EncodeChar < t.flatMap String.utf8EncodeChar := by
  induction t generalizing s with
  | nil => exact absurd h (List.not_lt_nil s)
  | cons d t ih =>
    cases s with
    | nil =>
      obtain ⟨b, tail, hbytes⟩ := List.exists_cons_of_ne_nil (String.utf8EncodeChar_ne_nil (c := d))
      rw [List.flatMap_cons, hbytes]
      exact List.nil_lt_cons _ _
    | cons c s =>
      rw [List.flatMap_cons, List.flatMap_cons]
      rcases List.cons_lt_cons_iff.1 h with hlt | ⟨rfl, hrest⟩
      · exact utf8EncodeChar_lt hlt _ _
      · exact List.append_left_lt (ih hrest)

/-- **The order of texts is that of their bytes.** -/
theorem encode_lt_encode_iff {s t : String} : encode s < encode t ↔ s < t := by
  have hmono {s t : String} (h : s < t) : encode s < encode t := by
    rw [encode_eq_flatMap, encode_eq_flatMap]
    exact flatMap_utf8EncodeChar_lt (String.lt_iff.1 h)
  refine ⟨fun h => String.not_le.1 fun hle => ?_, hmono⟩
  have hge : s ≤ t := String.not_lt.1 fun hlt => List.lt_asymm h (hmono hlt)
  rw [String.le_antisymm hge hle] at h
  exact List.lt_irrefl _ h

end Formulary.Text
