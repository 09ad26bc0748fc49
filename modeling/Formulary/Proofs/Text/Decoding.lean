import Formulary.Proofs.Text.Marks

/-!
# Texts that are read back

The bytes of a character are read as that character, whatever follows (`decodeStep_encodeChar`), so
the bytes of a text are read as that text: `decodeLossy_encode`, `decode?_encode`. Other bytes are
the bytes of no text, and are not left as they are: `encode_decodeLossy_iff`.
-/

namespace Formulary.Text

/-! ### Steps that read a character -/

section Steps

variable {first b c d : UInt8} {rest : Bytes}

theorem decodeStep_one (h : widthOf first = 1) :
    decodeStep first rest = (some (Char.ofNat first.toNat), 0) := by
  simp [decodeStep, h]

theorem decodeStep_two (h : widthOf first = 2) (hb : isTail b = true) :
    decodeStep first (b :: rest) =
      (some (Char.ofNat (first.toNat % 32 * 64 + tailBits b)), 1) := by
  simp [decodeStep, h, hb]

theorem decodeStep_three (h : widthOf first = 3)
    (hb : (secondByte first).1 ≤ b ∧ b ≤ (secondByte first).2) (hc : isTail c = true) :
    decodeStep first (b :: c :: rest) =
      (some (Char.ofNat ((first.toNat % 16 * 64 + tailBits b) * 64 + tailBits c)), 2) := by
  simp [decodeStep, h, hb, hc]

theorem decodeStep_four (h : widthOf first = 4)
    (hb : (secondByte first).1 ≤ b ∧ b ≤ (secondByte first).2) (hc : isTail c = true)
    (hd : isTail d = true) :
    decodeStep first (b :: c :: d :: rest) =
      (some (Char.ofNat
        (((first.toNat % 8 * 64 + tailBits b) * 64 + tailBits c) * 64 + tailBits d)), 3) := by
  simp [decodeStep, h, hb, hc, hd]

end Steps

/-! ### Bytes by their numbers -/

section Numbers

variable {n m : Nat}

theorem toNat_ofNat (h : n < 256) : (UInt8.ofNat n).toNat = n := by
  rw [UInt8.toNat_ofNat', Nat.mod_eq_of_lt h]

theorem isTail_ofNat (n : Nat) : isTail (UInt8.ofNat (n % 64 + 128)) = true := by
  simp [isTail, UInt8.le_iff_toNat_le]
  omega

theorem tailBits_ofNat (n : Nat) : tailBits (UInt8.ofNat (n % 64 + 128)) = n % 64 := by
  unfold tailBits
  rw [toNat_ofNat (by omega)]
  omega

theorem widthOf_ofNat (hn : n < 256) : widthOf (UInt8.ofNat n) =
    if n ≤ 0x7F then 1
    else if 0xC2 ≤ n ∧ n ≤ 0xDF then 2
    else if 0xE0 ≤ n ∧ n ≤ 0xEF then 3
    else if 0xF0 ≤ n ∧ n ≤ 0xF4 then 4
    else 0 := by
  simp [widthOf, UInt8.le_iff_toNat_le, Nat.mod_eq_of_lt hn]

/-- A byte may stand second if it continues a character, and with the first one makes neither one
that fits into fewer bytes, nor a surrogate, nor one that is too large. -/
theorem within_secondByte (hn : n < 256) (hm : 0x80 ≤ m ∧ m ≤ 0xBF)
    (hlong : (n = 0xE0 → 0xA0 ≤ m) ∧ (n = 0xF0 → 0x90 ≤ m)) (hsurrogate : n = 0xED → m ≤ 0x9F)
    (hlarge : n = 0xF4 → m ≤ 0x8F) :
    (secondByte (UInt8.ofNat n)).1 ≤ UInt8.ofNat m ∧
      UInt8.ofNat m ≤ (secondByte (UInt8.ofNat n)).2 := by
  have hm' : (UInt8.ofNat m).toNat = m := toNat_ofNat (by omega)
  simp only [secondByte, ← UInt8.toNat_inj, toNat_ofNat hn, UInt8.le_iff_toNat_le, hm']
  split_ifs <;> simp at * <;> omega

end Numbers

/-! ### Reading characters -/

/-- The bytes of a character are read as that character, whatever follows them. -/
theorem decodeStep_encodeChar (c : Char) (rest : Bytes) :
    ∃ b tail, String.utf8EncodeChar c = b :: tail ∧
      decodeStep b (tail ++ rest) = (some c, tail.length) := by
  have hvalid := c.valid
  rw [UInt32.isValidChar, Nat.isValidChar] at hvalid
  have hread {k : Nat} (h : k = c.val.toNat) : Char.ofNat k = c := by
    rw [h]
    exact Char.ofNat_toNat c
  rw [String.utf8EncodeChar.eq_1]
  split_ifs with hone htwo hthree
  · have hwidth : widthOf (UInt8.ofNat c.val.toNat) = 1 := by
      rw [widthOf_ofNat (by omega), if_pos hone]
    refine ⟨_, _, rfl, ?_⟩
    rw [decodeStep_one hwidth, toNat_ofNat (by omega), hread rfl]
    rfl
  · have hwidth : widthOf (UInt8.ofNat (c.val.toNat / 64 % 32 + 192)) = 2 := by
      rw [widthOf_ofNat (by omega), if_neg (by omega), if_pos (by omega)]
    refine ⟨_, _, rfl, ?_⟩
    refine (decodeStep_two hwidth (isTail_ofNat _)).trans ?_
    rw [tailBits_ofNat, toNat_ofNat (by omega), hread (by omega)]
    rfl
  · have hwidth : widthOf (UInt8.ofNat (c.val.toNat / 4096 % 16 + 224)) = 3 := by
      rw [widthOf_ofNat (by omega), if_neg (by omega), if_neg (by omega), if_pos (by omega)]
    have hsecond := within_secondByte (n := c.val.toNat / 4096 % 16 + 224)
      (m := c.val.toNat / 64 % 64 + 128) (by omega) (by omega) (by omega) (by omega) (by omega)
    refine ⟨_, _, rfl, ?_⟩
    refine (decodeStep_three hwidth hsecond (isTail_ofNat _)).trans ?_
    rw [tailBits_ofNat, tailBits_ofNat, toNat_ofNat (by omega), hread (by omega)]
    rfl
  · have hwidth : widthOf (UInt8.ofNat (c.val.toNat / 262144 % 8 + 240)) = 4 := by
      rw [widthOf_ofNat (by omega), if_neg (by omega), if_neg (by omega), if_neg (by omega),
        if_pos (by omega)]
    have hsecond := within_secondByte (n := c.val.toNat / 262144 % 8 + 240)
      (m := c.val.toNat / 4096 % 64 + 128) (by omega) (by omega) (by omega) (by omega) (by omega)
    refine ⟨_, _, rfl, ?_⟩
    refine (decodeStep_four hwidth hsecond (isTail_ofNat _) (isTail_ofNat _)).trans ?_
    rw [tailBits_ofNat, tailBits_ofNat, tailBits_ofNat, toNat_ofNat (by omega), hread (by omega)]
    rfl

theorem scan_encodeChars (s : List Char) :
    scan (s.flatMap String.utf8EncodeChar) = s.map some := by
  induction s with
  | nil => exact scan_nil
  | cons c rest ih =>
    obtain ⟨b, tail, hbytes, hstep⟩ :=
      decodeStep_encodeChar c (rest.flatMap String.utf8EncodeChar)
    rw [List.flatMap_cons, hbytes, List.cons_append, scan_cons, hstep, List.drop_left, ih]
    rfl

/-- **The bytes of a text are read as that text.** -/
theorem decodeLossy_encode (s : String) : decodeLossy (encode s) = s := by
  unfold decodeLossy
  rw [← String.ofList_toList (s := s), encode_ofList, scan_encodeChars, List.map_map]
  simp [Function.comp_def]

theorem decode?_encode (s : String) : decode? (encode s) = some s := by
  rw [decode?, encode_eq_flatMap, scan_encodeChars]
  simp

/-- Bytes that are read leniently stay the same just if they are the bytes of a text. -/
theorem encode_decodeLossy_iff {bytes : Bytes} :
    encode (decodeLossy bytes) = bytes ↔ ∃ s, bytes = encode s := by
  constructor
  · exact fun h => ⟨_, h.symm⟩
  · rintro ⟨s, rfl⟩
    rw [decodeLossy_encode]

end Formulary.Text
