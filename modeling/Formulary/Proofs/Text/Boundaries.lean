import Formulary.Proofs.Text.Decoding
import Formulary.Text.Boundary

/-!
# Places between characters

A place among the bytes of a text is between two characters just if some of the characters, from the
first one on, have as many bytes (`isBoundary_iff`). As no character has more than four bytes, there
is such a place at any place or at most three bytes before it (`exists_boundary`), and the search
backwards finds the last one: `boundaryFrom?_eq_some_iff`.
-/

namespace Formulary.Text

variable {s : List Char} {place : Nat}

/-! ### The bytes of a character -/

/-- The first byte of a character starts it, and up to three more continue it. -/
theorem utf8EncodeChar_eq_cons (c : Char) : ∃ b tail, String.utf8EncodeChar c = b :: tail ∧
    isTail b = false ∧ (∀ t ∈ tail, isTail t = true) ∧ tail.length ≤ 3 := by
  have hvalid := c.valid
  rw [UInt32.isValidChar, Nat.isValidChar] at hvalid
  have hlead {n : Nat} (hn : n < 256) (hstart : n < 0x80 ∨ 0xBF < n) :
      isTail (UInt8.ofNat n) = false := by
    simp only [isTail, UInt8.le_iff_toNat_le, toNat_ofNat hn]
    simp
    omega
  have htails (numbers : List Nat) :
      ∀ t ∈ numbers.map fun n => UInt8.ofNat (n % 64 + 128), isTail t = true := by
    simp only [List.mem_map, forall_exists_index, and_imp, forall_apply_eq_imp_iff₂, isTail_ofNat,
      implies_true]
  rw [String.utf8EncodeChar.eq_1]
  split_ifs
  · exact ⟨_, _, rfl, hlead (by omega) (by omega), by simp, by simp⟩
  · exact ⟨_, _, rfl, hlead (by omega) (by omega), htails [_], by simp⟩
  · exact ⟨_, _, rfl, hlead (by omega) (by omega), htails [_, _], by simp⟩
  · exact ⟨_, _, rfl, hlead (by omega) (by omega), htails [_, _, _], by simp⟩

/-! ### Boundaries -/

theorem isBoundary_eq_true_iff {bytes : Bytes} : isBoundary bytes place = true ↔
    place = 0 ∨ place = bytes.length ∨ ∃ b, bytes[place]? = some b ∧ isTail b = false := by
  simp [isBoundary, or_assoc, Option.any_eq_true]

theorem isBoundary_zero (bytes : Bytes) : isBoundary bytes 0 = true := rfl

/-- The start of a text is a boundary, as it is the end of the text or a first byte is there. -/
theorem lead_at_zero (s : List Char) :
    0 = (s.flatMap String.utf8EncodeChar).length ∨
      ∃ b, (s.flatMap String.utf8EncodeChar)[0]? = some b ∧ isTail b = false := by
  cases s with
  | nil => exact .inl rfl
  | cons c s =>
    obtain ⟨b, tail, hbytes, hlead, -, -⟩ := utf8EncodeChar_eq_cons c
    exact .inr ⟨b, by simp [hbytes], hlead⟩

/-- Between the first and the last byte of a character there is no boundary, and behind it the
boundaries are those of the rest. -/
theorem isBoundary_cons_iff (c : Char) (s : List Char) (place : Nat) :
    isBoundary ((c :: s).flatMap String.utf8EncodeChar) place = true ↔
      place = 0 ∨ ∃ later, place = (String.utf8EncodeChar c).length + later ∧
        isBoundary (s.flatMap String.utf8EncodeChar) later = true := by
  obtain ⟨b, tail, hbytes, -, htail, -⟩ := utf8EncodeChar_eq_cons c
  rw [List.flatMap_cons, isBoundary_eq_true_iff, hbytes]
  refine or_congr_right' fun hpos => ?_
  rcases Nat.lt_or_ge place (b :: tail).length with hinside | hbehind
  · obtain ⟨before, rfl⟩ := Nat.exists_eq_succ_of_ne_zero hpos
    constructor
    · rintro (hend | ⟨t, ht, hlead⟩)
      · rw [List.length_append] at hend
        omega
      · rw [List.getElem?_append_left hinside, List.getElem?_cons_succ] at ht
        rw [htail t (List.mem_of_getElem? ht)] at hlead
        cases hlead
    · rintro ⟨later, hlater, -⟩
      omega
  · obtain ⟨later, rfl⟩ := Nat.exists_eq_add_of_le hbehind
    rw [List.getElem?_append_right hbehind, Nat.add_sub_cancel_left, List.length_append,
      Nat.add_left_cancel_iff]
    simp only [Nat.add_left_cancel_iff, exists_eq_left', isBoundary_eq_true_iff]
    constructor
    · exact .inr
    · rintro (rfl | hrest)
      · exact lead_at_zero s
      · exact hrest

/-- **The boundaries of a text are the ends of its first characters.** -/
theorem isBoundary_iff : isBoundary (s.flatMap String.utf8EncodeChar) place = true ↔
    ∃ start, start <+: s ∧ (start.flatMap String.utf8EncodeChar).length = place := by
  induction s generalizing place with
  | nil => simp [isBoundary_eq_true_iff, @eq_comm _ 0 place]
  | cons c s ih =>
    rw [isBoundary_cons_iff]
    constructor
    · rintro (rfl | ⟨later, rfl, hlater⟩)
      · exact ⟨[], List.nil_prefix, rfl⟩
      · obtain ⟨start, hstart, rfl⟩ := ih.1 hlater
        exact ⟨c :: start, List.cons_prefix_cons.2 ⟨rfl, hstart⟩, by simp⟩
    · rintro ⟨start, hstart, rfl⟩
      cases start with
      | nil => exact .inl rfl
      | cons d start =>
        obtain ⟨rfl, hrest⟩ := List.cons_prefix_cons.1 hstart
        exact .inr ⟨_, by simp, ih.2 ⟨start, hrest, rfl⟩⟩

/-- A boundary is never more than three bytes away. -/
theorem exists_boundary (h : place ≤ (s.flatMap String.utf8EncodeChar).length) :
    ∃ back ≤ 3, back ≤ place ∧
      isBoundary (s.flatMap String.utf8EncodeChar) (place - back) = true := by
  induction s generalizing place with
  | nil =>
    obtain rfl : place = 0 := Nat.le_zero.1 h
    exact ⟨0, by decide, le_refl 0, isBoundary_zero _⟩
  | cons c s ih =>
    obtain ⟨b, tail, hbytes, -, -, hlength⟩ := utf8EncodeChar_eq_cons c
    rcases Nat.lt_or_ge place (String.utf8EncodeChar c).length with hinside | hbehind
    · -- the character starts there
      refine ⟨place, ?_, le_refl place, ?_⟩
      · rw [hbytes, List.length_cons] at hinside
        omega
      · rw [Nat.sub_self, isBoundary_zero]
    · obtain ⟨later, rfl⟩ := Nat.exists_eq_add_of_le hbehind
      rw [List.flatMap_cons, List.length_append, Nat.add_le_add_iff_left] at h
      obtain ⟨back, hback, hle, hboundary⟩ := ih h
      refine ⟨back, hback, by omega, (isBoundary_cons_iff c s _).2 (.inr ⟨_, ?_, hboundary⟩)⟩
      omega

/-! ### The search backwards -/

theorem exists_boundaryFrom (bytes : Bytes) (place : Nat) :
    ∃ stop, boundaryFrom? bytes place = some stop := by
  induction place with
  | zero => exact ⟨0, if_pos (isBoundary_zero bytes)⟩
  | succ place ih =>
    rw [boundaryFrom?]
    split
    · exact ⟨_, rfl⟩
    · exact ih

/-- **The search finds the last boundary up to a place.** -/
theorem boundaryFrom?_eq_some_iff {bytes : Bytes} {stop : Nat} :
    boundaryFrom? bytes place = some stop ↔ stop ≤ place ∧ isBoundary bytes stop = true ∧
      ∀ later, stop < later → later ≤ place → isBoundary bytes later = false := by
  induction place with
  | zero =>
    rw [boundaryFrom?, if_pos (isBoundary_zero bytes), Option.some.injEq, Nat.le_zero]
    constructor
    · rintro rfl
      exact ⟨rfl, isBoundary_zero bytes, fun later hlt hle => by omega⟩
    · rintro ⟨rfl, -⟩
      rfl
  | succ place ih =>
    rw [boundaryFrom?]
    split
    · next hhere =>
      rw [Option.some.injEq]
      constructor
      · rintro rfl
        exact ⟨le_refl _, hhere, fun later hlt hle => by omega⟩
      · rintro ⟨hle, -, hnone⟩
        by_contra hne
        rw [hnone (place + 1) (by omega) (le_refl _)] at hhere
        cases hhere
    · next hhere =>
      rw [ih]
      constructor
      · rintro ⟨hle, hstop, hnone⟩
        refine ⟨by omega, hstop, fun later hlt hle' => ?_⟩
        obtain hle' | rfl := Nat.le_succ_iff.1 hle'
        · exact hnone later hlt hle'
        · exact Bool.eq_false_iff.2 hhere
      · rintro ⟨hle, hstop, hnone⟩
        have hne : stop ≠ place + 1 := by
          rintro rfl
          exact hhere hstop
        exact ⟨by omega, hstop, fun later hlt hle' => hnone later hlt (by omega)⟩

end Formulary.Text
