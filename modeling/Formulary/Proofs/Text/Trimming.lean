import Formulary.Text.Blank
import Mathlib.Data.List.DropRight
import Mathlib.Tactic.Common

/-!
# Texts without the blanks around them

Trimming a text finds the one text without a blank at either end that it is made of by putting
blanks in front and behind: `trimChars_eq_iff`.
-/

namespace Formulary.Text

variable {s text front back : List Char}

/-- Neither the first character of a text nor its last one is blank. -/
structure Trimmed (text : List Char) : Prop where
  first : ∀ c ∈ text.head?, isBlank c = false
  last : ∀ c ∈ text.getLast?, isBlank c = false

theorem Trimmed.of_forall (h : ∀ c ∈ text, isBlank c = false) : Trimmed text :=
  ⟨fun c hc => h c (List.mem_of_head? hc), fun c hc => h c (List.mem_of_getLast? hc)⟩

theorem trimStartChars_append (h : ∀ c ∈ front, isBlank c = true) (s : List Char) :
    trimStartChars (front ++ s) = trimStartChars s :=
  List.dropWhile_append_of_pos h

theorem trimEndChars_append (s : List Char) (h : ∀ c ∈ back, isBlank c = true) :
    trimEndChars (s ++ back) = trimEndChars s := by
  have hback : ∀ c ∈ back.reverse, isBlank c = true := fun c hc => h c (List.mem_reverse.1 hc)
  rw [trimEndChars, trimEndChars, List.reverse_append, List.dropWhile_append_of_pos hback]

theorem trimStartChars_of_first (h : ∀ c ∈ text.head?, isBlank c = false) :
    trimStartChars text = text := by
  cases text with
  | nil => rfl
  | cons c rest =>
    have hc := h c rfl
    exact List.dropWhile_cons_of_neg (by rw [hc]; exact Bool.false_ne_true)

theorem trimEndChars_of_last (h : ∀ c ∈ text.getLast?, isBlank c = false) :
    trimEndChars text = text := by
  have hfirst : ∀ c ∈ text.reverse.head?, isBlank c = false := by
    rwa [List.head?_reverse]
  have hreverse := trimStartChars_of_first hfirst
  unfold trimStartChars at hreverse
  rw [trimEndChars, hreverse, List.reverse_reverse]

/-- What is dropped at the start is blank, and what is left does not start with a blank. -/
theorem exists_trimStartChars (s : List Char) :
    (∀ c ∈ (trimStartChars s).head?, isBlank c = false) ∧
    ∃ front, s = front ++ trimStartChars s ∧ ∀ c ∈ front, isBlank c = true := by
  refine ⟨fun c hc => ?_, s.takeWhile isBlank, List.takeWhile_append_dropWhile.symm,
    fun c hc => List.mem_takeWhile_imp hc⟩
  have hnot := List.head?_dropWhile_not isBlank s
  unfold trimStartChars at hc
  rw [Option.mem_def] at hc
  rw [hc] at hnot
  simpa using hnot

/-- What is dropped at the end is blank, and what is left does not end with a blank. -/
theorem exists_trimEndChars (s : List Char) :
    (∀ c ∈ (trimEndChars s).getLast?, isBlank c = false) ∧
    ∃ back, s = trimEndChars s ++ back ∧ ∀ c ∈ back, isBlank c = true := by
  obtain ⟨hfirst, front, hsplit, hfront⟩ := exists_trimStartChars s.reverse
  unfold trimStartChars at hfirst hsplit
  refine ⟨?_, front.reverse, ?_, fun c hc => hfront c (List.mem_reverse.1 hc)⟩
  · rwa [trimEndChars, List.getLast?_reverse]
  · rw [trimEndChars, ← List.reverse_append, ← hsplit, List.reverse_reverse]

/-- **Trimming takes away the blanks at both ends, and nothing else.** -/
theorem trimChars_eq_iff :
    trimChars s = text ↔
      Trimmed text ∧ ∃ front back, s = front ++ text ++ back ∧
        (∀ c ∈ front, isBlank c = true) ∧ ∀ c ∈ back, isBlank c = true := by
  constructor
  · rintro rfl
    obtain ⟨hfirst, front, hstart, hfront⟩ := exists_trimStartChars s
    obtain ⟨hlast, back, hend, hback⟩ := exists_trimEndChars (trimStartChars s)
    refine ⟨⟨fun c hc => ?_, hlast⟩, front, back, ?_, hfront, hback⟩
    · -- the first character is still there after the end has been trimmed
      refine hfirst c ?_
      unfold trimChars at hc
      rw [hend, Option.mem_def, List.head?_append, hc]
      rfl
    · rw [trimChars, List.append_assoc, ← hend, ← hstart]
  · rintro ⟨htext, front, back, rfl, hfront, hback⟩
    rw [trimChars, List.append_assoc, trimStartChars_append hfront]
    cases text with
    | nil =>
      have hnothing : trimStartChars back = [] := List.dropWhile_eq_nil_iff.2 hback
      rw [List.nil_append, hnothing]
      rfl
    | cons c rest =>
      have hfirst : trimStartChars (c :: rest ++ back) = c :: rest ++ back :=
        trimStartChars_of_first fun d hd => htext.first d hd
      rw [hfirst, trimEndChars_append _ hback, trimEndChars_of_last htext.last]

theorem trimChars_trimChars (s : List Char) : trimChars (trimChars s) = trimChars s := by
  obtain ⟨htrimmed, -⟩ := trimChars_eq_iff.1 (rfl : trimChars s = trimChars s)
  exact trimChars_eq_iff.2 ⟨htrimmed, [], [], by simp, by simp, by simp⟩

end Formulary.Text
