/-!
# Searching a text

Finding, splitting at and replacing a mark in a list of characters, always at its leftmost
occurrence. `cut?_eq_some` says what a split means: nothing is lost.
-/

namespace Formulary.Text

/-! ### A mark at the start or the end -/

/-- What follows `mark` at the start of `s`, if it stands there. -/
def afterMark? : (mark s : List Char) → Option (List Char)
  | [], s => some s
  | _ :: _, [] => none
  | m :: mark, c :: s => if m = c then afterMark? mark s else none

theorem afterMark?_eq_some {mark s rest : List Char} :
    afterMark? mark s = some rest ↔ s = mark ++ rest := by
  induction mark generalizing s with
  | nil => simp [afterMark?, eq_comm]
  | cons m mark ih =>
    cases s with
    | nil => simp [afterMark?]
    | cons c s =>
      by_cases h : m = c
      · simp [afterMark?, h, ih]
      · simp [afterMark?, h, Ne.symm h]

/-- What stands before `mark` at the end of `s`, if it ends so. -/
def beforeMark? (mark s : List Char) : Option (List Char) :=
  (afterMark? mark.reverse s.reverse).map List.reverse

theorem beforeMark?_eq_some {mark s rest : List Char} :
    beforeMark? mark s = some rest ↔ s = rest ++ mark := by
  simp only [beforeMark?, Option.map_eq_some_iff, afterMark?_eq_some]
  constructor
  · rintro ⟨r, h, rfl⟩
    have := congrArg List.reverse h
    simpa using this
  · rintro rfl
    exact ⟨rest.reverse, by simp, by simp⟩

/-! ### The leftmost occurrence -/

/-- The parts of `s` before and after the leftmost `mark`. -/
def cut? (mark : List Char) : List Char → Option (List Char × List Char)
  | [] => (afterMark? mark []).map fun rest => ([], rest)
  | c :: s =>
    match afterMark? mark (c :: s) with
    | some rest => some ([], rest)
    | none => (cut? mark s).map fun (before, after) => (c :: before, after)

theorem cut?_eq_some {mark s before after : List Char} (h : cut? mark s = some (before, after)) :
    s = before ++ mark ++ after := by
  induction s generalizing before with
  | nil =>
    simp only [cut?, Option.map_eq_some_iff, Prod.mk.injEq] at h
    obtain ⟨r, hr, rfl, rfl⟩ := h
    simpa using afterMark?_eq_some.1 hr
  | cons c s ih =>
    rw [cut?] at h
    split at h
    · next rest hr =>
      simp only [Option.some.injEq, Prod.mk.injEq] at h
      obtain ⟨rfl, rfl⟩ := h
      simpa using afterMark?_eq_some.1 hr
    · simp only [Option.map_eq_some_iff, Prod.mk.injEq, Prod.exists] at h
      obtain ⟨b, a, hb, rfl, rfl⟩ := h
      rw [ih hb]
      simp

/-- What is left after a cut is shorter by the mark. -/
theorem cut?_length {mark s before after : List Char} (h : cut? mark s = some (before, after)) :
    after.length + mark.length ≤ s.length := by
  have := congrArg List.length (cut?_eq_some h)
  simp only [List.length_append] at this
  omega

def occurs (mark : List Char) : List Char → Bool
  | [] => (afterMark? mark []).isSome
  | c :: s => (afterMark? mark (c :: s)).isSome || occurs mark s

theorem isSome_cut? (mark s : List Char) : (cut? mark s).isSome = occurs mark s := by
  induction s with
  | nil => simp [cut?, occurs]
  | cons c s ih =>
    rw [cut?, occurs]
    split
    · next h => simp [h]
    · next h => simp [h, ih]

def holds (s mark : String) : Bool := occurs mark.toList s.toList

/-! ### Replacing -/

/-- `s` with every `mark` replaced, from the left and without overlap; an empty mark is nowhere. -/
def replaceChars (mark sub : List Char) (s : List Char) : List Char :=
  if _ : mark = [] then s else
    match _ : cut? mark s with
    | none => s
    | some (before, after) => before ++ sub ++ replaceChars mark sub after
termination_by s.length
decreasing_by
  have := cut?_length ‹_›
  have : 0 < mark.length := List.length_pos_iff.2 ‹_›
  omega

def replace (s mark sub : String) : String :=
  String.ofList (replaceChars mark.toList sub.toList s.toList)

/-! ### Splitting at a character -/

/-- The parts of `s` between the characters `sep`; always at least one. -/
def splitAt (sep : Char) : List Char → List (List Char)
  | [] => [[]]
  | c :: s =>
    if c = sep then [] :: splitAt sep s
    else match splitAt sep s with
      | [] => [[c]]
      | part :: parts => (c :: part) :: parts

/-- What follows the last `sep`, or all of `s`. -/
def afterLast (sep : Char) (s : List Char) : List Char :=
  (s.reverse.takeWhile (· ≠ sep)).reverse

/-- The lines of a text, each without its line feed; a final line feed opens no line. -/
def lines (s : List Char) : List (List Char) :=
  let parts := splitAt '\n' s
  if parts.getLast? = some [] then parts.dropLast else parts

end Formulary.Text
