import Formulary.Formula.Validate
import Formulary.Proofs.Descriptor
import Formulary.Proofs.Invocation.Reading

/-!
# Calls with the same text

The words behind a program can be found again from the end of a line: a word without quotes goes
back to the last space, and between quotes the one that has a space before it is where they were
opened, since every other one was shown as `'\''` (`last_word_eq`). So of two calls with the same
text, one has the words of the other and some more (`display_eq_iff`): those more are part of the
other one's program, which is shown without quotes whatever it holds.
-/

namespace Formulary.Invocation

variable {c : Char} {x y : List Char} {a b : List Char} {args args' : List String}

/-! ### A line from its end -/

/-- What is shown of a character between quotes, backwards. -/
def quotedBack (c : Char) : List Char := (quotedChar c).reverse

theorem quotedBack_quote : quotedBack '\'' = ['\'', '\'', '\\', '\''] := rfl

theorem quotedBack_of_ne (hc : c ≠ '\'') : quotedBack c = [c] := by
  rw [quotedBack, quotedChar, if_neg hc, List.reverse_singleton]

theorem head?_quotedBack_append (c : Char) (s : List Char) :
    (quotedBack c ++ s).head? = some c := by
  by_cases hc : c = '\''
  · rw [hc, quotedBack_quote]
    rfl
  · rw [quotedBack_of_ne hc]
    rfl

/-- Quotes are opened where the next character back is a space, and each character between them is
found before that. -/
theorem quotedBack_inj
    (h : a.flatMap quotedBack ++ '\'' :: ' ' :: x = b.flatMap quotedBack ++ '\'' :: ' ' :: y) :
    a = b ∧ x = y := by
  induction a generalizing b with
  | nil =>
    cases b with
    | nil =>
      cases h
      exact ⟨rfl, rfl⟩
    | cons d b =>
      -- before a quote that was between the quotes there is one more, and no space
      by_cases hd : d = '\''
      · subst hd
        simp [quotedBack_quote] at h
      · simp [quotedBack_of_ne hd, Ne.symm hd] at h
  | cons c a ih =>
    cases b with
    | nil =>
      by_cases hc : c = '\''
      · subst hc
        simp [quotedBack_quote] at h
      · simp [quotedBack_of_ne hc, hc] at h
    | cons d b =>
      rw [List.flatMap_cons, List.flatMap_cons, List.append_assoc, List.append_assoc] at h
      have hhead := congrArg List.head? h
      rw [head?_quotedBack_append, head?_quotedBack_append] at hhead
      obtain rfl : c = d := Option.some.inj hhead
      obtain ⟨rfl, rfl⟩ := ih (List.append_cancel_left h)
      exact ⟨rfl, rfl⟩

theorem reverse_flatMap_quotedChar (s : List Char) :
    (s.flatMap quotedChar).reverse = s.reverse.flatMap quotedBack := by
  induction s with
  | nil => rfl
  | cons c s ih => simp [ih, quotedBack]

/-- A word that is shown as it is does not end with a quote. -/
theorem bare_ne_quoted {s s' : String} (hs : isBare s = true) (hs' : isBare s' = false) :
    x ++ ' ' :: (shellWord s).toList ≠ y ++ ' ' :: (shellWord s').toList := by
  obtain ⟨hne, hsafe⟩ := isBare_iff.1 hs
  intro h
  have hlast := congrArg List.getLast? h
  rw [toList_shellWord, toList_shellWord, hs, hs'] at hlast
  have hquote : s.toList.getLast hne = '\'' := by
    simpa [List.getLast?_append, List.getLast?_cons, List.getLast?_eq_some_getLast hne] using hlast
  have hsafe := hsafe _ (List.getLast_mem hne)
  rw [hquote] at hsafe
  revert hsafe
  decide

/-- **The last word of a line can be told from the line.** -/
theorem last_word_eq {s s' : String}
    (h : x ++ ' ' :: (shellWord s).toList = y ++ ' ' :: (shellWord s').toList) :
    x = y ∧ s = s' := by
  have hwords : s = s' := by
    cases hs : isBare s with
    | true =>
      cases hs' : isBare s' with
      | true =>
        have hspace {t : String} (ht : isBare t = true) : ' ' ∉ t.toList := fun hmem => by
          have hsafe := (isBare_iff.1 ht).2 _ hmem
          revert hsafe
          decide
        rw [toList_shellWord, toList_shellWord, hs, hs', if_pos rfl, if_pos rfl] at h
        have hlast := Text.afterLast_eq_iff.2 ⟨hspace hs, .inr ⟨x, rfl⟩⟩
        rw [h, Text.afterLast_eq_iff.2 ⟨hspace hs', .inr ⟨y, rfl⟩⟩] at hlast
        exact String.toList_inj.1 hlast.symm
      | false => exact absurd h (bare_ne_quoted hs hs')
    | false =>
      cases hs' : isBare s' with
      | true => exact absurd h.symm (bare_ne_quoted hs' hs)
      | false =>
        have hback := congrArg List.reverse h
        rw [toList_shellWord, toList_shellWord, hs, hs'] at hback
        simp [reverse_flatMap_quotedChar] at hback
        exact String.toList_inj.1 (List.reverse_inj.1 (quotedBack_inj hback).1)
  subst hwords
  exact ⟨List.append_cancel_right h, rfl⟩

theorem spacedWords_append (args args' : List String) :
    spacedWords (args ++ args') = spacedWords args ++ spacedWords args' := List.flatMap_append

theorem spacedWords_concat (args : List String) (arg : String) :
    spacedWords (args ++ [arg]) = spacedWords args ++ ' ' :: (shellWord arg).toList := by
  simp [spacedWords]

/-- Lines that are the same have the same words at their ends, up to where the fewer ones begin. -/
theorem append_spacedWords_eq_iff :
    x ++ spacedWords args = y ++ spacedWords args' ↔
      (∃ words, x = y ++ spacedWords words ∧ args' = words ++ args) ∨
        ∃ words, y = x ++ spacedWords words ∧ args = words ++ args' := by
  constructor
  · intro h
    -- Word after word is taken from the ends, until one of the lists is empty.
    induction args using List.reverseRecOn generalizing args' with
    | nil => exact .inl ⟨args', by simpa [spacedWords] using h, by simp⟩
    | append_singleton args arg ih =>
      cases args' using List.reverseRecOn with
      | nil => exact .inr ⟨args ++ [arg], by simpa [spacedWords] using h.symm, by simp⟩
      | append_singleton args' arg' =>
        rw [spacedWords_concat, spacedWords_concat, ← List.append_assoc, ← List.append_assoc] at h
        obtain ⟨hrest, rfl⟩ := last_word_eq h
        rcases ih hrest with ⟨words, hx, rfl⟩ | ⟨words, hy, rfl⟩
        · exact .inl ⟨words, hx, by simp⟩
        · exact .inr ⟨words, hy, by simp⟩
  · rintro (⟨words, rfl, rfl⟩ | ⟨words, rfl, rfl⟩)
    · rw [spacedWords_append, List.append_assoc]
    · rw [spacedWords_append, List.append_assoc]

/-! ### Calls -/

def shownArgs (args : List String) : String :=
  String.join (args.map fun arg => " " ++ shellWord arg)

theorem toList_shownArgs (args : List String) : (shownArgs args).toList = spacedWords args := by
  rw [shownArgs, String.toList_join, List.flatMap_map]
  simp [spacedWords]

theorem eq_append_shownArgs {p q : String} {words : List String} :
    p = q ++ shownArgs words ↔ p.toList = q.toList ++ spacedWords words := by
  rw [← String.toList_inj, String.toList_append, toList_shownArgs]

theorem display_eq_iff_spacedWords {env : List (String × String)} {p q : String} :
    display ⟨p, args, env⟩ = display ⟨q, args', env⟩ ↔
      p.toList ++ spacedWords args = q.toList ++ spacedWords args' := by
  rw [← String.toList_inj, toList_display, toList_display, List.append_assoc, List.append_assoc,
    List.append_cancel_left_eq]

/-- **Two calls with the same variables have the same text exactly if one of them shows its first
arguments, as they would be shown, in the name of its program.** All else of a call can be told from
its text. -/
theorem display_eq_iff (env : List (String × String)) (p q : String) (args args' : List String) :
    display ⟨p, args, env⟩ = display ⟨q, args', env⟩ ↔
      (∃ words, p = q ++ shownArgs words ∧ args' = words ++ args) ∨
        ∃ words, q = p ++ shownArgs words ∧ args = words ++ args' := by
  rw [display_eq_iff_spacedWords, append_spacedWords_eq_iff]
  simp only [eq_append_shownArgs]

def ofHead (f : Formula) (c : Context) : Except Failure Invocation := do
  let d ← f.descriptor .head
  let r ← Resolution.resolve f d c
  return ofBuild f.build r

def demoWith (toolchain verb : String) (args : List String) : Formula :=
  { Formula.cloned with
    build := { toolchain := toolchain, verb := verb, args := args, target := "." } }

/-- **A toolchain whose name holds a space is shown like another one with an argument.** Both
formulas are accepted, and they do not run the same program. -/
theorem spaced_toolchain_shown_alike :
    let warnings := [.noDescription, .noLicense, .noHomepage, .noTests]
    let c : Context := { root := "/opt/demo", buildDate := 0, tapUser := "kettle" }
    let standard := ["-trimpath", "-o", "/opt/demo/bin/demo", "."]
    let i : Invocation := ⟨"go", "build" :: "-v" :: standard, []⟩
    let j : Invocation := ⟨"go build", "-v" :: standard, []⟩
    (demoWith "go" "build" ["-v"]).validate = .ok warnings ∧
      (demoWith "go build" "-v" []).validate = .ok warnings ∧
      ofHead (demoWith "go" "build" ["-v"]) c = .ok i ∧
      ofHead (demoWith "go build" "-v" []) c = .ok j ∧
      i.env = j.env ∧ i.display = j.display ∧ i.program ≠ j.program ∧ i.args ≠ j.args := by
  decide +kernel

end Formulary.Invocation
