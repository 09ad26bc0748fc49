import Formulary.Proofs.Filling
import Formulary.Proofs.Results
import Formulary.Resolution

/-!
# Symbols without a value

A flag may bind a symbol without saying to what: the variable named like the last part of the symbol
is meant. One code looks the variable up by its name, another one would read the placeholder of that
name in a template. They come to the same exactly if the name does not close the placeholder itself
(`resolve_shorthand_iff`); a name that opens another one, ends in a parenthesis or is empty does no
harm.
-/

namespace Formulary

open Template

variable {bindings : StringMap} {key symbol : String}

/-! ### A template that is one placeholder -/

def placeholderText (key : String) : String := "%(" ++ key ++ ")s"

theorem toList_placeholderText (key : String) :
    (placeholderText key).toList = [] ++ openMark ++ (key.toList ++ closeMark) := by
  simp [placeholderText, openMark, closeMark]

theorem lookup_toList (bindings : StringMap) (key : String) :
    bindings.lookup key.toList = (bindings.get? key).map String.toList := by
  rw [StringMap.lookup, String.ofList_toList]

theorem parse_placeholderText {name after : List Char}
    (h : Text.cut? closeMark (key.toList ++ closeMark) = some (name, after)) :
    parse (placeholderText key).toList = hole [] name (parse after) := by
  have hopen : ¬ openMark <:+: [] := by
    rw [List.infix_nil]
    exact List.cons_ne_nil _ _
  rw [toList_placeholderText]
  exact parse_of_hole (cut?_openMark.2 ⟨rfl, hopen⟩) h

theorem substitute_placeholderText (hkey : ¬ closeMark <:+: key.toList) (bindings : StringMap) :
    substitute (placeholderText key) bindings =
      match bindings.get? key with
      | some value => .ok value
      | none => .error (.unresolvedVariable key (placeholderText key)) := by
  have hcut : Text.cut? closeMark (key.toList ++ closeMark) = some (key.toList, []) :=
    cut?_closeMark.2 ⟨by simp, hkey⟩
  have hnil : parse [] = plain [] := parse_of_plain (by decide)
  rw [substitute, parse_placeholderText hcut, expand, lookup_toList, hnil]
  cases bindings.get? key with
  | none => simp
  | some value => simp [expand, Except.map]

/-- A placeholder that is closed within its name is read as one of a shorter name. -/
theorem exists_substitute_error (hkey : closeMark <:+: key.toList) :
    ∃ name, name ≠ key ∧ substitute (placeholderText key) (.ofList []) =
      .error (.unresolvedVariable name (placeholderText key)) := by
  have hmark : (Text.cut? closeMark (key.toList ++ closeMark)).isSome := by
    rw [Option.isSome_iff_ne_none, Ne, Text.cut?_eq_none_iff, not_not]
    exact (List.suffix_append _ _).isInfix
  obtain ⟨⟨name, after⟩, hcut⟩ := Option.isSome_iff_exists.1 hmark
  refine ⟨String.ofList name, ?_, ?_⟩
  · rintro rfl
    rw [String.toList_ofList] at hkey
    exact (cut?_closeMark.1 hcut).2 hkey
  · have hnone : StringMap.lookup (.ofList []) name = none := rfl
    rw [substitute, parse_placeholderText hcut, expand, hnone]

/-! ### Spelling a symbol out -/

/-- A flag with the placeholder that is meant when it binds a symbol to no value. -/
def Flag.spelledOut : Flag → Flag
  | .symbol symbol none => .symbol symbol (some (placeholderText (symbolShortName symbol)))
  | flag => flag

theorem resolve_spelledOut (hsymbol : ¬ closeMark <:+: (symbolShortName symbol).toList)
    (bindings : StringMap) :
    (Flag.symbol symbol none).spelledOut.resolve bindings =
      match bindings.get? (symbolShortName symbol) with
      | some value => .ok (symbolFlag symbol value)
      | none => .error (.unresolvedVariable (symbolShortName symbol)
          (placeholderText (symbolShortName symbol))) := by
  rw [Flag.spelledOut, Flag.resolve, substitute_placeholderText hsymbol]
  cases bindings.get? (symbolShortName symbol) <;> rfl

/-- **A symbol without a value is a placeholder for its short name, if and only if that name does
not close one.** Then both are the same flag, with the same quotes, wherever the name is bound, and
where it is not, both name it as the variable that has no value. -/
theorem resolve_shorthand_iff (symbol : String) :
    ¬ closeMark <:+: (symbolShortName symbol).toList ↔
      ∀ bindings : StringMap,
        let key := symbolShortName symbol
        let short := (Flag.symbol symbol none).resolve bindings
        let long := (Flag.symbol symbol (some ("%(" ++ key ++ ")s"))).resolve bindings
        match bindings.get? key with
        | some value => short = .ok (symbolFlag symbol value) ∧ long = .ok (symbolFlag symbol value)
        | none => short = .error (.unresolvedVariable key ("-X " ++ symbol)) ∧
            long = .error (.unresolvedVariable key ("%(" ++ key ++ ")s")) := by
  constructor
  · intro hsymbol bindings
    have hlong := resolve_spelledOut hsymbol bindings
    rw [Flag.spelledOut, placeholderText] at hlong
    intro key short long
    have hshort : short = match bindings.get? key with
        | some value => .ok (symbolFlag symbol value)
        | none => .error (.unresolvedVariable key ("-X " ++ symbol)) := rfl
    cases hkey : bindings.get? key with
    | none =>
      rw [hkey] at hshort hlong
      exact ⟨hshort, hlong⟩
    | some value =>
      rw [hkey] at hshort hlong
      exact ⟨hshort, hlong⟩
  · intro h hsymbol
    obtain ⟨name, hname, herror⟩ := exists_substitute_error hsymbol
    -- Nothing is bound, so both flags fail, and the longer one by the name it was cut to.
    have hlong := (h (.ofList [])).2
    rw [Flag.resolve, ← placeholderText, herror] at hlong
    cases hlong
    exact hname rfl

end Formulary
