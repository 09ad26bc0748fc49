import Formulary.Proofs.Text.Boundaries
import Formulary.Smoke.Run

/-!
# Snippets of outputs

What is kept of an output with a failure. A long output is cut at the last place between characters
within its first 512 bytes, which is found after at most three steps backwards, so the bytes before
it are the text of the output's first characters: `snippet_longest`.
-/

namespace Formulary.Smoke

variable {output : String}

theorem snippet?_of_short (h : (Text.encode output).length ≤ snippetLimit) :
    snippet? output = some output := if_pos h

/-- Where the search for the end of a long output's snippet stops. -/
structure Stop (output : String) (back : Nat) : Prop where
  near : back ≤ 3
  found : Text.boundaryFrom? (Text.encode output) snippetLimit = some (snippetLimit - back)
  boundary : Text.isBoundary (Text.encode output) (snippetLimit - back) = true
  passed : ∀ i < back, Text.isBoundary (Text.encode output) (snippetLimit - i) = false

/-- The search stops after at most three steps. -/
theorem exists_stop (h : snippetLimit < (Text.encode output).length) :
    ∃ back, Stop output back := by
  obtain ⟨stop, hfound⟩ := Text.exists_boundaryFrom (Text.encode output) snippetLimit
  obtain ⟨hle, hboundary, hnone⟩ := Text.boundaryFrom?_eq_some_iff.1 hfound
  obtain ⟨back, hback, -, hnear⟩ := Text.exists_boundary (Text.encode_eq_flatMap output ▸ h.le)
  rw [← Text.encode_eq_flatMap] at hnear
  have hstop : snippetLimit - 3 ≤ stop := by
    by_contra hlt
    rw [hnone _ (by omega) (by omega)] at hnear
    cases hnear
  have hback' : snippetLimit - (snippetLimit - stop) = stop := by omega
  refine ⟨snippetLimit - stop, by omega, by rw [hback', hfound], by rw [hback', hboundary], ?_⟩
  exact fun i hi => hnone _ (by omega) (by omega)

/-- No start of the output in whole characters ends between the stop and the limit. -/
theorem Stop.length_le {back : Nat} {start : List Char} (h : Stop output back)
    (hstart : start <+: output.toList)
    (hfits : (Text.encode (.ofList start)).length ≤ snippetLimit) :
    (Text.encode (.ofList start)).length ≤ snippetLimit - back := by
  have hboundary : Text.isBoundary (Text.encode output)
      (Text.encode (.ofList start)).length = true := by
    rw [Text.encode_eq_flatMap, Text.isBoundary_iff]
    exact ⟨start, hstart, by rw [Text.encode_ofList]⟩
  by_contra hlonger
  have hpassed := h.passed (snippetLimit - (Text.encode (.ofList start)).length) (by omega)
  rw [Nat.sub_sub_self hfits, hboundary] at hpassed
  cases hpassed

/-- A long output is cut behind some of its first characters. -/
theorem snippet?_of_long (h : snippetLimit < (Text.encode output).length) :
    ∃ back start, Stop output back ∧ start <+: output.toList ∧
      (Text.encode (.ofList start)).length = snippetLimit - back ∧
      snippet? output = some (.ofList start) := by
  obtain ⟨back, hstop⟩ := exists_stop h
  have hboundary := hstop.boundary
  rw [Text.encode_eq_flatMap, Text.isBoundary_iff] at hboundary
  obtain ⟨start, hstart, hlength⟩ := hboundary
  rw [← Text.encode_ofList] at hlength
  refine ⟨back, start, hstop, hstart, hlength, ?_⟩
  have htake : (Text.encode output).take (snippetLimit - back) = Text.encode (.ofList start) := by
    obtain ⟨rest, hrest⟩ := hstart
    rw [Text.encode_eq_flatMap output, ← hrest, List.flatMap_append, ← Text.encode_ofList,
      ← hlength, List.take_left]
  simp only [snippet?, if_neg h.not_ge, hstop.found, Option.bind_eq_bind, Option.bind_some, htake,
    Text.decode?_encode]

/-- **A snippet is the longest start of an output in whole characters that has at most 512 bytes.**
A short output is its own snippet. For a longer one the search backwards from the limit passes at
most three places inside a character, so the snippet lacks at most three bytes, and no start of the
output that fits has more bytes. -/
theorem snippet_longest (output : String) :
    snippet? output = some (snippet output) ∧ (snippet output).toList <+: output.toList ∧
    (Text.encode (snippet output)).length ≤ 512 ∧
    ((Text.encode output).length ≤ 512 → snippet output = output) ∧
    (512 < (Text.encode output).length →
      509 ≤ (Text.encode (snippet output)).length ∧
      (∀ start, start <+: output.toList → (Text.encode (.ofList start)).length ≤ 512 →
        (Text.encode (.ofList start)).length ≤ (Text.encode (snippet output)).length) ∧
      ∃ back ≤ 3,
        (∀ i < back, Text.isBoundary (Text.encode output) (512 - i) = false) ∧
        Text.boundaryFrom? (Text.encode output) 512 = some (512 - back) ∧
        (Text.encode (snippet output)).length = 512 - back) := by
  rcases Nat.lt_or_ge snippetLimit (Text.encode output).length with hlong | hshort
  · obtain ⟨back, start, hstop, hstart, hlength, hsnippet⟩ := snippet?_of_long hlong
    have hnear := hstop.near
    have heq : snippet output = .ofList start := by rw [snippet, hsnippet, Option.getD_some]
    rw [heq, String.toList_ofList]
    refine ⟨hsnippet, hstart, hlength ▸ Nat.sub_le _ _, fun h => absurd h hlong.not_ge, fun _ => ?_⟩
    refine ⟨?_, ?_, back, hnear, hstop.passed, hstop.found, hlength⟩
    · rw [hlength, snippetLimit]
      omega
    · rw [hlength]
      exact fun other hother hfits => hstop.length_le hother hfits
  · have hsnippet : snippet output = output := by
      rw [snippet, snippet?_of_short hshort, Option.getD_some]
    rw [hsnippet]
    exact ⟨snippet?_of_short hshort, List.prefix_refl _, hshort, fun _ => rfl,
      fun h => absurd h hshort.not_gt⟩

end Formulary.Smoke
