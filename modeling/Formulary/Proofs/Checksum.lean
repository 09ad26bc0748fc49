import Formulary.Proofs.Fetch.Names
import Formulary.Proofs.Text.Marks
import Formulary.Proofs.Text.Trimming
import Mathlib.Data.List.Infix
import Mathlib.Tactic.ByContra

/-!
# One form for each checksum

A text declares a digest (`Spells`) if, between blanks, it is as many hexadecimal digits as an
algorithm has, after the algorithm's name and a colon or, for SHA-256, alone; letters may be of
either case. Just these texts pin an archive (`parse_eq_pinned_iff`). The form a checksum is shown
in declares the same checksum again, and pinned checksums have the same name in the cache just if
they are of the same digest: `canonical_form`.
-/

namespace Formulary

/-! ### Letters of either case -/

namespace Text

/-- Two texts are the same but for the case of their letters. -/
def SameLetters (s t : List Char) : Prop := s.map Char.toLower = t.map Char.toLower

instance (s t : List Char) : Decidable (SameLetters s t) :=
  inferInstanceAs (Decidable (s.map Char.toLower = t.map Char.toLower))

theorem toList_toLower (s : String) : s.toLower.toList = s.toList.map Char.toLower :=
  String.toList_map ..

theorem toLower_toLower (c : Char) : c.toLower.toLower = c.toLower := by
  unfold Char.toLower
  split
  · next hupper =>
    rw [dif_neg]
    simp [UInt32.le_iff_toNat_le] at hupper ⊢
    omega
  · rfl

theorem sameLetters_map_toLower (s : List Char) : SameLetters (s.map Char.toLower) s := by
  rw [SameLetters, List.map_map]
  exact List.map_congr_left fun c _ => toLower_toLower c

theorem toLower_of_isBlank {c : Char} (h : isBlank c = true) : c.toLower = c := by
  refine dif_neg fun hupper => ?_
  have hbound : 65 ≤ c.toNat ∧ c.toNat ≤ 90 := by
    simpa [UInt32.le_iff_toNat_le] using hupper
  simp only [isBlank, Bool.or_eq_true, Bool.and_eq_true, decide_eq_true_eq, beq_iff_eq] at h
  omega

end Text

namespace Digest

theorem not_isBlank_of_isHexDigit {c : Char} (h : isHexDigit c = true) :
    Text.isBlank c = false := by
  have hall : ∀ n < 128, isHexDigit (Char.ofNat n) = true →
      Text.isBlank (Char.ofNat n) = false := by decide
  have hc := hall c.toNat (toNat_of_isHexDigit h)
  rw [Char.ofNat_toNat] at hc
  exact hc h

namespace Algorithm

def names : Algorithm → List String
  | .sha256 => ["sha256", "sha-256"]
  | .sha512 => ["sha512", "sha-512"]

variable {algorithm : Algorithm} {name : String}

theorem of_mem_names (h : name ∈ algorithm.names) :
    ∀ c ∈ name.toList, c.toLower = c ∧ Text.isBlank c = false ∧ c ≠ ':' := by
  have hall : ∀ name ∈ names .sha256 ++ names .sha512,
      (name.toList.all fun c => c.toLower == c && !Text.isBlank c && c != ':') = true := by decide
  have hmem : name ∈ names .sha256 ++ names .sha512 := by
    cases algorithm with
    | sha256 => exact List.mem_append_left _ h
    | sha512 => exact List.mem_append_right _ h
  intro c hc
  simpa [and_assoc] using List.all_eq_true.1 (hall name hmem) c hc

theorem toLower_eq_iff {text : String} (h : name ∈ algorithm.names) :
    text.toLower = name ↔ Text.SameLetters text.toList name.toList := by
  have hname : name.toList.map Char.toLower = name.toList :=
    (List.map_congr_left fun c hc => (of_mem_names h c hc).1).trans (List.map_id _)
  rw [← String.toList_inj, Text.toList_toLower, Text.SameLetters, hname]

theorem ofName?_eq_some_iff {text : String} :
    ofName? text = some algorithm ↔
      ∃ name ∈ algorithm.names, Text.SameLetters text.toList name.toList := by
  have hnames : (∃ name ∈ algorithm.names, Text.SameLetters text.toList name.toList) ↔
      text.toLower ∈ algorithm.names := by
    constructor
    · rintro ⟨name, hname, hsame⟩
      rwa [(toLower_eq_iff hname).2 hsame]
    · intro h
      exact ⟨_, h, (toLower_eq_iff h).1 rfl⟩
  rw [hnames, ofName?]
  cases algorithm <;> grind [names]

/-- What names an algorithm in letters of either case holds neither a blank nor a colon. -/
theorem of_sameLetters {written : List Char} (h : name ∈ algorithm.names)
    (hsame : Text.SameLetters written name.toList) :
    ∀ c ∈ written, Text.isBlank c = false ∧ c ≠ ':' := by
  intro c hc
  have hlower : c.toLower ∈ name.toList.map Char.toLower := hsame ▸ List.mem_map_of_mem hc
  obtain ⟨d, hd, hcd⟩ := List.mem_map.1 hlower
  obtain ⟨hd', hblank, hcolon⟩ := of_mem_names h d hd
  rw [hd'] at hcd
  constructor
  · -- a blank would be its own lower case, and a name has none
    by_contra hc'
    have hc' : Text.isBlank c = true := by simpa using hc'
    rw [Text.toLower_of_isBlank hc'] at hcd
    rw [hcd, hc'] at hblank
    cases hblank
  · rintro rfl
    exact hcolon hcd

end Algorithm

end Digest

namespace Checksum

/-! ### Texts that declare a digest -/

/-- A written digest: its digits after a name of the algorithm and a colon, or the digits of a
SHA-256 digest alone. -/
inductive Written : Digest.Algorithm → List Char → List Char → Prop where
  | bare (digits : List Char) : Written .sha256 digits digits
  | named {algorithm : Digest.Algorithm} {name : String} {written : List Char} (digits : List Char)
      (hname : name ∈ algorithm.names) (hwritten : Text.SameLetters written name.toList) :
      Written algorithm digits (written ++ ':' :: digits)

/-- A text declares a digest: between blanks stand the digits that the algorithm has, alone or after
its name. -/
structure Spells (raw : String) (algorithm : Digest.Algorithm) (digits : List Char) : Prop where
  written : ∃ front text back, raw.toList = front ++ text ++ back ∧
    (∀ c ∈ front, Text.isBlank c = true) ∧ (∀ c ∈ back, Text.isBlank c = true) ∧
    Written algorithm digits text
  length : digits.length = algorithm.hexLength
  hex : ∀ c ∈ digits, Digest.isHexDigit c = true

variable {raw raw' value : String} {algorithm algorithm' : Digest.Algorithm}
  {digits digits' text : List Char}

theorem isDigest_iff :
    isDigest algorithm digits = true ↔
      digits.length = algorithm.hexLength ∧ ∀ c ∈ digits, Digest.isHexDigit c = true := by
  rw [isDigest, Bool.and_eq_true, beq_iff_eq, List.all_eq_true]

theorem cut?_colon_eq_none (h : ':' ∉ text) : Text.cut? [':'] text = none := by
  rw [Text.cut?_eq_none_iff, List.singleton_infix_iff]
  exact h

theorem cut?_colon (h : ':' ∉ text) (rest : List Char) :
    Text.cut? [':'] (text ++ ':' :: rest) = some (text, rest) := by
  refine (Text.cut?_eq_some_iff List.not_mem_nil).2 ⟨by simp, ?_⟩
  rwa [List.singleton_infix_iff]

/-- A written digest is found: the first colon, if there is any, stands behind the name. -/
theorem Written.declared? (h : Written algorithm digits text)
    (hhex : ∀ c ∈ digits, Digest.isHexDigit c = true) :
    declared? text = some (algorithm, digits) := by
  cases h with
  | bare =>
    have hcolon : ':' ∉ digits := fun hc => absurd (hhex _ hc) (by decide)
    rw [Checksum.declared?, cut?_colon_eq_none hcolon]
  | named _ hname hwritten =>
    have hcolon := fun hc => (Digest.Algorithm.of_sameLetters hname hwritten _ hc).2 rfl
    have hof : Digest.Algorithm.ofName? (String.ofList _) = some algorithm :=
      Digest.Algorithm.ofName?_eq_some_iff.2 ⟨_, hname, by rwa [String.toList_ofList]⟩
    rw [Checksum.declared?, cut?_colon hcolon]
    dsimp only
    rw [hof]
    rfl

theorem written_of_declared (h : declared? text = some (algorithm, digits)) :
    Written algorithm digits text := by
  unfold declared? at h
  split at h
  · next name rest hcut =>
    obtain ⟨found, hfound, hsame⟩ := Option.map_eq_some_iff.1 h
    cases hsame
    obtain ⟨spelling, hspelling, hletters⟩ := Digest.Algorithm.ofName?_eq_some_iff.1 hfound
    rw [String.toList_ofList] at hletters
    have hsplit := Text.cut?_eq_some hcut
    rw [List.append_assoc, List.singleton_append] at hsplit
    rw [hsplit]
    exact .named _ hspelling hletters
  · cases h
    exact .bare _

theorem Written.not_isBlank (h : Written algorithm digits text)
    (hhex : ∀ c ∈ digits, Digest.isHexDigit c = true) :
    ∀ c ∈ text, Text.isBlank c = false := by
  have hdigits : ∀ c ∈ digits, Text.isBlank c = false := fun c hc =>
    Digest.not_isBlank_of_isHexDigit (hhex c hc)
  cases h with
  | bare => exact hdigits
  | named _ hname hwritten =>
    refine List.forall_mem_append.2 ⟨fun c hc => ?_, List.forall_mem_cons.2 ⟨by decide, hdigits⟩⟩
    exact (Digest.Algorithm.of_sameLetters hname hwritten c hc).1

theorem declares_iff_spells : Declares raw algorithm digits ↔ Spells raw algorithm digits := by
  constructor
  · rintro ⟨hdeclared, hdigest⟩
    obtain ⟨-, front, back, hsplit, hfront, hback⟩ :=
      Text.trimChars_eq_iff.1 (rfl : Text.trimChars raw.toList = Text.trimChars raw.toList)
    obtain ⟨hlength, hhex⟩ := isDigest_iff.1 hdigest
    exact ⟨⟨front, _, back, hsplit, hfront, hback, written_of_declared hdeclared⟩, hlength, hhex⟩
  · rintro ⟨⟨front, text, back, hsplit, hfront, hback, hwritten⟩, hlength, hhex⟩
    have htrim : Text.trimChars raw.toList = text :=
      Text.trimChars_eq_iff.2 ⟨.of_forall (hwritten.not_isBlank hhex), front, back, hsplit, hfront,
        hback⟩
    exact ⟨htrim ▸ hwritten.declared? hhex, isDigest_iff.2 ⟨hlength, hhex⟩⟩

/-! ### Pinned checksums -/

theorem parse_of_spells (h : Spells raw algorithm digits) :
    parse raw = .pinned algorithm (String.ofList (digits.map Char.toLower)) := by
  rw [parse_of_declares (declares_iff_spells.2 h)]
  congr 1
  rw [← String.toList_inj, Text.toList_toLower, String.toList_ofList, String.toList_ofList]

/-- A checksum is pinned to a digest just if the text declares it; its digits are kept in lower
case. -/
theorem parse_eq_pinned_iff :
    parse raw = .pinned algorithm value ↔
      ∃ digits, Spells raw algorithm digits ∧ value = String.ofList (digits.map Char.toLower) := by
  constructor
  · intro h
    obtain ⟨digits, hdeclares, -⟩ := parse_eq_pinned h
    have hspells := declares_iff_spells.1 hdeclares
    rw [parse_of_spells hspells] at h
    cases h
    exact ⟨digits, hspells, rfl⟩
  · rintro ⟨digits, hspells, rfl⟩
    exact parse_of_spells hspells

theorem isPinned_iff :
    (parse raw).isPinned = true ↔ ∃ algorithm digits, Spells raw algorithm digits := by
  constructor
  · intro h
    cases hparse : parse raw with
    | pinned algorithm value =>
      obtain ⟨digits, hspells, -⟩ := parse_eq_pinned_iff.1 hparse
      exact ⟨algorithm, digits, hspells⟩
    | placeholder text =>
      rw [hparse] at h
      cases h
  · rintro ⟨algorithm, digits, hspells⟩
    rw [parse_of_spells hspells]
    rfl

theorem spells_display (h : Spells raw algorithm digits) :
    Spells (parse raw).display algorithm (digits.map Char.toLower) := by
  have hname : algorithm.name ∈ algorithm.names := by
    cases algorithm <;> decide
  refine ⟨⟨[], _, [], ?_, by simp, by simp, .named _ hname rfl⟩, ?_, ?_⟩
  · rw [parse_of_spells h]
    simp [display]
  · rw [List.length_map, h.length]
  · intro c hc
    obtain ⟨d, hd, rfl⟩ := List.mem_map.1 hc
    exact Digest.isHexDigit_toLower (h.hex d hd)

theorem parse_of_placeholder (h : parse raw = .placeholder value) :
    value = String.ofList (Text.trimChars raw.toList) := by
  unfold parse at h
  dsimp only at h
  split at h
  · split at h
    · cases h
    · cases h
      rfl
  · cases h
    rfl

theorem parse_trim (raw : String) :
    parse (String.ofList (Text.trimChars raw.toList)) = parse raw := by
  simp only [parse, String.toList_ofList, Text.trimChars_trimChars]

/-- The form a checksum is shown in stands for the same checksum. -/
theorem parse_display (raw : String) : parse (parse raw).display = parse raw := by
  cases hparse : parse raw with
  | pinned algorithm value =>
    obtain ⟨digits, hspells, rfl⟩ := parse_eq_pinned_iff.1 hparse
    have hagain := parse_of_spells (spells_display hspells)
    rw [hparse] at hagain
    rw [hagain, Text.sameLetters_map_toLower]
  | placeholder text =>
    rw [display, parse_of_placeholder hparse, parse_trim, hparse, parse_of_placeholder hparse]

/-- Checksums are kept under the same name just if they are of the same digest. -/
theorem cacheKey_eq_iff (h : Spells raw algorithm digits) (h' : Spells raw' algorithm' digits') :
    (parse raw).cacheKey? = (parse raw').cacheKey? ↔
      algorithm = algorithm' ∧ Text.SameLetters digits digits' := by
  rw [parse_of_spells h, parse_of_spells h']
  change some (Fetch.pinnedName _ _) = some (Fetch.pinnedName _ _) ↔ _
  rw [Option.some_inj, Fetch.pinnedName_inj, String.ofList_inj, Text.SameLetters]

/-- **A checksum has one form.** It is pinned just if its text declares a digest, and then it is
that digest with its letters in lower case. The form in which it is shown stands for the same
checksum. Pinned checksums have the same name in the cache just if they are of the same algorithm
and of the same digest but for the case of its letters, and a placeholder has none. -/
theorem canonical_form (raw : String) :
    ((parse raw).isPinned = true ↔ ∃ algorithm digits, Spells raw algorithm digits) ∧
    (∀ algorithm value, parse raw = .pinned algorithm value ↔
      ∃ digits, Spells raw algorithm digits ∧ value = String.ofList (digits.map Char.toLower)) ∧
    parse (parse raw).display = parse raw ∧
    (∀ raw' algorithm algorithm' digits digits',
      Spells raw algorithm digits → Spells raw' algorithm' digits' →
        ((parse raw).cacheKey? = (parse raw').cacheKey? ↔
          algorithm = algorithm' ∧ Text.SameLetters digits digits')) ∧
    (parse raw).cacheKey?.isSome = (parse raw).isPinned := by
  refine ⟨isPinned_iff, fun _ _ => parse_eq_pinned_iff, parse_display raw,
    fun _ _ _ _ _ h h' => cacheKey_eq_iff h h', ?_⟩
  cases parse raw <;> rfl

/-- A digest in capitals, after its algorithm's other name and between blanks. -/
def capitals : String :=
  " SHA-256:DFFD6021BB2BD5B0AF676290809EC3A53191DD81C7F70A4B28688A362182986F\n"

def smalls : String := "dffd6021bb2bd5b0af676290809ec3a53191dd81c7f70a4b28688a362182986f"

/-- Both texts declare the digest, so they have the same name in the cache. -/
theorem canonical_form_capitals :
    Spells capitals .sha256 (smalls.toList.map Char.toUpper) ∧ Spells smalls .sha256 smalls.toList ∧
    (parse capitals).cacheKey? = (parse smalls).cacheKey? := by
  have hname : "sha-256" ∈ Digest.Algorithm.names .sha256 := by decide
  have hwritten : Written .sha256 (smalls.toList.map Char.toUpper)
      ("SHA-256".toList ++ ':' :: smalls.toList.map Char.toUpper) := .named _ hname (by decide)
  have hcapitals : Spells capitals .sha256 (smalls.toList.map Char.toUpper) :=
    ⟨⟨[' '], _, ['\n'], by decide, by simp [Text.isBlank], by simp [Text.isBlank], hwritten⟩,
      by decide, List.all_eq_true.1 (by decide)⟩
  have hsmalls : Spells smalls .sha256 smalls.toList :=
    ⟨⟨[], _, [], by decide, by simp, by simp, .bare _⟩, by decide,
      List.all_eq_true.1 (by decide)⟩
  obtain ⟨-, -, -, hkeys, -⟩ := canonical_form capitals
  exact ⟨hcapitals, hsmalls, (hkeys _ _ _ _ _ hcapitals hsmalls).2 ⟨rfl, by decide⟩⟩

end Checksum

end Formulary
