import Formulary.Fetch.Source
import Formulary.Proofs.Digest.Streams
import Formulary.Proofs.Effects
import Formulary.Proofs.Paths
import Formulary.Proofs.Results

/-!
# What a verification knows

A file against which nothing is found to be wrong has the digest of the checksum, and a pinned
checksum is one that was declared, apart from the case of its digits.
-/

namespace Formulary

/-! ### Digits -/

namespace Digest

theorem toNat_of_isHexDigit {c : Char} (h : isHexDigit c = true) : c.toNat < 128 := by
  simp only [isHexDigit, Bool.or_eq_true, Bool.and_eq_true, decide_eq_true_eq] at h
  rcases h with (h | h) | h
  all_goals exact Nat.lt_of_le_of_lt (UInt32.le_iff_toNat_le.1 h.2) (by decide)

theorem isHexDigit_toLower {c : Char} (h : isHexDigit c = true) : isHexDigit c.toLower = true := by
  have hall : ∀ n < 128, isHexDigit (Char.ofNat n) = true →
      isHexDigit (Char.ofNat n).toLower = true := by decide
  have hc := hall c.toNat (toNat_of_isHexDigit h)
  rw [Char.ofNat_toNat] at hc
  exact hc h

theorem isHexDigit_of_mem_digest {algorithm : Algorithm} {bytes : Bytes} {c : Char}
    (h : c ∈ (digest algorithm bytes).toList) : isHexDigit c = true := by
  have hall : "0123456789abcdef".toList.all isHexDigit = true := by decide
  exact List.all_eq_true.1 hall c (mem_digits_of_mem_digest h)

end Digest

/-! ### Checksums -/

namespace Checksum

/-- The checksum that a formula declares, read without a look at the case of its digits. -/
def Declares (raw : String) (algorithm : Digest.Algorithm) (digits : List Char) : Prop :=
  declared? (Text.trimChars raw.toList) = some (algorithm, digits) ∧
    isDigest algorithm digits = true

/-- A pinned checksum was declared, apart from the case of its digits. -/
theorem parse_eq_pinned {raw value : String} {algorithm : Digest.Algorithm}
    (h : parse raw = .pinned algorithm value) :
    ∃ digits, Declares raw algorithm digits ∧ value = (String.ofList digits).toLower := by
  unfold parse at h
  dsimp only at h
  split at h
  · next algorithm' digits hdeclared =>
    split at h
    · next hdigest =>
      cases h
      exact ⟨digits, ⟨hdeclared, hdigest⟩, rfl⟩
    · cases h
  · cases h

theorem parse_of_declares {raw : String} {algorithm : Digest.Algorithm} {digits : List Char}
    (h : Declares raw algorithm digits) :
    parse raw = .pinned algorithm (String.ofList digits).toLower := by
  unfold parse
  dsimp only
  rw [h.1]
  dsimp only
  rw [if_pos h.2]

theorem isHexDigit_of_declares {raw : String} {algorithm : Digest.Algorithm} {digits : List Char}
    (h : Declares raw algorithm digits) {c : Char}
    (hc : c ∈ (String.ofList digits).toLower.toList) : Digest.isHexDigit c = true := by
  change c ∈ ((String.ofList digits).map Char.toLower).toList at hc
  rw [String.toList_map, String.toList_ofList] at hc
  obtain ⟨d, hd, rfl⟩ := List.mem_map.1 hc
  have hdigits := h.2
  unfold isDigest at hdigits
  rw [Bool.and_eq_true, List.all_eq_true] at hdigits
  exact Digest.isHexDigit_toLower (hdigits.2 d hd)

theorem noSlash_of_declares {raw : String} {algorithm : Digest.Algorithm} {digits : List Char}
    (h : Declares raw algorithm digits) : '/' ∉ (String.ofList digits).toLower.toList :=
  fun hslash => absurd (isHexDigit_of_declares h hslash) (by decide)

end Checksum

/-! ### Names in the cache -/

namespace Fetch

theorem length_name (algorithm : Digest.Algorithm) : algorithm.name.length = 6 := by
  cases algorithm <;> rfl

variable {a : Archive} {algorithm : Digest.Algorithm} {value : String}

theorem cacheName_eq (h : a.checksum = .pinned algorithm value) :
    cacheName a = algorithm.name ++ "_" ++ value := by
  simp [cacheName, h, Checksum.cacheKey?]

theorem properName_of_cacheName (h : a.checksum = .pinned algorithm value)
    (hvalue : '/' ∉ value.toList) (ending : String) (hending : '/' ∉ ending.toList) :
    ProperName (cacheName a ++ ending) := by
  have hname : '/' ∉ algorithm.name.toList := by
    cases algorithm <;> decide
  refine .of_length (by simp [cacheName_eq h, hname, hvalue, hending]) ?_
  rw [cacheName_eq h, String.length_append, String.length_append, String.length_append,
    length_name]
  omega

theorem pending_ne (a : Archive) : cacheName a ++ ".tmp" ≠ cacheName a := by
  intro hsame
  simpa using congrArg String.length hsame

/-! ### Verification -/

theorem readings_of_ne (node : Node) (h : node ≠ .directory) :
    readings node = (Digest.chunks node.contents).map .ok := by
  cases node <;> first | rfl | exact absurd rfl h

/-- A file of a world has a digest: reading it gives only bytes of it. -/
def HasDigest (w : World) (p : Path) (algorithm : Digest.Algorithm) (value : String) : Prop :=
  ∃ l node, w.files.find w.here p = .ok (l, node) ∧ node ≠ .directory ∧
    Digest.digest algorithm node.contents = value

theorem outcome_mismatch_world (p : Path) (checksum : Checksum) (w : World) :
    (outcome (mismatch? p checksum) w).2 = w := by
  cases checksum <;> rfl

/-- A file with which nothing is wrong has the pinned digest. -/
theorem hasDigest_of_mismatch {p : Path} {w : World}
    (h : (outcome (mismatch? p (.pinned algorithm value)) w).1 = .ok none) :
    HasDigest w p algorithm value := by
  have hdigest : ((outcome (digestFile algorithm p) w).1).map
      (fun actual => if actual = value then none else some actual) = .ok none := h
  obtain ⟨actual, hactual, hsame⟩ := map_eq_ok.1 hdigest
  obtain ⟨⟨l, node⟩, hfind, hread⟩ := bind_eq_ok.1 hactual
  rcases eq_or_ne node .directory with rfl | hne
  · cases hread
  · dsimp only at hread
    rw [readings_of_ne node hne, Digest.digestReadings_chunks] at hread
    cases hread
    refine ⟨l, node, hfind, hne, ?_⟩
    split at hsame
    · assumption
    · cases hsame

end Fetch

end Formulary
