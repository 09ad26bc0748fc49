import Formulary.Proofs.Fetch.Digests

/-!
# Names in the cache

The names that archives with declared checksums have in the cache are names of files in a directory
(`properName_cacheName`). A pinned name tells its checksum (`checksum_of_cacheName`), and it is no
name that a download has before it is verified (`pinnedName_ne_pending`).
-/

namespace Formulary.Fetch

variable {algorithm : Digest.Algorithm} {value url declared : String}

def pinnedName (algorithm : Digest.Algorithm) (value : String) : String :=
  algorithm.name ++ "_" ++ value

/-- An archive with a declared checksum. -/
abbrev declaring (url declared : String) : Archive := ⟨url, .parse declared⟩

theorem noDot_pinnedName (h : Checksum.parse declared = .pinned algorithm value) :
    '.' ∉ (pinnedName algorithm value).toList := by
  obtain ⟨digits, hdeclares, rfl⟩ := Checksum.parse_eq_pinned h
  have hvalue : '.' ∉ (String.ofList digits).toLower.toList := fun hdot =>
    absurd (Checksum.isHexDigit_of_declares hdeclares hdot) (by decide)
  have hname : '.' ∉ algorithm.name.toList := by
    cases algorithm <;> decide
  simp [pinnedName, hname, hvalue]

theorem cacheName_of_placeholder {a : Archive} {raw : String} (h : a.checksum = .placeholder raw) :
    cacheName a =
      "unverified_" ++ String.ofList ((Digest.sha256 (Text.encode a.url)).toList.take 16) := by
  simp [cacheName, h, Checksum.cacheKey?]

theorem properName_cacheName (url declared ending : String)
    (hending : '/' ∉ ending.toList) : ProperName (cacheName (declaring url declared) ++ ending) := by
  cases h : Checksum.parse declared with
  | pinned algorithm value =>
    obtain ⟨digits, hdeclares, rfl⟩ := Checksum.parse_eq_pinned h
    exact properName_of_cacheName (a := declaring url declared) h
      (Checksum.noSlash_of_declares hdeclares) ending hending
  | placeholder raw =>
    rw [cacheName_of_placeholder (a := declaring url declared) h]
    have hdigits : '/' ∉ (Digest.sha256 (Text.encode url)).toList.take 16 := fun hslash =>
      absurd (Digest.isHexDigit_of_mem_digest (List.mem_of_mem_take hslash)) (by decide)
    refine .of_length (by simp [hdigits, hending]) ?_
    have : "unverified_".length = 11 := by decide
    rw [String.length_append, String.length_append]
    omega

theorem properName_cached (url declared : String) :
    ProperName (cacheName (declaring url declared)) := by
  have hname := properName_cacheName url declared "" (by simp)
  rwa [String.append_empty] at hname

theorem properName_pending (url declared : String) :
    ProperName (cacheName (declaring url declared) ++ ".tmp") :=
  properName_cacheName url declared ".tmp" (by decide)

theorem properName_pinnedName (h : Checksum.parse declared = .pinned algorithm value) :
    ProperName (pinnedName algorithm value) := by
  have hname := properName_cached "" declared
  rwa [cacheName_eq (a := declaring "" declared) h] at hname

/-- A pinned name tells the algorithm and the digest. -/
theorem pinnedName_inj {algorithm' : Digest.Algorithm} {value' : String} :
    pinnedName algorithm value = pinnedName algorithm' value' ↔
      algorithm = algorithm' ∧ value = value' := by
  refine ⟨fun h => ?_, fun ⟨hname, hvalue⟩ => hname ▸ hvalue ▸ rfl⟩
  have hlist := congrArg String.toList h
  simp only [pinnedName, String.toList_append, List.append_assoc] at hlist
  obtain ⟨hname, hrest⟩ := List.append_inj hlist (by
    rw [String.length_toList, String.length_toList, length_name, length_name])
  obtain rfl : algorithm = algorithm' := by
    cases algorithm <;> cases algorithm' <;> first | rfl | exact absurd hname (by decide)
  exact ⟨rfl, String.toList_inj.1 (List.append_cancel_left hrest)⟩

theorem checksum_of_cacheName {a : Archive} (h : cacheName a = pinnedName algorithm value) :
    a.checksum = .pinned algorithm value := by
  cases ha : a.checksum with
  | pinned algorithm' value' =>
    rw [cacheName_eq ha] at h
    obtain ⟨rfl, rfl⟩ := pinnedName_inj.1 h
    rfl
  | placeholder raw =>
    have hlist := congrArg String.toList h
    rw [cacheName_of_placeholder ha, pinnedName] at hlist
    cases algorithm <;> simp [Digest.Algorithm.name] at hlist

theorem pinnedName_ne_pending (h : Checksum.parse declared = .pinned algorithm value)
    (a : Archive) : pinnedName algorithm value ≠ cacheName a ++ ".tmp" := by
  intro hsame
  refine noDot_pinnedName h ?_
  rw [hsame]
  simp

end Formulary.Fetch
