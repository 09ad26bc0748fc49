import Formulary.Proofs.Fetch.History
import Formulary.Proofs.Install.Landing
import Formulary.Proofs.Machine.Leads

/-!
# Downloads apart from each other

Archives share a name in the cache just if they share a pinned checksum, or the first digits of
their URL's digest where nothing is pinned (`cacheName_eq_iff`); and no name is that of a file that
is being downloaded. So a download leaves alone what other archives have in the cache, unless the
downloading program is told to write to a path that leads there: `apart_run`.
-/

namespace Formulary.Fetch

/-! ### Names -/

/-- What the name of an archive tells of its URL, where no checksum is pinned. -/
def urlDigits (url : String) : String :=
  String.ofList ((Digest.sha256 (Text.encode url)).toList.take 16)

/-- Two archives are told apart neither by their checksums nor, where these are placeholders, by the
first digits of their URLs' digests. -/
def SameKey (a b : Archive) : Prop :=
  match a.checksum, b.checksum with
  | .pinned algorithm value, .pinned algorithm' value' => algorithm = algorithm' ∧ value = value'
  | .placeholder _, .placeholder _ => urlDigits a.url = urlDigits b.url
  | _, _ => False

/-- The names that a download works with: that of the cached file, and that of the file which is
not verified yet. -/
def workNames (a : Archive) : List String := [cacheName a, cacheName a ++ ".tmp"]

theorem cacheName_eq_iff (a b : Archive) : cacheName a = cacheName b ↔ SameKey a b := by
  unfold SameKey
  cases ha : a.checksum with
  | pinned algorithm value =>
    have hname : cacheName a = pinnedName algorithm value := cacheName_eq ha
    have hb : cacheName a = cacheName b ↔ b.checksum = .pinned algorithm value := by
      rw [hname]
      exact ⟨fun h => checksum_of_cacheName h.symm, fun h => (cacheName_eq h).symm⟩
    rw [hb]
    cases b.checksum <;> simp [eq_comm]
  | placeholder raw =>
    cases hb : b.checksum with
    | pinned algorithm value =>
      have hname : cacheName b = pinnedName algorithm value := cacheName_eq hb
      refine ⟨fun h => ?_, False.elim⟩
      cases ha.symm.trans (checksum_of_cacheName (h.trans hname))
    | placeholder raw' =>
      rw [cacheName_of_placeholder ha, cacheName_of_placeholder hb]
      exact String.append_right_inj "unverified_"

theorem noDot_cacheName (url declared : String) :
    '.' ∉ (cacheName (declaring url declared)).toList := by
  cases h : Checksum.parse declared with
  | pinned algorithm value =>
    rw [cacheName_eq (a := declaring url declared) h]
    exact noDot_pinnedName h
  | placeholder raw =>
    rw [cacheName_of_placeholder (a := declaring url declared) h]
    have hdigits : '.' ∉ (Digest.sha256 (Text.encode url)).toList.take 16 := fun hdot =>
      absurd (Digest.isHexDigit_of_mem_digest (List.mem_of_mem_take hdot)) (by decide)
    simp [hdigits]

theorem cacheName_ne_pending (url declared : String) (b : Archive) :
    cacheName (declaring url declared) ≠ cacheName b ++ ".tmp" := by
  intro hsame
  refine noDot_cacheName url declared ?_
  rw [hsame]
  simp

/-- Archives of different names have nothing in the cache in common. -/
theorem ne_of_workNames {url declared url' declared' : String}
    (h : cacheName (declaring url declared) ≠ cacheName (declaring url' declared'))
    {name name' : String} (hname : name ∈ workNames (declaring url declared))
    (hname' : name' ∈ workNames (declaring url' declared')) : name ≠ name' := by
  simp only [workNames, List.mem_cons, List.not_mem_nil, or_false] at hname hname'
  rcases hname with rfl | rfl <;> rcases hname' with rfl | rfl
  · exact h
  · exact cacheName_ne_pending url declared _
  · exact (cacheName_ne_pending url' declared' _).symm
  · exact fun hsame => h ((String.append_left_inj ".tmp").1 hsame)

theorem properName_of_workNames {url declared name : String}
    (h : name ∈ workNames (declaring url declared)) : ProperName name := by
  simp only [workNames, List.mem_cons, List.not_mem_nil, or_false] at h
  rcases h with rfl | rfl
  · exact properName_cached url declared
  · exact properName_pending url declared

/-! ### What a download leaves alone -/

section Elsewhere

variable {cache : Path} {c : Call} {w : World} {l : Location}

/-- A place of a download, when the directory of the cache has been made. -/
def Call.Works (cache : Path) (c : Call) (w : World) (l : Location) : Prop :=
  ∃ name ∈ workNames c.archive,
    (opened cache w).files.locateHere w.here (cache.join name) = .ok l

/-- The place of a name does not change as long as everything leads on as it did. -/
theorem works_of_passable {v : World} (hv : Files.Passable v.files (opened cache w).files)
    {name : String} (hname : name ∈ workNames c.archive) {t : Location}
    (ht : v.files.locateHere w.here (cache.join name) = .ok t) : c.Works cache w t :=
  ⟨name, hname, Files.locateHere_of_passable (properName_of_workNames hname) hv ht⟩

theorem get?_without {p : Path} {v : World}
    (h : ∀ t, v.files.locateHere v.here p = .ok t → ¬ t <+: l) :
    (without p v).files.get? l = v.files.get? l := by
  rcases without_cases p v with ⟨hsame, -⟩ | ⟨t, ht, hdir, hremoved⟩
  · rw [hsame]
  · have hne : t ≠ [] := by
      rintro rfl
      exact hdir rfl
    rw [hremoved]
    dsimp only
    rw [Files.get?_remove hne, if_neg (h t ht)]

theorem get?_site (hl : ∀ t, c.Works cache w t → ¬ t <+: l) :
    (c.site cache w).files.get? l = (opened cache w).files.get? l := by
  rcases asked_eq cache c.archive w with h | h
  · rw [Call.site, h]
  · rw [Call.site, h]
    refine get?_without fun t ht => hl t ?_
    rw [here_opened] at ht
    exact ⟨cacheName c.archive, by simp [workNames], ht⟩

/-- A download changes nothing that is not at its places or below them, except what the path leads
to that the downloading program is told to write to. -/
theorem get?_run (hc : c.Confined cache) (hl : ∀ t, c.Works cache w t → ¬ t <+: l) :
    (c.run cache w).2.files.get? l = (opened cache w).files.get? l ∨
      (¬ Usable cache c.archive (opened cache w) ∧
        (c.site cache w).files.LeadsTo w.here (pendingPath cache c.archive) l) := by
  have hsite := get?_site hl
  have hwent := went_run cache c w
  generalize c.run cache w = r at hwent
  cases hwent with
  | halted _ hv =>
    rcases hv with rfl | rfl
    · exact .inl rfl
    · exact .inl hsite
  | found => exact .inl rfl
  | afresh husable hr =>
    by_cases hlead : (c.site cache w).files.LeadsTo w.here (pendingPath cache c.archive) l
    · exact .inr ⟨husable, hlead⟩
    have hleft : (c.left cache w).files.get? l = (opened cache w).files.get? l := by
      have hwritten := written_ran hc c.timeout (c.site cache w)
      rw [here_site] at hwritten
      rw [← hsite]
      exact hwritten.elsewhere l hlead
    have hpassable := passable_left hc w
    have hremoved : (without (pendingPath cache c.archive) (c.left cache w)).files.get? l =
        (opened cache w).files.get? l := by
      rw [← hleft]
      refine get?_without fun t ht => hl t ?_
      rw [here_left] at ht
      exact works_of_passable hpassable (by simp [workNames]) ht
    cases hr with
    | failed => exact .inl hremoved
    | rejected _ hv =>
      rcases hv with rfl | rfl
      · exact .inl hleft
      · exact .inl hremoved
    | placed _ _ hrenamed =>
      obtain ⟨x, d, held, h⟩ := renaming_left hrenamed
      have hworks : ∀ name ∈ workNames c.archive,
          Files.Named (c.left cache w).files w.here cache name x d → ¬ d ++ [name] <+: l :=
        fun name hname hnamed => hl _ (works_of_passable hpassable hname
          ((Files.locateHere_join_iff (properName_of_workNames hname)).2 ⟨x, d, hnamed, rfl⟩))
      have hpending := hworks _ (by simp [workNames]) h.old
      have hcached := hworks _ (by simp [workNames]) h.new
      refine .inl ?_
      rw [← hleft]
      rcases h.change with ⟨rfl, -⟩ | ⟨rfl, -⟩
      · rfl
      · dsimp only
        rw [Files.get?_moveTree_sibling (pending_ne _), if_neg hcached, if_neg hpending]

/-- **What another archive has in the cache is left alone**, unless the downloading program is told
to write to a path that leads there. -/
theorem apart_run {c' : Call} (hc : c.Confined cache)
    (hne : cacheName c.archive ≠ cacheName c'.archive) (hl : c'.Works cache w l) :
    LeftAlone l w (c.run cache w).2 ∨
      (¬ Usable cache c.archive (opened cache w) ∧
        (c.site cache w).files.LeadsTo w.here (pendingPath cache c.archive) l) := by
  refine (get?_run hc fun t ht => ?_).imp (fun hsame => ?_) id
  · obtain ⟨name, hname, ht⟩ := ht
    obtain ⟨name', hname', hl⟩ := hl
    have hproper := properName_of_workNames hname
    have hproper' := properName_of_workNames hname'
    obtain ⟨x, d, hnamed, rfl⟩ := (Files.locateHere_join_iff hproper).1 ht
    obtain ⟨x', d', hnamed', rfl⟩ := (Files.locateHere_join_iff hproper').1 hl
    obtain ⟨rfl, rfl⟩ := hnamed.unique hproper hproper' hnamed'
    exact Files.not_prefix_sibling (ne_of_workNames hne hname hname') _
  · intro node hnode
    rw [hsame]
    exact (grown_opened cache w).leftAlone l node hnode

end Elsewhere

end Formulary.Fetch
