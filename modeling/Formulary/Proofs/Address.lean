import Formulary.Proofs.Descriptor
import Formulary.Proofs.Filling
import Formulary.Proofs.Mentions

/-!
# Addresses of archives

The address of an archive is a template for the package's name and version. It is filled in by
replacing, first the version's placeholders and then the name's; substitution fills in both at once.
Whatever substitution gives, replacing gives too. It gives more just if putting the version in opens
a placeholder of the name, which the second replacement then finds: `address_agrees`.
-/

namespace Formulary

open Template

/-! ### Texts and their characters -/

theorem substitute_eq_ok {template u : String} {bindings : StringMap} :
    substitute template bindings = .ok u ↔
      (parse template.toList).expand bindings.lookup = .ok u.toList := by
  unfold substitute
  constructor
  · intro h
    split at h
    · next text htext =>
      cases h
      rw [htext, String.toList_ofList]
    · cases h
  · intro h
    rw [h]
    dsimp only
    rw [String.ofList_toList]

theorem holds_openMark_eq_false {u : String} :
    Text.holds u "%(" = false ↔ ¬ openMark <:+: u.toList := by
  rw [← Bool.not_eq_true, Text.holds_iff]
  rfl

theorem StringMap.lookup_insert (m : StringMap) (key value : String) (k : List Char) :
    (m.insert key value).lookup k = if k = key.toList then some value.toList else m.lookup k := by
  unfold lookup
  rw [get?_insert]
  by_cases hk : k = key.toList
  · rw [if_pos hk, if_pos (by rw [hk, String.ofList_toList])]
    rfl
  · rw [if_neg hk, if_neg (fun h => hk (by rw [← h, String.toList_ofList]))]

/-! ### The two ways to fill in an address -/

/-- The key of the name in an address, and of the version. -/
def nameKey : String := "name"

def versionKey : String := "version"

theorem simple_nameKey : Simple nameKey.toList := ⟨by decide, by decide⟩

theorem simple_versionKey : Simple versionKey.toList := ⟨by decide, by decide⟩

namespace Package

/-- The values that an address may be filled in with. -/
def addressBindings (package : Package) : StringMap :=
  let named := (∅ : StringMap).insert nameKey package.name
  match package.version with
  | some version => named.insert versionKey version
  | none => named

def versionedUrl (package : Package) (url : String) : String :=
  match package.version with
  | some version => Text.replace url "%(version)s" version
  | none => url

def fillVersion (package : Package) (t : Template) : Template :=
  match package.version with
  | some version => t.fill versionKey.toList version.toList
  | none => t

variable {package : Package} {template url : String}

theorem lookup_named (package : Package) :
    ((∅ : StringMap).insert nameKey package.name).lookup =
      only nameKey.toList package.name.toList := by
  funext k
  rw [StringMap.lookup_insert]
  rfl

theorem lookup_addressBindings (package : Package) :
    package.addressBindings.lookup = fun k =>
      if k = versionKey.toList then
        package.version.elim (only nameKey.toList package.name.toList k) (some ·.toList)
      else only nameKey.toList package.name.toList k := by
  funext k
  unfold addressBindings
  cases package.version with
  | none =>
    dsimp only
    rw [lookup_named]
    simp
  | some version =>
    dsimp only
    rw [StringMap.lookup_insert, lookup_named]
    rfl

/-- Filling in the version first makes no difference to what is looked up. -/
theorem expand_fillVersion (package : Package) (t : Template) :
    (package.fillVersion t).expand (only nameKey.toList package.name.toList) =
      t.expand package.addressBindings.lookup := by
  rw [lookup_addressBindings]
  unfold fillVersion
  cases package.version with
  | none => simp
  | some version =>
    rw [expand_fill]
    rfl

theorem key_of_bound {key : List Char} (h : (package.addressBindings.lookup key).isSome = true) :
    key = nameKey.toList ∨ key = versionKey.toList ∧ package.version.isSome = true := by
  rw [lookup_addressBindings] at h
  by_cases hversion : key = versionKey.toList
  · subst hversion
    have hother : only nameKey.toList package.name.toList versionKey.toList = none :=
      if_neg (by decide)
    cases hv : package.version with
    | none => simp [hv, hother] at h
    | some version => exact .inr ⟨rfl, rfl⟩
  · by_cases hname : key = nameKey.toList
    · exact .inl hname
    · simp [hversion, only, hname] at h

theorem keys_fillVersion (h : ∀ key ∈ t.keys, (package.addressBindings.lookup key).isSome = true) :
    (package.fillVersion t).keys = t.keys.filter (· ≠ versionKey.toList) := by
  unfold fillVersion
  cases hv : package.version with
  | some version => exact keys_fill _ _ t
  | none =>
    symm
    rw [List.filter_eq_self]
    intro key hkey
    rcases key_of_bound (h key hkey) with rfl | ⟨-, hsome⟩
    · decide
    · rw [hv] at hsome
      cases hsome

theorem rest?_fillVersion (package : Package) (t : Template) :
    (package.fillVersion t).rest? = t.rest? := by
  unfold fillVersion
  cases package.version with
  | none => rfl
  | some version => exact rest?_fill _ _ t

theorem render_fillVersion (h : ∀ key ∈ (parse template.toList).keys, '%' ∉ key) :
    (package.fillVersion (parse template.toList)).render =
      (package.versionedUrl template).toList := by
  unfold fillVersion versionedUrl
  cases package.version with
  | none => exact render_parse _
  | some version =>
    dsimp only
    rw [← replaceChars_render simple_versionKey (proper_parse _) h, render_parse, Text.replace,
      String.toList_ofList]
    rfl

theorem plain_of_bound {key : List Char}
    (h : (package.addressBindings.lookup key).isSome = true) : '%' ∉ key := by
  rcases key_of_bound h with rfl | ⟨rfl, -⟩
  · exact simple_nameKey.opened
  · exact simple_versionKey.opened

/-- **If substitution leaves no placeholder open, putting the version in opens none.** -/
theorem parse_versionedUrl_of_expand {u : List Char}
    (h : (parse template.toList).expand package.addressBindings.lookup = .ok u)
    (hu : ¬ openMark <:+: u) :
    parse (package.versionedUrl template).toList =
      package.fillVersion (parse template.toList) := by
  obtain ⟨hrest, hbound⟩ := bound_of_expand h
  rw [← expand_fillVersion] at h
  refine parse_eq_iff.2 ⟨⟨fun text htext hopen => ?_, fun key hkey => ?_, ?_⟩,
    render_fillVersion fun key hkey => plain_of_bound (hbound key hkey)⟩
  · -- the texts of the filled template all stand in `u`
    exact hu (hopen.trans (infix_of_expand h text htext))
  · rw [keys_fillVersion hbound, List.mem_filter] at hkey
    exact (proper_parse _).keys key hkey.1
  · rw [rest?_fillVersion, hrest]
    rintro rest ⟨⟩

/-- **If putting the version in opens no placeholder, it fills in those that there are.** -/
theorem parse_versionedUrl_of_keys {u : List Char}
    (h : (parse (package.versionedUrl template).toList).expand
      (only nameKey.toList package.name.toList) = .ok u)
    (hkeys : (parse (package.versionedUrl template).toList).keys =
      (parse template.toList).keys.filter (· ≠ versionKey.toList)) :
    parse (package.versionedUrl template).toList =
      package.fillVersion (parse template.toList) := by
  have hnamed := keys_of_expand_only h
  obtain ⟨hrest, -⟩ := bound_of_expand h
  cases hv : package.version with
  | none => simp [fillVersion, versionedUrl, hv]
  | some version =>
    -- what is left are the name's placeholders, so the template has none but these and the version's
    have hplain : ∀ key ∈ (parse template.toList).keys, '%' ∉ key := by
      intro key hkey
      by_cases hversion : key = versionKey.toList
      · rw [hversion]
        exact simple_versionKey.opened
      · have hmem : key ∈ (parse (package.versionedUrl template).toList).keys := by
          rw [hkeys]
          exact List.mem_filter.2 ⟨hkey, by simpa using hversion⟩
        rw [hnamed key hmem]
        exact simple_nameKey.opened
    have hfilled : (package.fillVersion (parse template.toList)).keys =
        (parse (package.versionedUrl template).toList).keys := by
      rw [hkeys, fillVersion, hv]
      exact keys_fill _ _ _
    have hrender : (package.fillVersion (parse template.toList)).render =
        (parse (package.versionedUrl template).toList).render := by
      rw [render_fillVersion hplain, render_parse]
    have hunique := eq_of_render_eq simple_nameKey (proper_parse _) hrest hnamed
      (by rwa [hfilled]) hrender
    exact (hunique.2 (by rw [hfilled])).symm

end Package

/-! ### The two ways compared -/

namespace Source

variable {s : Source} {package : Package} {template url : String}

/-- The source's archive is at `url`, if `template` is the source's address. -/
def Yields (s : Source) (package : Package) (template url : String) : Prop :=
  ∃ a, { s with url := some template }.archive? package = .ok (some a) ∧ a.url = url

theorem yields_iff : s.Yields package template url ↔
    Text.replaceChars (placeholder nameKey.toList) package.name.toList
      (package.versionedUrl template).toList = url.toList ∧ ¬ openMark <:+: url.toList := by
  have hexpanded : (expandedUrl package template).toList =
      Text.replaceChars (placeholder nameKey.toList) package.name.toList
        (package.versionedUrl template).toList := String.toList_ofList
  rw [← holds_openMark_eq_false, ← hexpanded, String.toList_inj]
  constructor
  · rintro ⟨a, ha, rfl⟩
    rcases archive?_eq_ok_iff.1 ha with ⟨hnone, -⟩ | ⟨url, hurl, hwhole, ha⟩
    · cases hnone
    · cases hurl
      cases ha
      exact ⟨rfl, hwhole⟩
  · rintro ⟨rfl, hwhole⟩
    exact ⟨_, archive?_eq_ok_iff.2 (.inr ⟨template, rfl, hwhole, rfl⟩), rfl⟩

/-- The name is put in as substitution does it, and never looked at again. -/
theorem yields_iff_expand : s.Yields package template url ↔
    (parse (package.versionedUrl template).toList).expand
      (only nameKey.toList package.name.toList) = .ok url.toList ∧
    ¬ openMark <:+: url.toList := by
  rw [yields_iff, expand_only_iff simple_nameKey]

/-- **Substitution gives what replacing gives where putting the version in opens no placeholder,**
and nothing else. -/
theorem expand_iff_yields :
    (parse template.toList).expand package.addressBindings.lookup = .ok url.toList ∧
      ¬ openMark <:+: url.toList ↔
    s.Yields package template url ∧
      (parse (package.versionedUrl template).toList).keys =
        (parse template.toList).keys.filter (· ≠ versionKey.toList) := by
  rw [yields_iff_expand]
  constructor
  · rintro ⟨h, hu⟩
    have hparse := package.parse_versionedUrl_of_expand h hu
    rw [hparse, package.expand_fillVersion, package.keys_fillVersion (bound_of_expand h).2]
    exact ⟨⟨h, hu⟩, rfl⟩
  · rintro ⟨⟨h, hu⟩, hkeys⟩
    have hparse := package.parse_versionedUrl_of_keys h hkeys
    rw [hparse, package.expand_fillVersion] at h
    exact ⟨h, hu⟩

theorem keys_versionedUrl_of_inert
    (hversion : ∀ version, package.version = some version → Inert nameKey.toList version.toList)
    (h : s.Yields package template url) :
    (parse (package.versionedUrl template).toList).keys =
      (parse template.toList).keys.filter (· ≠ versionKey.toList) := by
  obtain ⟨hexpand, -⟩ := yields_iff_expand.1 h
  obtain ⟨hrest, -⟩ := bound_of_expand hexpand
  have hkeys := keys_of_expand_only hexpand
  cases hv : package.version with
  | none =>
    have hsame : package.versionedUrl template = template := by rw [Package.versionedUrl, hv]
    rw [hsame] at hkeys ⊢
    symm
    rw [List.filter_eq_self]
    intro key hkey
    rw [hkeys key hkey]
    decide
  | some version =>
    have hreplaced : (package.versionedUrl template).toList =
        Text.replaceChars (placeholder versionKey.toList) version.toList template.toList := by
      rw [Package.versionedUrl, hv]
      exact String.toList_ofList
    rw [hreplaced] at hkeys hrest ⊢
    exact keys_parse_replaceChars simple_nameKey simple_versionKey (hversion version hv) hrest hkeys

end Source

theorem templateKeys_eq_filter_iff {text text' : String} {key : String} :
    templateKeys text = (templateKeys text').filter (· ≠ key) ↔
      (parse text.toList).keys = (parse text'.toList).keys.filter (· ≠ key.toList) := by
  have hfilter : (templateKeys text').filter (· ≠ key) =
      ((parse text'.toList).keys.filter (· ≠ key.toList)).map String.ofList := by
    rw [templateKeys, List.filter_map]
    congr 1
    refine List.filter_congr fun k _ => ?_
    rw [Function.comp_apply, decide_eq_decide, Ne, ← String.toList_inj, String.toList_ofList]
  have hinjective : Function.Injective String.ofList := fun _ _ => String.ofList_inj.1
  rw [hfilter, templateKeys, (List.map_injective_iff.2 hinjective).eq_iff]

/-- **Replacing one key after the other is substitution, but for what the version opens.** What a
source yields is what substitution makes, with the name, of the address that has the version in it:
the name is never looked at again. Whatever substitution makes of the address itself, the source
yields, if no placeholder is left open; it yields more just where the placeholders of the address
that has the version in it are not the other ones of the address. That never happens to a version
that holds no start of a placeholder and starts like no part of the name's. -/
theorem address_agrees (s : Source) (package : Package) (template url : String) :
    (s.Yields package template url ↔
      substitute (package.versionedUrl template)
        ((∅ : StringMap).insert nameKey package.name) = .ok url ∧
      Text.holds url "%(" = false) ∧
    (substitute template package.addressBindings = .ok url ∧ Text.holds url "%(" = false ↔
      s.Yields package template url ∧
      templateKeys (package.versionedUrl template) =
        (templateKeys template).filter (· ≠ versionKey)) ∧
    ((∀ version, package.version = some version → Inert nameKey.toList version.toList) →
      (s.Yields package template url ↔
        substitute template package.addressBindings = .ok url ∧ Text.holds url "%(" = false)) := by
  rw [substitute_eq_ok, substitute_eq_ok, holds_openMark_eq_false, templateKeys_eq_filter_iff]
  refine ⟨?_, Source.expand_iff_yields, fun hversion => ?_⟩
  · rw [Package.lookup_named]
    exact Source.yields_iff_expand
  · rw [Source.expand_iff_yields (s := s)]
    exact ⟨fun h => ⟨h, Source.keys_versionedUrl_of_inert hversion h⟩, And.left⟩

/-- An ordinary version, put in twice. -/
theorem address_agrees_plain :
    Inert nameKey.toList "1.0-rc2".toList ∧
    Source.Yields {} { name := "demo", version := some "1.0-rc2" }
      "https://example.org/v%(version)s/%(name)s-%(version)s.tar.gz"
      "https://example.org/v1.0-rc2/demo-1.0-rc2.tar.gz" := by
  have hinert : Inert nameKey.toList "1.0-rc2".toList := ⟨by decide, '1', rfl, by decide⟩
  refine ⟨hinert, ((address_agrees _ _ _ _).2.2 ?_).2 ⟨by decide +kernel, by decide +kernel⟩⟩
  rintro version ⟨⟩
  exact hinert

/-- A version that is the name's placeholder is looked at again, and one that ends it closes it:
replacing gives a complete address where substitution keeps the version as it is, or refuses. -/
theorem version_rescanned :
    (Source.Yields {} { name := "demo", version := some "%(name)s" }
        "https://example.org/%(version)s-1.0.tar.gz" "https://example.org/demo-1.0.tar.gz" ∧
      substitute "https://example.org/%(version)s-1.0.tar.gz"
        (Package.addressBindings { name := "demo", version := some "%(name)s" }) =
          .ok "https://example.org/%(name)s-1.0.tar.gz") ∧
    Source.Yields {} { name := "demo", version := some "me)s" }
        "https://example.org/%(na%(version)s-1.0.tar.gz" "https://example.org/demo-1.0.tar.gz" ∧
      substitute "https://example.org/%(na%(version)s-1.0.tar.gz"
        (Package.addressBindings { name := "demo", version := some "me)s" }) =
          .error (.unresolvedVariable "na%(version"
            "https://example.org/%(na%(version)s-1.0.tar.gz") := by
  have hyields : ∀ package template, Source.archive? { url := some template } package =
        .ok (some ⟨"https://example.org/demo-1.0.tar.gz", Checksum.parse ""⟩) →
      Source.Yields {} package template "https://example.org/demo-1.0.tar.gz" :=
    fun _ _ h => ⟨_, h, rfl⟩
  refine ⟨⟨hyields _ _ ?_, ?_⟩, hyields _ _ ?_, ?_⟩ <;> decide +kernel

end Formulary
