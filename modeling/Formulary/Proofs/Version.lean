import Formulary.Proofs.Text.Marks
import Formulary.Version

/-!
# Versions in addresses

The version in the address of an archive is what its file's name, without the ending of an archive,
ends with from the first digit on that stands at the start or behind an opening character; and it is
one only if nothing but characters of a version follows (`infer?_eq_some_iff`). So a version is
found again that was put behind a plain name: `infer?_append`. A reader that goes by the offsets of
bytes, and looks one byte back from each digit, never looks outside the name and finds the same:
`inferByOffsets_eq`. `recovered` puts the three together.
-/

namespace Formulary.Version

/-! ### The name without the ending of an archive -/

/-- The last part of an address between slashes. -/
def IsLastPart (url : String) (name : List Char) : Prop :=
  '/' ∉ name ∧ (url.toList = name ∨ ∃ base, url.toList = base ++ '/' :: name)

/-- A name without the ending of an archive, if it has one. -/
def IsStem (name rest : List Char) : Prop :=
  (∃ ending ∈ archiveExtensions, name = rest ++ ending.toList) ∨
    rest = name ∧ ∀ ending ∈ archiveExtensions, ¬ ending.toList <:+ name

variable {name rest before version s : List Char} {opened : Bool}

/-- No ending of an archive ends with another one. -/
theorem ending_unique {ending ending' : String} (h : ending ∈ archiveExtensions)
    (h' : ending' ∈ archiveExtensions) (hname : ending.toList <:+ name)
    (hname' : ending'.toList <:+ name) : ending = ending' := by
  have hall : ∀ e ∈ archiveExtensions, ∀ e' ∈ archiveExtensions,
      e.toList <:+ e'.toList → e = e' := by decide
  rcases List.suffix_or_suffix_of_suffix hname hname' with hsuffix | hsuffix
  · exact hall ending h ending' h' hsuffix
  · exact (hall ending' h' ending h hsuffix).symm

theorem stem_eq_iff : stem name = rest ↔ IsStem name rest := by
  unfold stem IsStem
  cases hfound : archiveExtensions.findSome? fun ending => Text.beforeMark? ending.toList name with
  | none =>
    have hnone : ∀ ending ∈ archiveExtensions, ¬ ending.toList <:+ name := by
      rintro ending hmem ⟨front, hfront⟩
      have hbefore := List.findSome?_eq_none_iff.1 hfound ending hmem
      rw [Text.beforeMark?_eq_some.2 hfront.symm] at hbefore
      cases hbefore
    constructor
    · intro h
      exact .inr ⟨h.symm, hnone⟩
    · rintro (⟨ending, hmem, hname⟩ | ⟨h, -⟩)
      · exact absurd ⟨rest, hname.symm⟩ (hnone ending hmem)
      · exact h.symm
  | some front =>
    obtain ⟨ending, hmem, hbefore⟩ := List.exists_of_findSome?_eq_some hfound
    have hname := Text.beforeMark?_eq_some.1 hbefore
    constructor
    · rintro rfl
      exact .inl ⟨ending, hmem, hname⟩
    · rintro (⟨ending', hmem', hname'⟩ | ⟨-, hnone⟩)
      · obtain rfl := ending_unique hmem hmem' ⟨front, hname.symm⟩ ⟨rest, hname'.symm⟩
        exact List.append_cancel_right (hname.symm.trans hname')
      · exact absurd ⟨front, hname.symm⟩ (hnone ending hmem)

/-! ### The first digit at an open place -/

/-- A version may start behind a text: the text ends with an opening character, or it is empty and
`opened` says so. -/
def opensAfter (opened : Bool) (before : List Char) : Bool :=
  before.getLast?.elim opened opensVersion

theorem opensAfter_cons (opened : Bool) (c : Char) (before : List Char) :
    opensAfter opened (c :: before) = opensAfter (opensVersion c) before := by
  unfold opensAfter
  rw [List.getLast?_cons]
  cases before.getLast? <;> rfl

theorem opensAfter_concat (opened : Bool) (before : List Char) (c : Char) :
    opensAfter opened (before ++ [c]) = opensVersion c := by
  simp [opensAfter]

/-- `version` is what `s` ends with from the first digit on at a place where a version may start. -/
structure StartsAt (opened : Bool) (s before version : List Char) : Prop where
  split : s = before ++ version
  digit : ∃ d ∈ version.head?, d.isDigit = true
  opens : opensAfter opened before = true
  first : ∀ front d back, s = front ++ d :: back → d.isDigit = true →
    opensAfter opened front = true → before.length ≤ front.length

theorem candidate?_eq_some_iff :
    candidate? opened s = some version ↔ ∃ before, StartsAt opened s before version := by
  induction s generalizing opened with
  | nil =>
    refine iff_of_false (by simp [candidate?]) ?_
    rintro ⟨before, hsplit, ⟨d, hd, -⟩, -, -⟩
    obtain ⟨-, rfl⟩ := List.nil_eq_append_iff.1 hsplit
    cases hd
  | cons c rest ih =>
    rw [candidate?]
    by_cases hc : (opened && c.isDigit) = true
    · rw [if_pos hc, Option.some_inj]
      obtain ⟨hopened, hdigit⟩ := Bool.and_eq_true_iff.1 hc
      constructor
      · rintro rfl
        exact ⟨[], rfl, ⟨c, rfl, hdigit⟩, hopened, fun _ _ _ _ _ _ => Nat.zero_le _⟩
      · rintro ⟨before, hsplit, -, -, hfirst⟩
        have hnil := hfirst [] c rest rfl hdigit hopened
        obtain rfl := List.length_eq_zero_iff.1 (Nat.le_zero.1 hnil)
        exact hsplit
    · rw [if_neg hc, ih]
      constructor
      · rintro ⟨before, rfl, hdigit, hopens, hfirst⟩
        refine ⟨c :: before, rfl, hdigit, by rwa [opensAfter_cons], ?_⟩
        intro front d back h hd hfront
        cases front with
        | nil =>
          obtain ⟨rfl, -⟩ := List.cons.inj h
          exact absurd (Bool.and_eq_true_iff.2 ⟨hfront, hd⟩) hc
        | cons c' front =>
          obtain ⟨rfl, htail⟩ := List.cons.inj h
          rw [opensAfter_cons] at hfront
          exact Nat.succ_le_succ (hfirst front d back htail hd hfront)
      · rintro ⟨before, hsplit, ⟨d, hd, hdigit⟩, hopens, hfirst⟩
        cases before with
        | nil =>
          rw [List.nil_append] at hsplit
          rw [← hsplit] at hd
          cases hd
          exact absurd (Bool.and_eq_true_iff.2 ⟨hopens, hdigit⟩) hc
        | cons c' before =>
          obtain ⟨rfl, rfl⟩ := List.cons.inj hsplit
          rw [opensAfter_cons] at hopens
          refine ⟨before, rfl, ⟨d, hd, hdigit⟩, hopens, fun front d' back h hd' hfront => ?_⟩
          have hle := hfirst (c :: front) d' back (by rw [h, List.cons_append]) hd'
            (by rwa [opensAfter_cons])
          exact Nat.le_of_succ_le_succ hle

theorem candidate?_eq_none_iff :
    candidate? opened s = none ↔
      ∀ front d back, s = front ++ d :: back → d.isDigit = true →
        opensAfter opened front = false := by
  induction s generalizing opened with
  | nil => simp [candidate?]
  | cons c rest ih =>
    rw [candidate?]
    by_cases hc : (opened && c.isDigit) = true
    · rw [if_pos hc]
      refine iff_of_false (by simp) fun hclosed => ?_
      obtain ⟨hopened, hdigit⟩ := Bool.and_eq_true_iff.1 hc
      have hstart := hclosed [] c rest rfl hdigit
      change opened = false at hstart
      rw [hopened] at hstart
      cases hstart
    · rw [if_neg hc, ih]
      constructor
      · intro hclosed front d back h hd
        cases front with
        | nil =>
          obtain ⟨rfl, -⟩ := List.cons.inj h
          exact Bool.eq_false_iff.2 fun hopened => hc (Bool.and_eq_true_iff.2 ⟨hopened, hd⟩)
        | cons c' front =>
          obtain ⟨rfl, htail⟩ := List.cons.inj h
          rw [opensAfter_cons]
          exact hclosed front d back htail hd
      · intro hclosed front d back h hd
        have hlater := hclosed (c :: front) d back (by rw [h, List.cons_append]) hd
        rwa [opensAfter_cons] at hlater

/-! ### Inference -/

theorem infer?_eq_some_iff {url v : String} :
    infer? url = some v ↔ ∃ name rest before, IsLastPart url name ∧ IsStem name rest ∧
      StartsAt true rest before v.toList ∧ ∀ c ∈ v.toList, isVersionChar c = true := by
  unfold infer?
  constructor
  · intro h
    split at h
    · next version hversion =>
      obtain ⟨hall, hv⟩ := Option.ite_none_right_eq_some.1 h
      rw [Option.some_inj] at hv
      subst hv
      obtain ⟨before, hstarts⟩ := candidate?_eq_some_iff.1 hversion
      rw [String.toList_ofList]
      exact ⟨_, _, before, Text.afterLast_eq_iff.1 rfl, stem_eq_iff.1 rfl, hstarts,
        List.all_eq_true.1 hall⟩
    · cases h
  · rintro ⟨name, rest, before, hname, hrest, hstarts, hall⟩
    rw [Text.afterLast_eq_iff.2 hname, stem_eq_iff.2 hrest,
      candidate?_eq_some_iff.2 ⟨before, hstarts⟩]
    dsimp only
    rw [if_pos (List.all_eq_true.2 hall), String.ofList_toList]

/-! ### Versions behind plain names -/

/-- What may stand between a name and its version. -/
def separators : List String := ["-", "_", "v", "V", "-v"]

/-- A name in which no version starts, and that is a single part of an address. -/
structure Plain (name : List Char) : Prop where
  part : '/' ∉ name
  closed : ∀ front d back, name = front ++ d :: back → d.isDigit = true →
    opensAfter true front = false

theorem plain_iff : Plain name ↔ '/' ∉ name ∧ candidate? true name = none :=
  ⟨fun h => ⟨h.part, candidate?_eq_none_iff.2 h.closed⟩,
    fun ⟨hpart, hnone⟩ => ⟨hpart, candidate?_eq_none_iff.1 hnone⟩⟩

instance (name : List Char) : Decidable (Plain name) := decidable_of_iff' _ plain_iff

/-- Behind a separator a version may start, and none starts within it. -/
theorem of_mem_separators {separator : String} (h : separator ∈ separators) :
    ∃ init last, separator.toList = init ++ [last] ∧ opensVersion last = true ∧
      ∀ c ∈ separator.toList, c.isDigit = false ∧ c ≠ '/' := by
  simp only [separators, List.mem_cons, List.not_mem_nil, or_false] at h
  rcases h with rfl | rfl | rfl | rfl | rfl
  · exact ⟨[], '-', rfl, rfl, by simp⟩
  · exact ⟨[], '_', rfl, rfl, by simp⟩
  · exact ⟨[], 'v', rfl, rfl, by simp⟩
  · exact ⟨[], 'V', rfl, rfl, by simp⟩
  · exact ⟨['-'], 'v', rfl, rfl, by simp⟩

theorem parted_append {front back other : List Char} {d : Char}
    (h : name ++ other = front ++ d :: back) :
    (∃ mid, name = front ++ d :: mid) ∨ ∃ mid, front = name ++ mid ∧ other = mid ++ d :: back := by
  rcases List.append_eq_append_iff.1 h with ⟨mid, hfront, hother⟩ | ⟨mid, hname, hmid⟩
  · exact .inr ⟨mid, hfront, hother⟩
  · cases mid with
    | nil =>
      rw [List.append_nil] at hname
      exact .inr ⟨[], by rw [hname, List.append_nil], hmid.symm⟩
    | cons d' mid =>
      obtain ⟨rfl, -⟩ := List.cons.inj hmid
      exact .inl ⟨mid, hname⟩

/-- The version behind a plain name and a separator starts at the first digit at an open place. -/
theorem Plain.startsAt {separator : String} (hname : Plain name) (hsep : separator ∈ separators)
    (hversion : ∃ d ∈ version.head?, d.isDigit = true) :
    StartsAt true (name ++ separator.toList ++ version) (name ++ separator.toList) version := by
  obtain ⟨init, last, hlast, hopens, hplain⟩ := of_mem_separators hsep
  refine ⟨rfl, hversion, ?_, fun front d back h hd hfront => ?_⟩
  · rw [hlast, ← List.append_assoc, opensAfter_concat, hopens]
  · rcases parted_append h with ⟨mid, hbefore⟩ | ⟨mid, rfl, -⟩
    · -- an earlier digit would stand in the name at an open place, or in the separator
      rcases parted_append hbefore with ⟨mid', hname'⟩ | ⟨mid', -, hsep'⟩
      · have hclosed := hname.closed front d mid' hname' hd
        rw [hfront] at hclosed
        cases hclosed
      · have hdigit := (hplain d (by rw [hsep']; simp)).1
        rw [hd] at hdigit
        cases hdigit
    · exact (List.prefix_append _ mid).length_le

/-- **A version behind a plain name is found again.** -/
theorem infer?_append {base name separator version ending : String} (hname : Plain name.toList)
    (hsep : separator ∈ separators) (hdigit : ∃ d ∈ version.toList.head?, d.isDigit = true)
    (hversion : ∀ c ∈ version.toList, isVersionChar c = true)
    (hending : ending ∈ archiveExtensions) :
    infer? (base ++ "/" ++ name ++ separator ++ version ++ ending) = some version := by
  have hslash : ∀ e ∈ archiveExtensions, '/' ∉ e.toList := by decide
  refine infer?_eq_some_iff.2 ⟨name.toList ++ separator.toList ++ version.toList ++ ending.toList,
    name.toList ++ separator.toList ++ version.toList, _, ⟨?_, .inr ⟨base.toList, by simp⟩⟩,
    .inl ⟨ending, hending, rfl⟩, hname.startsAt hsep hdigit, hversion⟩
  obtain ⟨-, -, -, -, hseparator⟩ := of_mem_separators hsep
  simp only [List.mem_append, not_or]
  exact ⟨⟨⟨hname.part, fun h => (hseparator _ h).2 rfl⟩,
    fun h => absurd (hversion _ h) (by decide)⟩, hslash ending hending⟩

/-! ### Reading by offsets -/

/-- The characters of a text with the offsets of their first bytes, from `start` on. -/
def offsets (start : Nat) : List Char → List (Nat × Char)
  | [] => []
  | c :: s => (start, c) :: offsets (start + c.utf8Size) s

def openingBytes : Bytes := [0x2D, 0x5F, 0x76, 0x56]

/-- The offset of the first digit at the start or behind a byte that opens a version. An index outside the
bytes is an error. -/
def findOffset (bytes : Bytes) : List (Nat × Char) → Except Nat (Option Nat)
  | [] => .ok none
  | (i, c) :: rest =>
    if c.isDigit then
      if i = 0 then .ok (some i)
      else
        match bytes[i - 1]? with
        | none => .error (i - 1)
        | some b => if b ∈ openingBytes then .ok (some i) else findOffset bytes rest
    else findOffset bytes rest

/-- The rest of a text from an offset on. An offset behind the end or within a character is an
error. -/
def restFrom : List Char → Nat → Except Nat (List Char)
  | s, 0 => .ok s
  | [], i + 1 => .error (i + 1)
  | c :: s, i + 1 =>
    if c.utf8Size ≤ i + 1 then restFrom s (i + 1 - c.utf8Size) else .error (i + 1)

def bytesOf (s : List Char) : Bytes := Text.encode (String.ofList s)

def inferByOffsets (url : String) : Except Nat (Option String) := do
  let rest := stem (Text.afterLast '/' url.toList)
  match ← findOffset (bytesOf rest) (offsets 0 rest) with
  | none => return none
  | some i =>
    let version ← restFrom rest i
    return if version.all isVersionChar then some (String.ofList version) else none

theorem bytesOf_nil : bytesOf [] = [] := by
  rw [bytesOf, Text.encode_ofList, List.flatMap_nil]

theorem bytesOf_append (s t : List Char) : bytesOf (s ++ t) = bytesOf s ++ bytesOf t := by
  rw [bytesOf, bytesOf, bytesOf, Text.encode_ofList, Text.encode_ofList, Text.encode_ofList,
    List.flatMap_append]

theorem bytesOf_singleton (c : Char) : bytesOf [c] = String.utf8EncodeChar c := by
  rw [bytesOf, Text.encode_ofList, List.flatMap_singleton]

theorem length_bytesOf_cons (c : Char) (s : List Char) :
    (bytesOf (c :: s)).length = c.utf8Size + (bytesOf s).length := by
  rw [← List.singleton_append, bytesOf_append, List.length_append, bytesOf_singleton,
    String.length_utf8EncodeChar]

theorem mem_openingBytes_iff {b : UInt8} :
    b ∈ openingBytes ↔ ∃ c, opensVersion c = true ∧ String.utf8EncodeChar c = [b] := by
  constructor
  · intro h
    simp only [openingBytes, List.mem_cons, List.not_mem_nil, or_false] at h
    rcases h with rfl | rfl | rfl | rfl
    · exact ⟨'-', rfl, rfl⟩
    · exact ⟨'_', rfl, rfl⟩
    · exact ⟨'v', rfl, rfl⟩
    · exact ⟨'V', rfl, rfl⟩
  · rintro ⟨c, hc, hb⟩
    simp only [opensVersion, Bool.or_eq_true, decide_eq_true_eq] at hc
    rcases hc with ((rfl | rfl) | rfl) | rfl <;> cases hb <;> decide

theorem opensVersion_ascii {c : Char} (h : opensVersion c = true) : c.toNat < 128 := by
  simp only [opensVersion, Bool.or_eq_true, decide_eq_true_eq] at h
  rcases h with ((rfl | rfl) | rfl) | rfl <;> decide

/-- The byte before an offset is the last one of the character before it, and it tells whether a
version may start there. -/
theorem exists_byte_before (before : List Char) (c : Char) (s : List Char) :
    ∃ b, (bytesOf (before ++ [c] ++ s))[(bytesOf (before ++ [c])).length - 1]? = some b ∧
      (b ∈ openingBytes ↔ opensVersion c = true) := by
  obtain ⟨init, b, hinit⟩ := (List.eq_nil_or_concat (String.utf8EncodeChar c)).resolve_left
    String.utf8EncodeChar_ne_nil
  have hbytes : bytesOf (before ++ [c]) = bytesOf before ++ init ++ [b] := by
    rw [bytesOf_append, bytesOf_singleton, hinit, List.concat_eq_append, List.append_assoc]
  refine ⟨b, ?_, fun hb => ?_, fun hc => ?_⟩
  · rw [bytesOf_append _ s, hbytes, List.length_append, List.length_singleton,
      Nat.add_sub_cancel, List.append_assoc _ [b], List.getElem?_append_right (Nat.le_refl _),
      Nat.sub_self]
    rfl
  · -- a byte below 128 is a character of its own
    obtain ⟨d, hd, hbd⟩ := mem_openingBytes_iff.1 hb
    obtain ⟨b', hb', hdb'⟩ := Text.utf8EncodeChar_ascii (opensVersion_ascii hd)
    obtain rfl : b = b' := by
      rw [hbd] at hdb'
      exact List.singleton_inj.1 hdb'
    have hone := Text.utf8EncodeChar_of_mem (c := c) hb' (by rw [hinit]; simp)
    rwa [Text.utf8EncodeChar_injective (hone.trans hbd.symm)]
  · obtain ⟨x, -, hx⟩ := Text.utf8EncodeChar_ascii (opensVersion_ascii hc)
    rw [hx] at hinit
    have hb : [] ++ [x] = init ++ [b] := by rw [List.nil_append, hinit, List.concat_eq_append]
    obtain ⟨-, hxb⟩ := List.append_inj' hb rfl
    exact mem_openingBytes_iff.2 ⟨c, hc, hx.trans hxb⟩

/-- Looked at by offsets, the first digit at an open place is the same, and no index is an error. -/
theorem findOffset_eq (before s : List Char) :
    findOffset (bytesOf (before ++ s)) (offsets (bytesOf before).length s) =
      .ok ((candidate? (opensAfter true before) s).map fun version =>
        (bytesOf (before ++ s)).length - (bytesOf version).length) := by
  induction s generalizing before with
  | nil => rfl
  | cons c s ih =>
    have hskip : findOffset (bytesOf (before ++ c :: s))
          (offsets ((bytesOf before).length + c.utf8Size) s) =
        .ok ((candidate? (opensVersion c) s).map fun version =>
          (bytesOf (before ++ c :: s)).length - (bytesOf version).length) := by
      have hnext := ih (before ++ [c])
      rwa [opensAfter_concat, bytesOf_append before [c], List.length_append, bytesOf_singleton,
        String.length_utf8EncodeChar, List.append_assoc, List.singleton_append] at hnext
    have hhere : (bytesOf (before ++ c :: s)).length - (bytesOf (c :: s)).length =
        (bytesOf before).length := by
      rw [bytesOf_append, List.length_append, Nat.add_sub_cancel]
    rw [offsets, findOffset, candidate?]
    by_cases hdigit : c.isDigit = true
    · rw [if_pos hdigit, hdigit, Bool.and_true]
      rcases List.eq_nil_or_concat before with rfl | ⟨front, p, rfl⟩
      · have hopen : opensAfter true [] = true := rfl
        rw [bytesOf_nil, List.length_nil] at hhere ⊢
        rw [if_pos rfl, if_pos hopen, Option.map_some, hhere]
      · rw [List.concat_eq_append] at *
        obtain ⟨b, hbyte, hb⟩ := exists_byte_before front p (c :: s)
        have hne : (bytesOf (front ++ [p])).length ≠ 0 := by
          rw [bytesOf_append, List.length_append, length_bytesOf_cons]
          have hpos := p.utf8Size_pos
          omega
        rw [if_neg hne, hbyte, opensAfter_concat]
        dsimp only
        by_cases hp : opensVersion p = true
        · rw [if_pos (hb.2 hp), if_pos hp, Option.map_some, hhere]
        · rw [if_neg (mt hb.1 hp), if_neg hp, hskip]
    · rw [if_neg hdigit, if_neg (by simp [hdigit]), hskip]

theorem restFrom_zero (s : List Char) : restFrom s 0 = .ok s := by
  cases s <;> rfl

theorem restFrom_append (before s : List Char) :
    restFrom (before ++ s) (bytesOf before).length = .ok s := by
  induction before with
  | nil =>
    rw [bytesOf_nil]
    exact restFrom_zero s
  | cons c before ih =>
    obtain ⟨n, hn⟩ : ∃ n, c.utf8Size = n + 1 := Nat.exists_eq_succ_of_ne_zero c.utf8Size_pos.ne'
    rw [length_bytesOf_cons, hn, Nat.add_right_comm, List.cons_append, restFrom, hn,
      if_pos (by omega)]
    rw [show n + (bytesOf before).length + 1 - (n + 1) = (bytesOf before).length by omega, ih]

/-- **Looking one byte back from each digit never looks outside the name,** and finds the same
version. -/
theorem inferByOffsets_eq (url : String) : inferByOffsets url = .ok (infer? url) := by
  have hfind := findOffset_eq [] (stem (Text.afterLast '/' url.toList))
  have hopen : opensAfter true [] = true := rfl
  rw [bytesOf_nil, List.length_nil, List.nil_append, hopen] at hfind
  unfold inferByOffsets infer?
  dsimp only
  rw [hfind]
  cases hversion : candidate? true (stem (Text.afterLast '/' url.toList)) with
  | none => rfl
  | some version =>
    obtain ⟨before, hstarts⟩ := candidate?_eq_some_iff.1 hversion
    have hoffset : (bytesOf (stem (Text.afterLast '/' url.toList))).length -
        (bytesOf version).length = (bytesOf before).length := by
      rw [hstarts.split, bytesOf_append, List.length_append, Nat.add_sub_cancel]
    rw [Option.map_some, hoffset]
    change (restFrom _ _ >>= _) = _
    rw [hstarts.split, restFrom_append]
    rfl

/-- **Versions are recovered from addresses.** What is inferred is what the file's name ends with
from the first digit on at the start or behind an opening character, if all of that may stand in a
version; the ending of an archive does not count. So every version that stands behind a plain name
and a separator is found again, whatever stands before the name and with every ending. Read by the
offsets of bytes, no index is ever out of range. -/
theorem recovered :
    (∀ url v : String, infer? url = some v ↔
      ∃ name rest before, IsLastPart url name ∧ IsStem name rest ∧
        StartsAt true rest before v.toList ∧ ∀ c ∈ v.toList, isVersionChar c = true) ∧
    (∀ base name separator version ending : String, Plain name.toList → separator ∈ separators →
      (∃ d ∈ version.toList.head?, d.isDigit = true) →
      (∀ c ∈ version.toList, isVersionChar c = true) → ending ∈ archiveExtensions →
        infer? (base ++ "/" ++ name ++ separator ++ version ++ ending) = some version) ∧
    ∀ url, inferByOffsets url = .ok (infer? url) :=
  ⟨fun _ _ => infer?_eq_some_iff,
    fun _ _ _ _ _ hname hsep hdigit hversion hending =>
      infer?_append hname hsep hdigit hversion hending,
    inferByOffsets_eq⟩

/-- A version with a separator, an opening character and the ending of an archive in it, behind a
name with digits in it. -/
theorem recovered_awkward :
    Plain "lib2to3.äv".toList ∧ "-v" ∈ separators ∧
    (∃ d ∈ "0.1_v2-rc.tar".toList.head?, d.isDigit = true) ∧
    (∀ c ∈ "0.1_v2-rc.tar".toList, isVersionChar c = true) ∧ ".tar.gz" ∈ archiveExtensions ∧
    infer? ("https://example.org/r2d2/v9" ++ "/" ++ "lib2to3.äv" ++ "-v" ++ "0.1_v2-rc.tar" ++
      ".tar.gz") = some "0.1_v2-rc.tar" := by
  have hname : Plain "lib2to3.äv".toList := by decide
  have hsep : "-v" ∈ separators := by decide
  have hdigit : ∃ d ∈ "0.1_v2-rc.tar".toList.head?, d.isDigit = true := ⟨'0', rfl, rfl⟩
  have hversion : ∀ c ∈ "0.1_v2-rc.tar".toList, isVersionChar c = true :=
    List.all_eq_true.1 (by decide)
  have hending : ".tar.gz" ∈ archiveExtensions := by decide
  exact ⟨hname, hsep, hdigit, hversion, hending,
    recovered.2.1 _ _ _ _ _ hname hsep hdigit hversion hending⟩

end Formulary.Version
