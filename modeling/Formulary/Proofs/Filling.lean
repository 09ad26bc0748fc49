import Formulary.Proofs.Results
import Formulary.Proofs.Template
import Formulary.Proofs.Text.Replacing

/-!
# Values put in for one key at a time

A template can be filled in two ways: all keys at once while it is read, or one key after the other
by replacing its placeholder in the text. To replace a placeholder is to `fill` the template that
was read (`replaceChars_render`), and what is filled in may as well be looked up later
(`expand_fill`). But the text that results may be read with other placeholders than are left, if the
value opens one: `eq_of_render_eq` tells when it does not, and `keys_parse_replaceChars` says which
values never do.
-/

namespace Formulary.Template

variable {text front key rest s u value : List Char} {t next : Template}
  {value? : List Char → Option (List Char)}

/-! ### Templates filled in -/

def placeholder (key : List Char) : List Char := openMark ++ key ++ closeMark

def prepend (front : List Char) : Template → Template
  | plain text => plain (front ++ text)
  | unclosed text rest => unclosed (front ++ text) rest
  | hole text key next => hole (front ++ text) key next

def fill (key value : List Char) : Template → Template
  | plain text => plain text
  | unclosed text rest => unclosed text rest
  | hole text k next =>
    if k = key then (next.fill key value).prepend (text ++ value)
    else hole text k (next.fill key value)

theorem render_prepend (front : List Char) (t : Template) :
    (t.prepend front).render = front ++ t.render := by
  cases t <;> simp [prepend, render]

theorem keys_prepend (front : List Char) (t : Template) : (t.prepend front).keys = t.keys := by
  cases t <;> rfl

theorem rest?_prepend (front : List Char) (t : Template) : (t.prepend front).rest? = t.rest? := by
  cases t <;> rfl

theorem expand_prepend (front : List Char) (t : Template) :
    (t.prepend front).expand value? = (t.expand value?).map (front ++ ·) := by
  cases t with
  | plain text => rfl
  | unclosed text rest => rfl
  | hole text key next =>
    rw [prepend, expand, expand]
    cases value? key with
    | none => rfl
    | some value => cases next.expand value? <;> simp [Except.map]

theorem keys_fill (key value : List Char) (t : Template) :
    (t.fill key value).keys = t.keys.filter (· ≠ key) := by
  induction t with
  | plain text => rfl
  | unclosed text rest => rfl
  | hole text k next ih =>
    rw [fill]
    by_cases hk : k = key
    · simp [hk, keys_prepend, ih, keys]
    · simp [hk, ih, keys]

theorem rest?_fill (key value : List Char) (t : Template) : (t.fill key value).rest? = t.rest? := by
  induction t with
  | plain text => rfl
  | unclosed text rest => rfl
  | hole text k next ih =>
    rw [fill]
    by_cases hk : k = key
    · rw [if_pos hk, rest?_prepend, ih, rest?]
    · rw [if_neg hk, rest?, ih, rest?]

/-- What is put in first may as well be looked up. -/
theorem expand_fill (key value : List Char) (t : Template) :
    (t.fill key value).expand value? =
      t.expand fun k => if k = key then some value else value? k := by
  induction t with
  | plain text => rfl
  | unclosed text rest => rfl
  | hole text k next ih =>
    rw [fill, expand]
    by_cases hk : k = key
    · rw [if_pos hk, if_pos hk, expand_prepend, ih]
    · rw [if_neg hk, if_neg hk, expand, ih]

theorem expand_none_eq_ok : t.expand (fun _ => none) = .ok u ↔ t = plain u := by
  cases t <;> simp [expand]

theorem infix_of_expand (h : t.expand value? = .ok u) : ∀ text ∈ t.texts, text <:+: u := by
  induction t generalizing u with
  | plain text =>
    cases h
    intro x hx
    rw [texts, List.mem_singleton] at hx
    rw [hx]
  | unclosed text rest => cases h
  | hole text key next ih =>
    rw [expand] at h
    cases hvalue : value? key with
    | none =>
      rw [hvalue] at h
      cases h
    | some value =>
      rw [hvalue] at h
      obtain ⟨tail, htail, rfl⟩ := map_eq_ok.1 h
      intro x hx
      rcases List.mem_cons.1 hx with rfl | hx
      · rw [List.append_assoc]
        exact (List.prefix_append _ _).isInfix
      · exact (ih htail x hx).trans (List.suffix_append _ _).isInfix

theorem bound_of_expand (h : t.expand value? = .ok u) :
    t.rest? = none ∧ ∀ key ∈ t.keys, (value? key).isSome = true := by
  rw [expand_eq] at h
  cases hblocked : t.blocked? value? with
  | none => exact blocked?_eq_none.1 hblocked
  | some key =>
    rw [hblocked] at h
    cases h

/-! ### Placeholders in a text -/

/-- What is read behind a text in which no placeholder starts. -/
theorem parse_append (h : Text.Clear openMark front s) :
    parse (front ++ s) = (parse s).prepend front := by
  have hcut := Text.cut?_append h
  cases hopen : Text.cut? openMark s with
  | none =>
    rw [hopen] at hcut
    rw [parse_of_plain hopen, parse_of_plain hcut, prepend]
  | some parts =>
    obtain ⟨text, rest⟩ := parts
    rw [hopen] at hcut
    cases hclose : Text.cut? closeMark rest with
    | none => rw [parse_of_unclosed hopen hclose, parse_of_unclosed hcut hclose, prepend]
    | some parts =>
      obtain ⟨key, after⟩ := parts
      rw [parse_of_hole hopen hclose, parse_of_hole hcut hclose, prepend]

theorem append_placeholder (text key s : List Char) :
    text ++ placeholder key ++ s = text ++ openMark ++ (key ++ closeMark ++ s) := by
  simp [placeholder]

theorem parse_opened (htext : ¬ openMark <:+: text) (hkey : ¬ closeMark <:+: key) :
    parse (text ++ openMark ++ (key ++ closeMark ++ s)) = hole text key (parse s) :=
  parse_of_hole (cut?_openMark.2 ⟨rfl, htext⟩) (cut?_closeMark.2 ⟨rfl, hkey⟩)

/-- A key whose placeholder is opened and closed once. -/
structure Simple (key : List Char) : Prop where
  opened : '%' ∉ key
  closed : ¬ closeMark <:+: key

theorem Simple.cut? (hkey : Simple key) : Text.cut? (placeholder key) s = some (text, rest) ↔
    s = text ++ placeholder key ++ rest ∧ ¬ placeholder key <:+: text := by
  have hmark : '%' ∉ '(' :: (key ++ closeMark) := by
    simp [closeMark, hkey.opened]
  exact Text.cut?_eq_some_iff hmark

theorem placeholder_ne_nil (key : List Char) : placeholder key ≠ [] := List.cons_ne_nil _ _

theorem openMark_prefix_placeholder (key : List Char) : openMark <+: placeholder key := by
  rw [placeholder, List.append_assoc]
  exact List.prefix_append _ _

/-- Keys are told apart by where they are closed. -/
theorem eq_of_closed {k x y : List Char} (hk : ¬ closeMark <:+: k) (hkey : ¬ closeMark <:+: key)
    (h : k ++ closeMark ++ x = key ++ closeMark ++ y) : k = key ∧ x = y := by
  have hcut : some (k, x) = some (key, y) :=
    (cut?_closeMark.2 ⟨rfl, hk⟩).symm.trans (cut?_closeMark.2 ⟨h, hkey⟩)
  cases hcut
  exact ⟨rfl, rfl⟩

theorem prefix_iff_of_closed {k : List Char} (hk : ¬ closeMark <:+: k)
    (hkey : ¬ closeMark <:+: key) : key ++ closeMark <+: k ++ closeMark ++ s ↔ key = k := by
  constructor
  · rintro ⟨y, h⟩
    exact (eq_of_closed hkey hk h).1
  · rintro rfl
    exact List.prefix_append _ _

/-- No placeholder of a key starts where another one is opened. -/
theorem clear_opened (htext : ¬ openMark <:+: text) (h : ¬ key ++ closeMark <+: s) :
    Text.Clear (placeholder key) (text ++ openMark) s := by
  refine Text.clear_append.2 ⟨?_, Text.clear_cons.2 ⟨?_, ?_⟩⟩
  · have hclear : Text.Clear openMark text (openMark ++ s) :=
      Text.clear_of_absent (by decide) htext
    exact hclear.mono (openMark_prefix_placeholder key)
  · intro hprefix
    rw [placeholder, List.append_assoc] at hprefix
    exact h ((List.prefix_append_right_inj openMark).1 hprefix)
  · exact Text.clear_of_not_mem (by decide)

theorem replaceChars_opened (htext : ¬ openMark <:+: text) (h : ¬ key ++ closeMark <+: s) :
    Text.replaceChars (placeholder key) value (text ++ openMark ++ s) =
      text ++ openMark ++ Text.replaceChars (placeholder key) value s :=
  Text.replaceChars_append (placeholder_ne_nil key) (clear_opened htext h)

theorem placeholder_absent (h : ¬ openMark <:+: text) : ¬ placeholder key <:+: text :=
  fun hkey => h ((openMark_prefix_placeholder key).isInfix.trans hkey)

theorem replaceChars_placeholder (hkey : Simple key) (htext : ¬ openMark <:+: text) :
    Text.replaceChars (placeholder key) value (text ++ placeholder key ++ s) =
      text ++ value ++ Text.replaceChars (placeholder key) value s :=
  Text.replaceChars_of_cut? (placeholder_ne_nil key)
    (hkey.cut?.2 ⟨rfl, placeholder_absent htext⟩)

theorem replaceChars_other {k : List Char} (hkey : Simple key) (hk : Simple k) (hne : k ≠ key)
    (htext : ¬ openMark <:+: text) :
    Text.replaceChars (placeholder key) value (text ++ placeholder k ++ s) =
      text ++ placeholder k ++ Text.replaceChars (placeholder key) value s := by
  have hmark : ¬ key ++ closeMark <+: k ++ closeMark ++ s := fun h =>
    hne ((prefix_iff_of_closed hk.closed hkey.closed).1 h).symm
  have hwithin : Text.Clear (placeholder key) (k ++ closeMark) s :=
    Text.clear_of_not_mem (by simp [hk.opened, closeMark])
  rw [append_placeholder, append_placeholder, replaceChars_opened htext hmark,
    Text.replaceChars_append (placeholder_ne_nil key) hwithin]

/-- A placeholder that is never closed is none of a key's. -/
theorem replaceChars_unclosed (htext : ¬ openMark <:+: text) (hrest : ¬ closeMark <:+: rest) :
    Text.replaceChars (placeholder key) value (text ++ openMark ++ rest) =
      text ++ openMark ++ rest := by
  have hmark : ¬ key ++ closeMark <+: rest := fun h =>
    hrest ((List.suffix_append key closeMark).isInfix.trans h.isInfix)
  have habsent : ¬ placeholder key <:+: rest := fun h =>
    hrest ((List.suffix_append _ closeMark).isInfix.trans h)
  rw [replaceChars_opened htext hmark, Text.replaceChars_of_absent habsent]

/-! ### One key after the other -/

/-- **To replace a key's placeholders is to fill them in,** if no key opens a placeholder within its
own. -/
theorem replaceChars_render (hkey : Simple key) (ht : t.Proper) (hkeys : ∀ k ∈ t.keys, '%' ∉ k) :
    Text.replaceChars (placeholder key) value t.render = (t.fill key value).render := by
  induction t with
  | plain text =>
    exact Text.replaceChars_of_absent (placeholder_absent (proper_plain.1 ht))
  | unclosed text rest =>
    obtain ⟨htext, hrest⟩ := proper_unclosed.1 ht
    rw [fill, render, replaceChars_unclosed htext hrest]
  | hole text k next ih =>
    obtain ⟨htext, hk, hnext⟩ := proper_hole.1 ht
    obtain ⟨hk', hkeys⟩ := List.forall_mem_cons.1 hkeys
    have hsplit : (hole text k next).render = text ++ placeholder k ++ next.render := by
      simp [render, placeholder]
    rw [hsplit, fill]
    by_cases heq : k = key
    · subst heq
      rw [if_pos rfl, replaceChars_placeholder hkey htext, ih hnext hkeys, render_prepend]
    · rw [if_neg heq, replaceChars_other hkey ⟨hk', hk⟩ heq htext, ih hnext hkeys]
      simp [render, placeholder]

/-- One key bound to a value. -/
def only (key value : List Char) : List Char → Option (List Char) :=
  fun k => if k = key then some value else none

theorem expand_only_eq_ok : t.expand (only key value) = .ok u ↔ t.fill key value = plain u := by
  rw [← expand_none_eq_ok, expand_fill]
  rfl

theorem keys_of_expand_only (h : t.expand (only key value) = .ok u) : ∀ k ∈ t.keys, k = key := by
  have hkeys := congrArg keys (expand_only_eq_ok.1 h)
  rw [keys_fill] at hkeys
  intro k hk
  by_contra hne
  have hmem : k ∈ t.keys.filter (· ≠ key) := List.mem_filter.2 ⟨hk, by simpa using hne⟩
  rw [hkeys] at hmem
  cases hmem

/-- **Where no placeholder is left, replacing the one of a key and looking up only that key come to
the same.** -/
theorem expand_only_iff (hkey : Simple key) :
    (parse s).expand (only key value) = .ok u ∧ ¬ openMark <:+: u ↔
      Text.replaceChars (placeholder key) value s = u ∧ ¬ openMark <:+: u := by
  constructor
  · rintro ⟨h, hu⟩
    have hkeys : ∀ k ∈ (parse s).keys, '%' ∉ k := fun k hk => by
      rw [keys_of_expand_only h k hk]
      exact hkey.opened
    refine ⟨?_, hu⟩
    calc
      Text.replaceChars (placeholder key) value s
        = Text.replaceChars (placeholder key) value (parse s).render := by rw [render_parse]
      _ = ((parse s).fill key value).render := replaceChars_render hkey (proper_parse s) hkeys
      _ = u := by rw [expand_only_eq_ok.1 h, render]
  · rintro ⟨rfl, hu⟩
    refine ⟨?_, hu⟩
    fun_induction Text.replaceChars (placeholder key) value s with
    | case1 s hnil => exact absurd hnil (placeholder_ne_nil key)
    | case2 s hmark hcut =>
      rw [parse_of_plain (Text.cut?_eq_none_iff.2 hu), expand]
    | case3 s hmark before after hcut ih =>
      obtain ⟨rfl, -⟩ := hkey.cut?.1 hcut
      have hbefore : ¬ openMark <:+: before := fun h =>
        hu (h.trans (by rw [List.append_assoc]; exact (List.prefix_append _ _).isInfix))
      have hafter : ¬ openMark <:+: Text.replaceChars (placeholder key) value after := fun h =>
        hu (h.trans (List.suffix_append _ _).isInfix)
      rw [append_placeholder, parse_opened hbefore hkey.closed, expand, only, if_pos rfl]
      dsimp only
      rw [ih hafter]
      rfl

/-! ### Placeholders that are opened on the way -/

/-- Of two ways to cut a text at the placeholders of a key, the one that leaves none between them
has the most, and no other one has as many. -/
theorem eq_of_render_eq {u : Template} (hkey : Simple key) (ht : t.Proper) (hrest : t.rest? = none)
    (hkeys : ∀ k ∈ t.keys, k = key) (hu : ∀ k ∈ u.keys, k = key) (h : u.render = t.render) :
    u.keys.length ≤ t.keys.length ∧ (t.keys.length ≤ u.keys.length → u = t) := by
  induction t generalizing u with
  | plain text =>
    have htext := proper_plain.1 ht
    cases u with
    | plain text' =>
      cases h
      exact ⟨Nat.le_refl _, fun _ => rfl⟩
    | unclosed text' rest =>
      refine absurd ?_ htext
      rw [← show _ = text from h, render]
      exact ⟨text', rest, rfl⟩
    | hole text' k next =>
      refine absurd ?_ htext
      rw [← show _ = text from h, render]
      exact ⟨text', k ++ closeMark ++ next.render, by simp⟩
  | unclosed text rest => cases hrest
  | hole text k next ih =>
    obtain ⟨htext, -, hnext⟩ := proper_hole.1 ht
    obtain ⟨rfl, hnexts⟩ := List.forall_mem_cons.1 hkeys
    cases u with
    | plain text' => exact ⟨Nat.zero_le _, fun hle => absurd hle (Nat.not_succ_le_zero _)⟩
    | unclosed text' rest => exact ⟨Nat.zero_le _, fun hle => absurd hle (Nat.not_succ_le_zero _)⟩
    | hole text' k' next' =>
      obtain ⟨rfl, hnexts'⟩ := List.forall_mem_cons.1 hu
      have hsplit : text' ++ placeholder k' ++ next'.render =
          text ++ placeholder k' ++ next.render := by simpa [render, placeholder] using h
      have hcut : Text.cut? (placeholder k') (text ++ placeholder k' ++ next.render) =
          some (text, next.render) := hkey.cut?.2 ⟨rfl, placeholder_absent htext⟩
      rw [← hsplit] at hcut
      cases hfirst : Text.cut? (placeholder k') text' with
      | none =>
        rw [hkey.cut?.2 ⟨rfl, Text.cut?_eq_none_iff.1 hfirst⟩, Option.some_inj,
          Prod.mk.injEq] at hcut
        obtain ⟨rfl, hafter⟩ := hcut
        obtain ⟨hle, heq⟩ := ih hnext hrest hnexts hnexts' hafter
        exact ⟨Nat.succ_le_succ hle, fun h => by rw [heq (Nat.le_of_succ_le_succ h)]⟩
      | some parts =>
        -- the first placeholder lies in `text'`, so there is one more behind it
        obtain ⟨before, after⟩ := parts
        obtain ⟨rfl, hbefore⟩ := hkey.cut?.1 hfirst
        have hthere : before ++ placeholder k' ++ after ++ placeholder k' ++ next'.render =
            before ++ placeholder k' ++ (hole after k' next').render := by
          simp [render, placeholder]
        rw [hthere, hkey.cut?.2 ⟨rfl, hbefore⟩, Option.some_inj, Prod.mk.injEq] at hcut
        have hmore : ∀ k ∈ (hole after k' next').keys, k = k' :=
          List.forall_mem_cons.2 ⟨rfl, hnexts'⟩
        have hle := (ih hnext hrest hnexts hmore hcut.2).1
        exact ⟨Nat.le_succ_of_le hle, fun h => absurd (Nat.le_trans h hle) (Nat.not_succ_le_self _)⟩

/-- A value can be put in anywhere without opening a placeholder of `key`: it holds no start of one,
and what it starts with continues none. -/
structure Inert (key value : List Char) : Prop where
  opens : '%' ∉ value
  continues : ∃ c ∈ value.head?, c ∉ placeholder key

theorem closed_of_parse_opened (htext : ¬ openMark <:+: text)
    (hrest : (parse (text ++ openMark ++ s)).rest? = none)
    (hkeys : ∀ k ∈ (parse (text ++ openMark ++ s)).keys, k = key) : key ++ closeMark <+: s := by
  have hopen : Text.cut? openMark (text ++ openMark ++ s) = some (text, s) :=
    cut?_openMark.2 ⟨rfl, htext⟩
  cases hclose : Text.cut? closeMark s with
  | none =>
    rw [parse_of_unclosed hopen hclose] at hrest
    cases hrest
  | some parts =>
    obtain ⟨k, after⟩ := parts
    rw [parse_of_hole hopen hclose] at hkeys
    rw [← hkeys k List.mem_cons_self, Text.cut?_eq_some hclose]
    exact List.prefix_append _ _

/-- **An inert value opens no placeholder:** if those of `key` are all that is left once a value is
in the place of another key, then they are the ones that there were. -/
theorem keys_parse_replaceChars {other : List Char} (hkey : Simple key) (hother : Simple other)
    (hvalue : Inert key value)
    (hrest : (parse (Text.replaceChars (placeholder other) value s)).rest? = none)
    (hkeys : ∀ k ∈ (parse (Text.replaceChars (placeholder other) value s)).keys, k = key) :
    (parse (Text.replaceChars (placeholder other) value s)).keys =
      (parse s).keys.filter (· ≠ other) := by
  obtain ⟨c, hc, hfresh⟩ := hvalue.continues
  obtain ⟨tail, rfl⟩ := List.head?_eq_some_iff.1 hc
  fun_induction parse s with
  | case1 s hopen =>
    have hnone : ¬ openMark <:+: s := Text.cut?_eq_none_iff.1 hopen
    rw [Text.replaceChars_of_absent (placeholder_absent hnone), parse_of_plain hopen]
    rfl
  | case2 s text rest hopen hclose =>
    obtain ⟨rfl, htext⟩ := cut?_openMark.1 hopen
    rw [replaceChars_unclosed htext (Text.cut?_eq_none_iff.1 hclose),
      parse_of_unclosed hopen hclose] at hrest
    cases hrest
  | case3 s text rest hopen k after hclose ih =>
    obtain ⟨rfl, htext⟩ := cut?_openMark.1 hopen
    obtain ⟨rfl, hk⟩ := cut?_closeMark.1 hclose
    by_cases heq : k = other
    · subst heq
      have hclear : Text.Clear openMark (text ++ c :: tail)
          (Text.replaceChars (placeholder k) (c :: tail) after) := by
        have hc' : c ∉ ['('] := by
          intro h
          rw [List.mem_singleton.1 h] at hfresh
          exact hfresh (by simp [placeholder, openMark])
        exact Text.clear_append.2
          ⟨Text.clear_of_absent hc' htext, Text.clear_of_not_mem hvalue.opens⟩
      rw [← append_placeholder, replaceChars_placeholder hother htext, parse_append hclear]
        at hrest hkeys ⊢
      rw [keys_prepend] at hkeys ⊢
      rw [rest?_prepend] at hrest
      rw [ih hrest hkeys, keys, List.filter_cons_of_neg (by simp)]
    · have hmark : ¬ other ++ closeMark <+: k ++ closeMark ++ after :=
        fun h => heq ((prefix_iff_of_closed hk hother.closed).1 h).symm
      -- the placeholder that is opened here is closed behind `key`, so `k` is `key`
      have hclosed := closed_of_parse_opened htext
        (by rwa [replaceChars_opened htext hmark] at hrest)
        (by rwa [replaceChars_opened htext hmark] at hkeys)
      have hfresh' : c ∉ key ++ closeMark := fun h =>
        hfresh (by simp_all [placeholder])
      have hstarts := Text.prefix_of_replaceChars (placeholder_ne_nil other) hfresh' hclosed
      obtain rfl := (prefix_iff_of_closed hk hkey.closed).1 hstarts
      rw [← append_placeholder, replaceChars_other hother hkey heq htext, append_placeholder,
        parse_opened htext hk] at hrest hkeys ⊢
      rw [keys, keys, List.filter_cons_of_pos (by simpa using heq)]
      rw [ih hrest fun k' hk' => hkeys k' (List.mem_cons_of_mem key hk')]

end Formulary.Template
