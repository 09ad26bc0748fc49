import Formulary.Proofs.Text.Marks
import Formulary.Template

/-!
# What a template stands for

A text can be taken apart at its placeholders in exactly one way, and reading a template finds it:
`parse_eq_iff`. What substitution answers is read off the parts (`expand_eq`): the texts with the
values between them, or the first key that nothing is bound to, or else what follows a placeholder
that is never closed. `substitute_parts` puts the two together.
-/

namespace Formulary

namespace Template

/-! ### The parts of a template -/

def texts : Template → List (List Char)
  | plain text => [text]
  | unclosed text _ => [text]
  | hole text _ next => text :: next.texts

/-- What follows a placeholder that is never closed. -/
def rest? : Template → Option (List Char)
  | plain _ => none
  | unclosed _ rest => some rest
  | hole _ _ next => next.rest?

/-- No placeholder is opened in a text, and none is closed in a key or after the last mark. -/
structure Proper (t : Template) : Prop where
  texts : ∀ text ∈ t.texts, ¬ openMark <:+: text
  keys : ∀ key ∈ t.keys, ¬ closeMark <:+: key
  rest : ∀ rest ∈ t.rest?, ¬ closeMark <:+: rest

/-- Texts with values between them. -/
def weave : (texts values : List (List Char)) → List Char
  | text :: texts, value :: values => text ++ value ++ weave texts values
  | texts, _ => texts.flatten

variable {text key rest s : List Char} {next t u : Template}
  {value? : List Char → Option (List Char)}

theorem proper_plain : (plain text).Proper ↔ ¬ openMark <:+: text :=
  ⟨fun h => h.texts _ (List.mem_singleton_self text),
    fun h => ⟨by simpa [texts] using h, by simp [keys], by simp [rest?]⟩⟩

theorem proper_unclosed :
    (unclosed text rest).Proper ↔ ¬ openMark <:+: text ∧ ¬ closeMark <:+: rest :=
  ⟨fun h => ⟨h.texts _ (List.mem_singleton_self text), h.rest _ rfl⟩,
    fun h => ⟨by simpa [texts] using h.1, by simp [keys], by simpa [rest?] using h.2⟩⟩

theorem proper_hole :
    (hole text key next).Proper ↔
      ¬ openMark <:+: text ∧ ¬ closeMark <:+: key ∧ next.Proper := by
  constructor
  · intro h
    obtain ⟨htext, htexts⟩ := List.forall_mem_cons.1 h.texts
    obtain ⟨hkey, hkeys⟩ := List.forall_mem_cons.1 h.keys
    exact ⟨htext, hkey, htexts, hkeys, h.rest⟩
  · rintro ⟨htext, hkey, hnext⟩
    exact ⟨List.forall_mem_cons.2 ⟨htext, hnext.texts⟩, List.forall_mem_cons.2 ⟨hkey, hnext.keys⟩,
      hnext.rest⟩

/-! ### Reading a text finds its parts -/

theorem cut?_openMark : Text.cut? openMark s = some (text, rest) ↔
    s = text ++ openMark ++ rest ∧ ¬ openMark <:+: text :=
  Text.cut?_eq_some_iff (by decide)

theorem cut?_closeMark : Text.cut? closeMark s = some (key, rest) ↔
    s = key ++ closeMark ++ rest ∧ ¬ closeMark <:+: key :=
  Text.cut?_eq_some_iff (by decide)

theorem proper_parse (s : List Char) : (parse s).Proper := by
  fun_induction parse s with
  | case1 s hopen => exact proper_plain.2 (Text.cut?_eq_none_iff.1 hopen)
  | case2 s text rest hopen hclose =>
    exact proper_unclosed.2 ⟨(cut?_openMark.1 hopen).2, Text.cut?_eq_none_iff.1 hclose⟩
  | case3 s text rest hopen key after hclose ih =>
    exact proper_hole.2 ⟨(cut?_openMark.1 hopen).2, (cut?_closeMark.1 hclose).2, ih⟩

theorem parse_of_plain (hopen : Text.cut? openMark s = none) : parse s = plain s := by
  rw [parse]
  split
  · rfl
  · next hcut => simp [hopen] at hcut

theorem parse_of_unclosed (hopen : Text.cut? openMark s = some (text, rest))
    (hclose : Text.cut? closeMark rest = none) : parse s = unclosed text rest := by
  rw [parse]
  split
  · next hcut => simp [hopen] at hcut
  · next hcut =>
    cases hopen.symm.trans hcut
    split
    · rfl
    · next hcut => simp [hclose] at hcut

theorem parse_of_hole {after : List Char} (hopen : Text.cut? openMark s = some (text, rest))
    (hclose : Text.cut? closeMark rest = some (key, after)) :
    parse s = hole text key (parse after) := by
  rw [parse]
  split
  · next hcut => simp [hopen] at hcut
  · next hcut =>
    cases hopen.symm.trans hcut
    split
    · next hcut => simp [hclose] at hcut
    · next hcut =>
      cases hclose.symm.trans hcut
      rfl

/-- A proper template is what its text is read as. -/
theorem Proper.parse_render (h : t.Proper) : parse t.render = t := by
  induction t with
  | plain text => exact parse_of_plain (Text.cut?_eq_none_iff.2 (proper_plain.1 h))
  | unclosed text rest =>
    obtain ⟨htext, hrest⟩ := proper_unclosed.1 h
    exact parse_of_unclosed (cut?_openMark.2 ⟨rfl, htext⟩) (Text.cut?_eq_none_iff.2 hrest)
  | hole text key next ih =>
    obtain ⟨htext, hkey, hnext⟩ := proper_hole.1 h
    have hopen : Text.cut? openMark (hole text key next).render =
        some (text, key ++ closeMark ++ next.render) :=
      cut?_openMark.2 ⟨by simp [render], htext⟩
    rw [parse_of_hole hopen (cut?_closeMark.2 ⟨rfl, hkey⟩), ih hnext]

/-- **A text is taken apart at its placeholders in exactly one way.** -/
theorem parse_eq_iff : parse s = t ↔ t.Proper ∧ t.render = s := by
  constructor
  · rintro rfl
    exact ⟨proper_parse s, render_parse s⟩
  · rintro ⟨ht, rfl⟩
    exact ht.parse_render

/-! ### Values in place of the placeholders -/

/-- The first key without a value, or what follows a placeholder that is never closed. -/
def blocked? (value? : List Char → Option (List Char)) (t : Template) : Option (List Char) :=
  (t.keys.find? fun key => (value? key).isNone).or t.rest?

theorem blocked?_eq_none :
    t.blocked? value? = none ↔ t.rest? = none ∧ ∀ key ∈ t.keys, (value? key).isSome := by
  simp [blocked?, and_comm, Option.isSome_iff_ne_none]

theorem expand_eq (value? : List Char → Option (List Char)) (t : Template) :
    t.expand value? =
      match t.blocked? value? with
      | none => .ok (weave t.texts (t.keys.filterMap value?))
      | some key => .error key := by
  induction t with
  | plain text => simp [expand, blocked?, keys, rest?, texts, weave]
  | unclosed text rest => simp [expand, blocked?, keys, rest?]
  | hole text key next ih =>
    cases hvalue : value? key with
    | none => simp [expand, blocked?, keys, hvalue]
    | some value =>
      have hblocked : (hole text key next).blocked? value? = next.blocked? value? := by
        simp [blocked?, keys, rest?, hvalue]
      rw [expand, hvalue, ih, hblocked]
      cases next.blocked? value? with
      | none => simp [Except.map, texts, keys, hvalue, weave]
      | some key => rfl

end Template

open Template

/-- **Substitution is what its grammar says.** A text is `t₀ %(k₁)s t₁ … %(kₙ)s tₙ` in exactly one
way, with nothing after it or a placeholder that is never closed. Substitution succeeds just if all
is closed and every key has a value, and answers the texts with the values between them, as they
are; otherwise it reports the first key without a value, or else what is never closed, with the
whole template. The marks it cuts at never cut a character in two. -/
theorem substitute_parts (template : String) (bindings : StringMap) :
    ∃ t : Template,
      (∀ u : Template, u.Proper ∧ u.render = template.toList ↔ u = t) ∧
      ((substitute template bindings).isOk ↔
        t.rest? = none ∧ ∀ key ∈ t.keys, (bindings.lookup key).isSome) ∧
      substitute template bindings =
        (match t.blocked? bindings.lookup with
        | none => .ok (String.ofList (weave t.texts (t.keys.filterMap bindings.lookup)))
        | some key => .error (.unresolvedVariable (String.ofList key) template)) ∧
      ∀ mark ∈ [openMark, closeMark], Text.StandsWhole mark := by
  have hanswer : substitute template bindings =
        (match (parse template.toList).blocked? bindings.lookup with
        | none => .ok (String.ofList (weave (parse template.toList).texts
            ((parse template.toList).keys.filterMap bindings.lookup)))
        | some key => .error (.unresolvedVariable (String.ofList key) template)) := by
    rw [substitute, expand_eq]
    cases (parse template.toList).blocked? bindings.lookup <;> rfl
  refine ⟨parse template.toList, fun u => ?_, ?_, hanswer, ?_⟩
  · rw [← parse_eq_iff, eq_comm]
  · rw [← blocked?_eq_none, hanswer]
    cases (parse template.toList).blocked? bindings.lookup <;> simp [Except.isOk, Except.toBool]
  · rintro mark hmark
    simp only [List.mem_cons, List.not_mem_nil, or_false] at hmark
    rcases hmark with rfl | rfl
    · exact Text.standsWhole_of_ascii (by decide) (by simp [openMark])
    · exact Text.standsWhole_of_ascii (by decide) (by simp [closeMark])

end Formulary
