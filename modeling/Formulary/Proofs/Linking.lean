import Formulary.Formula.Validate
import Formulary.Proofs.Results
import Formulary.Resolution

/-!
# Flags as the linker reads them

All flags of a build are passed to the toolchain in one argument, and the toolchain splits it into
words again: words are separated by blanks, and a word that starts with a quote goes on to the next
quote of its kind. Nothing can be escaped. A flag that binds a symbol stands in this argument as
`-X symbol=value`, between single quotes from the symbol on if the value has a blank.

The toolchain reads back what was meant exactly if every entry is safe: one between quotes must not
hold a single quote, and one without must not start with a quote.
-/

namespace Formulary

namespace Linking

/-! ### Splitting the argument -/

/-- The marks a word may stand between. -/
def isQuote (c : Char) : Bool := c == '\'' || c == '"'

/-- Where the reading of an argument stands. -/
inductive Place where
  /-- Before the next word. -/
  | between
  /-- In a word without quotes. -/
  | bare (word : List Char)
  /-- In a word that goes on to the next `mark`. -/
  | quoted (mark : Char) (word : List Char)

/-- The words from a place on, with `sep` telling what separates them. A quote that is left open is
an error. -/
def scan? (sep : Char → Bool) : Place → List Char → Option (List (List Char))
  | .between, [] => some []
  | .bare word, [] => some [word]
  | .quoted _ _, [] => none
  | .between, c :: s =>
    if sep c then scan? sep .between s
    else if isQuote c then scan? sep (.quoted c []) s
    else scan? sep (.bare [c]) s
  | .bare word, c :: s =>
    if sep c then (scan? sep .between s).map (word :: ·) else scan? sep (.bare (word ++ [c])) s
  | .quoted mark word, c :: s =>
    if c = mark then (scan? sep .between s).map (word :: ·)
    else scan? sep (.quoted mark (word ++ [c])) s

/-- The words of an argument. -/
def words? (sep : Char → Bool) (argument : String) : Option (List String) :=
  (scan? sep .between argument.toList).map (List.map String.ofList)

/-- A way to separate words: blanks do it, the space among them, and nothing else. -/
structure Separates (sep : Char → Bool) : Prop where
  space : sep ' ' = true
  blank : ∀ c, sep c = true → Text.isBlank c = true

section Scan

variable {sep : Char → Bool} {mark : Char} {word s rest : List Char}

/-- A word without quotes goes on while nothing separates. -/
theorem scan_bare (hs : ∀ c ∈ s, sep c = false) :
    scan? sep (.bare word) (s ++ rest) = scan? sep (.bare (word ++ s)) rest := by
  induction s generalizing word with
  | nil => rw [List.nil_append, List.append_nil]
  | cons c s ih =>
    obtain ⟨hc, hs⟩ := List.forall_mem_cons.1 hs
    rw [List.cons_append, scan?, hc, if_neg Bool.false_ne_true, ih hs, List.append_assoc,
      List.singleton_append]

/-- A word in quotes goes on to the next one, whatever stands between. -/
theorem scan_quoted (hs : mark ∉ s) :
    scan? sep (.quoted mark word) (s ++ mark :: rest) =
      (scan? sep .between rest).map ((word ++ s) :: ·) := by
  induction s generalizing word with
  | nil => rw [List.nil_append, List.append_nil, scan?, if_pos rfl]
  | cons c s ih =>
    obtain ⟨hc, hs⟩ := not_or.1 (mt List.mem_cons.2 hs)
    rw [List.cons_append, scan?, if_neg (Ne.symm hc), ih hs, List.append_assoc,
      List.singleton_append]

theorem not_mem_of_scan_quoted {words : List (List Char)}
    (h : scan? sep (.quoted mark word) s = some words) :
    ∃ part more, words = (word ++ part) :: more ∧ mark ∉ part := by
  induction s generalizing word with
  | nil => cases h
  | cons c s ih =>
    rw [scan?] at h
    by_cases hc : c = mark
    · rw [if_pos hc, Option.map_eq_some_iff] at h
      obtain ⟨more, -, rfl⟩ := h
      exact ⟨[], more, by rw [List.append_nil], List.not_mem_nil⟩
    · rw [if_neg hc] at h
      obtain ⟨part, more, hwords, hpart⟩ := ih h
      refine ⟨c :: part, more, ?_, mt List.mem_cons.1 (not_or.2 ⟨Ne.symm hc, hpart⟩)⟩
      rw [hwords, List.append_assoc, List.singleton_append]

end Scan

/-! ### Texts behind each other -/

def spaced (texts : List String) : List Char := texts.flatMap fun text => ' ' :: text.toList

theorem spaced_cons (text : String) (texts : List String) :
    spaced (text :: texts) = ' ' :: (text.toList ++ spaced texts) := by
  rw [spaced, List.flatMap_cons, List.cons_append, ← spaced]

theorem toList_intercalate_cons (text : String) (texts : List String) :
    (" ".intercalate (text :: texts)).toList = text.toList ++ spaced texts := by
  induction texts generalizing text with
  | nil => simp [spaced]
  | cons next texts ih =>
    rw [String.intercalate_cons_cons, String.toList_append, String.toList_append, ih, spaced_cons,
      List.append_assoc]
    rfl

section Spaced

variable {sep : Char → Bool} (hsep : Separates sep)

include hsep

theorem scan_space (s : List Char) :
    scan? sep .between (' ' :: s) = scan? sep .between s := by
  rw [scan?, if_pos hsep.space]

theorem scan_intercalate (texts : List String) :
    scan? sep .between (" ".intercalate texts).toList = scan? sep .between (spaced texts) := by
  cases texts with
  | nil => rfl
  | cons text texts =>
    rw [toList_intercalate_cons, spaced_cons, scan_space hsep]

/-- A word without quotes ends where the next text starts. -/
theorem scan_bare_spaced (word : List Char) (texts : List String) :
    scan? sep (.bare word) (spaced texts) =
      (scan? sep .between (spaced texts)).map (word :: ·) := by
  cases texts with
  | nil => rfl
  | cons text texts => rw [spaced_cons, scan_space hsep, scan?, if_pos hsep.space]

theorem sep_eq_false {c : Char} (hc : Text.isBlank c = false) : sep c = false := by
  refine Bool.eq_false_iff.2 fun h => ?_
  have hblank := hsep.blank c h
  rw [hc] at hblank
  cases hblank

theorem scan_quote {mark : Char} (hmark : isQuote mark = true) (s : List Char) :
    scan? sep .between (mark :: s) = scan? sep (.quoted mark []) s := by
  have hblank : Text.isBlank mark = false := by
    simp only [isQuote, Bool.or_eq_true, beq_iff_eq] at hmark
    rcases hmark with rfl | rfl <;> decide
  rw [scan?, if_neg (Bool.eq_false_iff.1 (sep_eq_false hsep hblank)), if_pos hmark]

theorem scan_word {c : Char} {s : List Char} (hc : isQuote c = false)
    (hs : ∀ x ∈ c :: s, Text.isBlank x = false) (texts : List String) :
    scan? sep .between (c :: s ++ spaced texts) =
      (scan? sep .between (spaced texts)).map ((c :: s) :: ·) := by
  have hsep' : ∀ x ∈ c :: s, sep x = false := fun x hx => sep_eq_false hsep (hs x hx)
  obtain ⟨hcsep, hssep⟩ := List.forall_mem_cons.1 hsep'
  rw [List.cons_append, scan?, if_neg (Bool.eq_false_iff.1 hcsep), if_neg (Bool.eq_false_iff.1 hc),
    scan_bare hssep, List.singleton_append, scan_bare_spaced hsep]

theorem scan_option (s : List Char) :
    scan? sep .between ('-' :: 'X' :: ' ' :: s) =
      (scan? sep .between s).map ("-X".toList :: ·) := by
  have hdash : sep '-' = false := sep_eq_false hsep (by decide)
  have hletter : sep 'X' = false := sep_eq_false hsep (by decide)
  simp [scan?, hdash, hletter, hsep.space, isQuote]

end Spaced

/-! ### Entries -/

/-- A symbol with its value, as the linker wants it. -/
def assignment (symbol value : String) : String := symbol ++ "=" ++ value

/-- The words an entry is meant to be. -/
def meant (entry : String × String) : List String := ["-X", assignment entry.1 entry.2]

/-- An entry the toolchain reads as it was meant. -/
def Safe (entry : String × String) : Prop :=
  if Text.holdsBlank entry.2 then '\'' ∉ (assignment entry.1 entry.2).toList
  else entry.1.toList.head?.all (!isQuote ·)

instance (entry : String × String) : Decidable (Safe entry) :=
  inferInstanceAs (Decidable
    (if Text.holdsBlank entry.2 then '\'' ∉ (assignment entry.1 entry.2).toList
    else entry.1.toList.head?.all (!isQuote ·)))

/-- The text of an entry is `-X`, and what is meant either as it is or between quotes. -/
theorem toList_symbolFlag (symbol value : String) :
    (symbolFlag symbol value).toList = '-' :: 'X' :: ' ' ::
      if Text.holdsBlank value then '\'' :: ((assignment symbol value).toList ++ ['\''])
      else (assignment symbol value).toList := by
  unfold symbolFlag
  split <;> simp [assignment, String.toList_append]

section Entries

variable {sep : Char → Bool} (hsep : Separates sep) {entry : String × String}

include hsep

/-- A safe entry is read as it was meant. -/
theorem scan_of_safe (hsymbol : Text.holdsBlank entry.1 = false) (hsafe : Safe entry)
    (texts : List String) :
    scan? sep .between (spaced (symbolFlag entry.1 entry.2 :: texts)) =
      (scan? sep .between (spaced texts)).map ((meant entry).map String.toList ++ ·) := by
  rw [spaced_cons, scan_space hsep, toList_symbolFlag]
  simp only [List.cons_append]
  rw [scan_option hsep]
  unfold Safe at hsafe
  by_cases hblank : Text.holdsBlank entry.2 = true
  · rw [if_pos hblank] at hsafe ⊢
    rw [List.cons_append, scan_quote hsep (by decide), List.append_assoc, List.singleton_append,
      scan_quoted hsafe, Option.map_map]
    rfl
  · rw [if_neg hblank] at hsafe ⊢
    -- The word starts with a character of the symbol, or with `=` if the symbol is empty.
    obtain ⟨c, s, hword, hc⟩ : ∃ c s,
        (assignment entry.1 entry.2).toList = c :: s ∧ isQuote c = false := by
      rw [assignment, String.toList_append, String.toList_append]
      cases hlist : entry.1.toList with
      | nil => exact ⟨'=', entry.2.toList, rfl, by decide⟩
      | cons c s =>
        refine ⟨c, s ++ "=".toList ++ entry.2.toList, rfl, ?_⟩
        rw [hlist] at hsafe
        simpa using hsafe
    have hclear : ∀ x ∈ c :: s, Text.isBlank x = false := by
      intro x hx
      rw [← hword, assignment, String.toList_append, String.toList_append, List.mem_append,
        List.mem_append] at hx
      rcases hx with (hx | hx) | hx
      · exact Bool.eq_false_iff.2 fun h =>
          Bool.eq_false_iff.1 hsymbol (List.any_eq_true.2 ⟨x, hx, h⟩)
      · obtain rfl : x = '=' := by simpa using hx
        decide
      · exact Bool.eq_false_iff.2 fun h => hblank (List.any_eq_true.2 ⟨x, hx, h⟩)
    rw [hword, scan_word hsep hc hclear, Option.map_map, ← hword]
    rfl

/-- From an entry that is not safe another word is read than was meant: it stands between quotes,
and the word that was meant holds such a quote. -/
theorem exists_mark_of_not_safe (hsafe : ¬ Safe entry) {texts : List String}
    {words : List (List Char)}
    (h : scan? sep .between (spaced (symbolFlag entry.1 entry.2 :: texts)) = some words) :
    ∃ mark part more, words = "-X".toList :: part :: more ∧
      mark ∈ (assignment entry.1 entry.2).toList ∧ mark ∉ part := by
  rw [spaced_cons, scan_space hsep, toList_symbolFlag] at h
  simp only [List.cons_append] at h
  rw [scan_option hsep, Option.map_eq_some_iff] at h
  obtain ⟨words, h, rfl⟩ := h
  -- Either way a quote of the word that was meant is the one that is open.
  obtain ⟨mark, s, hmem, h⟩ : ∃ mark s, mark ∈ (assignment entry.1 entry.2).toList ∧
      scan? sep (.quoted mark []) s = some words := by
    unfold Safe at hsafe
    by_cases hblank : Text.holdsBlank entry.2 = true
    · rw [if_pos hblank, not_not] at hsafe
      rw [if_pos hblank, List.cons_append, scan_quote hsep (by decide)] at h
      exact ⟨'\'', _, hsafe, h⟩
    · rw [if_neg hblank] at hsafe h
      cases hlist : entry.1.toList with
      | nil => simp [hlist] at hsafe
      | cons c s =>
        have hc : isQuote c = true := by simpa [hlist] using hsafe
        have hword : (assignment entry.1 entry.2).toList = c :: (s ++ '=' :: entry.2.toList) := by
          simp [assignment, String.toList_append, hlist]
        rw [hword, List.cons_append, scan_quote hsep hc] at h
        exact ⟨c, _, by rw [hword]; exact List.mem_cons_self, h⟩
  obtain ⟨part, more, rfl, hpart⟩ := not_mem_of_scan_quoted h
  exact ⟨mark, part, more, rfl, hmem, hpart⟩

/-- The words of a list of entries are those that were meant exactly if every entry is safe. -/
theorem scan_entries_iff {entries : List (String × String)}
    (hsymbols : ∀ entry ∈ entries, Text.holdsBlank entry.1 = false) :
    scan? sep .between (spaced (entries.map fun entry => symbolFlag entry.1 entry.2)) =
        some ((entries.flatMap meant).map String.toList) ↔
      ∀ entry ∈ entries, Safe entry := by
  induction entries with
  | nil => exact iff_of_true rfl (List.forall_mem_nil _)
  | cons entry entries ih =>
    obtain ⟨hsymbol, hsymbols⟩ := List.forall_mem_cons.1 hsymbols
    rw [List.map_cons, List.flatMap_cons, List.map_append, List.forall_mem_cons, ← ih hsymbols]
    by_cases hsafe : Safe entry
    · rw [scan_of_safe hsep hsymbol hsafe, Option.map_eq_some_iff]
      constructor
      · rintro ⟨words, hwords, heq⟩
        rw [List.append_cancel_left_eq] at heq
        exact ⟨hsafe, heq ▸ hwords⟩
      · rintro ⟨-, hwords⟩
        exact ⟨_, hwords, rfl⟩
    · refine iff_of_false (fun h => ?_) fun h => hsafe h.1
      obtain ⟨mark, part, more, heq, hmem, hpart⟩ := exists_mark_of_not_safe hsep hsafe h
      simp only [meant, List.map_cons, List.map_nil, List.cons_append, List.cons.injEq] at heq
      exact hpart (heq.2.1 ▸ hmem)

end Entries

end Linking

/-! ### Flags -/

namespace Flag

def IsSymbol : Flag → Prop
  | .text _ => False
  | .symbol _ _ => True

/-- The symbol a flag binds and the value it is bound to, when there is one. -/
def pair? (bindings : StringMap) : Flag → Option (String × String)
  | .text _ => none
  | .symbol name (some template) => (substitute template bindings).toOption.map (name, ·)
  | .symbol name none => (bindings.get? (symbolShortName name)).map (name, ·)

theorem entry_of_resolve {bindings : StringMap} {flag : Flag} {text : String}
    (hsymbol : flag.IsSymbol) (h : flag.resolve bindings = .ok text) :
    ∃ entry, flag.pair? bindings = some entry ∧ text = symbolFlag entry.1 entry.2 := by
  match flag with
  | .symbol name (some template) =>
    obtain ⟨value, hvalue, rfl⟩ := map_eq_ok.1 h
    exact ⟨(name, value), by rw [pair?, hvalue]; rfl, rfl⟩
  | .symbol name none =>
    simp only [resolve] at h
    split at h
    · next value hvalue =>
      cases h
      exact ⟨(name, value), by rw [pair?, hvalue]; rfl, rfl⟩
    · cases h

theorem holdsBlank_of_accepted {bindings : StringMap} {flag : Flag} {entry : String × String}
    (haccepted : flag.badSymbol? = none) (h : flag.pair? bindings = some entry) :
    Text.holdsBlank entry.1 = false := by
  have hname : ∀ name template, flag = .symbol name template → Text.holdsBlank name = false := by
    rintro name template rfl
    unfold badSymbol? at haccepted
    simp only [ite_eq_right_iff, reduceCtorEq, imp_false, Bool.or_eq_true, not_or] at haccepted
    exact Bool.eq_false_iff.2 haccepted.2
  match flag with
  | .symbol name (some template) =>
    rw [pair?, Option.map_eq_some_iff] at h
    obtain ⟨value, -, rfl⟩ := h
    exact hname name _ rfl
  | .symbol name none =>
    rw [pair?, Option.map_eq_some_iff] at h
    obtain ⟨value, -, rfl⟩ := h
    exact hname name _ rfl

end Flag

theorem entries_of_resolveFlags {flags : List Flag} {bindings : StringMap} {texts : List String}
    (hsymbols : ∀ flag ∈ flags, flag.IsSymbol) (h : resolveFlags flags bindings = .ok texts) :
    texts = (flags.filterMap (Flag.pair? bindings)).map
      fun entry => symbolFlag entry.1 entry.2 := by
  induction flags generalizing texts with
  | nil =>
    cases h
    rfl
  | cons flag flags ih =>
    obtain ⟨hsymbol, hsymbols⟩ := List.forall_mem_cons.1 hsymbols
    rw [resolveFlags, List.mapM_cons] at h
    obtain ⟨text, htext, h⟩ := bind_eq_ok.1 h
    obtain ⟨rest, hrest, h⟩ := bind_eq_ok.1 h
    cases h
    obtain ⟨entry, hentry, rfl⟩ := Flag.entry_of_resolve hsymbol htext
    rw [List.filterMap_cons_some hentry, List.map_cons, ih hsymbols hrest]

namespace Linking

/-- For symbol flags that validation accepts and that resolve, the toolchain splits their joined
text into `-X` and `symbol=value` for each flag, in order, exactly if every entry is safe. -/
theorem words_joinedFlags_iff {sep : Char → Bool} (hsep : Separates sep) {flags : List Flag}
    {bindings : StringMap} {r : Resolution} (hsymbols : ∀ flag ∈ flags, flag.IsSymbol)
    (haccepted : ∀ flag ∈ flags, flag.badSymbol? = none)
    (hflags : resolveFlags flags bindings = .ok r.flags) :
    words? sep r.joinedFlags = some ((flags.filterMap (Flag.pair? bindings)).flatMap meant) ↔
      ∀ flag ∈ flags, ∀ entry, flag.pair? bindings = some entry → Safe entry := by
  have hentries : ∀ entry ∈ flags.filterMap (Flag.pair? bindings),
      Text.holdsBlank entry.1 = false := by
    intro entry hentry
    obtain ⟨flag, hflag, hentry⟩ := List.mem_filterMap.1 hentry
    exact Flag.holdsBlank_of_accepted (haccepted flag hflag) hentry
  have hwords (l : List String) : (l.map String.toList).map String.ofList = l := by simp
  have hchars (l : List (List Char)) : (l.map String.ofList).map String.toList = l := by simp
  have hread : words? sep r.joinedFlags =
        some ((flags.filterMap (Flag.pair? bindings)).flatMap meant) ↔
      scan? sep .between (spaced r.flags) =
        some (((flags.filterMap (Flag.pair? bindings)).flatMap meant).map String.toList) := by
    rw [words?, Resolution.joinedFlags, scan_intercalate hsep, Option.map_eq_some_iff]
    constructor
    · rintro ⟨words, hscan, heq⟩
      rw [hscan, ← heq, hchars]
    · exact fun hscan => ⟨_, hscan, hwords _⟩
  rw [hread, entries_of_resolveFlags hsymbols hflags, scan_entries_iff hsep hentries]
  constructor
  · exact fun h flag hflag entry hentry => h entry (List.mem_filterMap.2 ⟨flag, hflag, hentry⟩)
  · intro h entry hentry
    obtain ⟨flag, hflag, hentry⟩ := List.mem_filterMap.1 hentry
    exact h flag hflag entry hentry

theorem separates_isWhitespace : Separates Char.isWhitespace :=
  ⟨by decide, fun _ h => Text.isBlank_of_isWhitespace h⟩

/-- A build of which nothing but its flags is told. -/
def flagged (bindings : StringMap) (flags : List String) : Resolution where
  bindings := bindings
  flags := flags
  args := []
  environment := []
  expectations := []
  root := ⟨"/usr"⟩
  artifact := ⟨"/usr/bin/demo"⟩

/-- A value in which blanks and quotes meet, and one that is bound by the short name of its
symbol. -/
def mottoFlags : List Flag := [.symbol "main.motto" (some "%(motto)s"), .symbol "demo/owner" none]

def mottoBindings : StringMap :=
  .ofList [("motto", "a \"fine\" tool for %(tap_user)s"), ("owner", "o'brien")]

theorem words_of_motto :
    words? Char.isWhitespace
        (flagged mottoBindings
          ["-X 'main.motto=a \"fine\" tool for %(tap_user)s'",
            "-X demo/owner=o'brien"]).joinedFlags =
      some ((mottoFlags.filterMap (Flag.pair? mottoBindings)).flatMap meant) :=
  (words_joinedFlags_iff separates_isWhitespace (by simp [mottoFlags, Flag.IsSymbol])
    (by decide +kernel) (by decide +kernel)).2 (by decide +kernel)

/-- A single quote in a value with a blank ends the word, and what stands behind it is read as a
flag of its own: here a description binds another symbol. -/
theorem description_binds_other :
    ∃ r : Resolution,
      Flag.badSymbol? (.symbol "main.desc" (some "%(desc)s")) = none ∧
      resolveFlags [.symbol "main.desc" (some "%(desc)s")]
        (.ofList [("desc", "x' -X 'main.admin=yes")]) = .ok r.flags ∧
      words? Text.isBlank r.joinedFlags = some ["-X", "main.desc=x", "-X", "main.admin=yes"] ∧
      words? Text.isBlank r.joinedFlags ≠ some ["-X", "main.desc=x' -X 'main.admin=yes"] := by
  refine ⟨flagged .empty ["-X 'main.desc=x' -X 'main.admin=yes'"], by decide, ?_, ?_, ?_⟩
  all_goals decide +kernel

end Linking

end Formulary
