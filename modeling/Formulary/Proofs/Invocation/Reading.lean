import Formulary.Invocation
import Formulary.Proofs.Text.Replacing
import Formulary.Machine.Process

/-!
# Command lines read by a shell

The text of a call is meant for a reader, who may paste it into a shell. `read?` splits a line as
POSIX says: blanks separate words, all is literal between single quotes, a backslash elsewhere
takes the next character as it is, and the first words that assign to a name are assignments. It
refuses a line with any other character that is special to a shell and not quoted.

`read_display` says that the text of a call is read as the call. Its words are independent of what
is read before and after them (`scan_shellWord`), so the line is followed word by word.
-/

namespace Formulary.Invocation

/-! ### Words of a shell -/

/-- A word, each character with whether it was quoted. -/
abbrev Word := List (Char × Bool)

/-- Where the reading of a line stands. -/
inductive Place where
  /-- Outside of quotes. -/
  | open
  /-- Between single quotes. -/
  | quoted
  /-- Behind a backslash. -/
  | escaped

def separates (c : Char) : Bool := c == ' ' || c == '\t'

/-- Characters besides quote and backslash that may mean more than themselves outside of quotes:
operators and the end of a line, expansions, other quotes, patterns and comments. -/
def specials : List Char := "|&;<>()\n$`~\"*?[]!^#\x7b\x7d".toList

/-- The words of a line from a place on, with the word that is begun, if one is. -/
def scan? : Place → Option Word → List Char → Option (List Word)
  | .open, word, [] => some word.toList
  | .quoted, _, [] => none
  | .escaped, _, [] => none
  | .open, word, c :: s =>
    if separates c then (scan? .open none s).map (word.toList ++ ·)
    else if c = '\'' then scan? .quoted (some (word.getD [])) s
    else if c = '\\' then scan? .escaped word s
    else if c ∈ specials then none
    else scan? .open (some (word.getD [] ++ [(c, false)])) s
  | .quoted, word, c :: s =>
    if c = '\'' then scan? .open word s
    else scan? .quoted (some (word.getD [] ++ [(c, true)])) s
  | .escaped, word, c :: s =>
    -- A line that ends with a backslash goes on in the next one.
    if c = '\n' then scan? .open word s
    else scan? .open (some (word.getD [] ++ [(c, true)])) s

def Word.text (word : Word) : String := String.ofList (word.map Prod.fst)

/-- The assignment a word is: a name and what follows the equals sign, both not quoted. -/
def Word.assignment? (word : Word) : Option (String × String) :=
  match word.span (· ≠ ('=', false)) with
  | (_, []) => none
  | (name, _ :: value) =>
    if name.all (!·.2) && Environment.isName (Word.text name) then
      some (Word.text name, Word.text value)
    else none

/-- The assignments before the first word that is none, and the texts of the words from there on. -/
def sortWords : List Word → List (String × String) × List String
  | [] => ([], [])
  | word :: words =>
    match word.assignment? with
    | some entry => (entry :: (sortWords words).1, (sortWords words).2)
    | none => ([], (word :: words).map Word.text)

/-- A line as a shell reads it: assignments, and the words of the command. -/
def read? (line : String) : Option (List (String × String) × List String) :=
  (scan? .open none line.toList).map sortWords

def Word.ofText (quoted : Bool) (s : List Char) : Word := s.map (·, quoted)

theorem Word.text_ofText (quoted : Bool) (s : String) : (Word.ofText quoted s.toList).text = s := by
  simp [Word.text, Word.ofText, Function.comp_def]

/-! ### The characters of a call -/

section Characters

variable {c : Char} {word : Option Word} {rest : List Char}

theorem isSafe_eq_false_of_special (hc : c ∈ specials) : isSafe c = false := by
  have hall : specials.all (fun c => !isSafe c) = true := by decide
  simpa using List.all_eq_true.1 hall c hc

theorem scan_of_isSafe (hc : isSafe c = true) :
    scan? .open word (c :: rest) = scan? .open (some (word.getD [] ++ [(c, false)])) rest := by
  have hne (d : Char) (hd : isSafe d = false) : c ≠ d := by
    rintro rfl
    rw [hc] at hd
    cases hd
  have hblank : separates c = false := by
    simp [separates, hne ' ' (by decide), hne '\t' (by decide)]
  have hspecial : c ∉ specials := fun hmem =>
    hne c (isSafe_eq_false_of_special hmem) rfl
  rw [scan?, if_neg (by simp [hblank]), if_neg (hne '\'' (by decide)),
    if_neg (hne '\\' (by decide)), if_neg hspecial]

/-- What is shown of a character between quotes: a quote is shown outside of them. -/
def quotedChar (c : Char) : List Char := if c = '\'' then ['\'', '\\', '\'', '\''] else [c]

/-- Behind what is shown of it, each character is a quoted one, and the quotes are open again. -/
theorem scan_quotedChar (word : Word) (c : Char) (rest : List Char) :
    scan? .quoted (some word) (quotedChar c ++ rest) =
      scan? .quoted (some (word ++ [(c, true)])) rest := by
  rw [quotedChar]
  by_cases hc : c = '\''
  · subst hc
    have hsep : separates '\'' = false ∧ separates '\\' = false := by decide
    simp [scan?, hsep.1, hsep.2]
  · rw [if_neg hc, List.singleton_append, scan?, if_neg hc, Option.getD_some]

end Characters

/-! ### The words of a call -/

theorem replaceChars_quote (s : List Char) :
    Text.replaceChars ['\''] ['\'', '\\', '\'', '\''] s = s.flatMap quotedChar := by
  induction s with
  | nil => exact Text.replaceChars_of_absent (by decide)
  | cons c s ih =>
    rw [List.flatMap_cons, ← ih, quotedChar]
    by_cases hc : c = '\''
    · subst hc
      have hcut : Text.cut? ['\''] ('\'' :: s) = some ([], s) :=
        (Text.cut?_eq_some_iff List.not_mem_nil).2 ⟨rfl, by simp⟩
      rw [Text.replaceChars_of_cut? (List.cons_ne_nil _ _) hcut, List.nil_append, if_pos rfl]
    · have hclear : Text.Clear ['\''] [c] s :=
        Text.clear_of_not_mem (by simpa using Ne.symm hc)
      have hstep : Text.replaceChars ['\''] ['\'', '\\', '\'', '\''] ([c] ++ s) =
          [c] ++ Text.replaceChars ['\''] ['\'', '\\', '\'', '\''] s :=
        Text.replaceChars_append (List.cons_ne_nil _ _) hclear
      rw [if_neg hc, ← hstep, List.singleton_append]

def isBare (s : String) : Bool := !s.isEmpty && s.toList.all isSafe

theorem isBare_iff {s : String} :
    isBare s = true ↔ s.toList ≠ [] ∧ ∀ c ∈ s.toList, isSafe c = true := by
  simp [isBare]

theorem toList_shellWord (s : String) :
    (shellWord s).toList =
      if isBare s then s.toList else '\'' :: (s.toList.flatMap quotedChar ++ ['\'']) := by
  rw [shellWord, ← isBare]
  split
  · rfl
  · rw [← replaceChars_quote, String.toList_append, String.toList_append, Text.replace,
      String.toList_ofList]
    simp

def wordOf (s : String) : Word := Word.ofText (!isBare s) s.toList

theorem text_wordOf (s : String) : (wordOf s).text = s := Word.text_ofText _ s

theorem scan_bare {s : List Char} (hs : ∀ c ∈ s, isSafe c = true) (word : Word)
    (rest : List Char) :
    scan? .open (some word) (s ++ rest) =
      scan? .open (some (word ++ Word.ofText false s)) rest := by
  induction s generalizing word with
  | nil => rw [Word.ofText, List.map_nil, List.append_nil, List.nil_append]
  | cons c s ih =>
    obtain ⟨hc, hs⟩ := List.forall_mem_cons.1 hs
    rw [List.cons_append, scan_of_isSafe hc, ih hs]
    simp [Word.ofText]

/-- Quotes are left behind all characters that were shown between them. -/
theorem scan_quoted (s : List Char) (word : Word) (rest : List Char) :
    scan? .quoted (some word) (s.flatMap quotedChar ++ '\'' :: rest) =
      scan? .open (some (word ++ Word.ofText true s)) rest := by
  induction s generalizing word with
  | nil => rw [Word.ofText, List.map_nil, List.append_nil, List.flatMap_nil, List.nil_append, scan?,
      if_pos rfl]
  | cons c s ih =>
    rw [List.flatMap_cons, List.append_assoc, scan_quotedChar, ih]
    simp [Word.ofText]

/-- **What is shown of a text is read as the text,** whether or not a word was begun before it and
whatever follows. -/
theorem scan_shellWord (s : String) (word : Option Word) (rest : List Char) :
    scan? .open word ((shellWord s).toList ++ rest) =
      scan? .open (some (word.getD [] ++ wordOf s)) rest := by
  rw [toList_shellWord, wordOf]
  cases hbare : isBare s with
  | false =>
    have hsep : separates '\'' = false := by decide
    rw [if_neg (by decide), List.cons_append, List.append_assoc, List.singleton_append, scan?,
      if_neg (by simp [hsep]), if_pos rfl, scan_quoted]
    rfl
  | true =>
    obtain ⟨hne, hsafe⟩ := isBare_iff.1 hbare
    rw [if_pos rfl]
    -- The first character begins the word, so that the rest of it is read into one.
    cases hs : s.toList with
    | nil => exact absurd hs hne
    | cons c s =>
      rw [hs] at hsafe
      obtain ⟨hc, hsafe⟩ := List.forall_mem_cons.1 hsafe
      rw [List.cons_append, scan_of_isSafe hc, scan_bare hsafe]
      simp [Word.ofText]

theorem scan_space (word : Option Word) (rest : List Char) :
    scan? .open word (' ' :: rest) = (scan? .open none rest).map (word.toList ++ ·) := by
  rw [scan?, if_pos (by decide)]

/-! ### The line of a call -/

def spacedWords (args : List String) : List Char :=
  args.flatMap fun arg => ' ' :: (shellWord arg).toList

def prefixed (env : List (String × String)) : List Char :=
  env.flatMap fun entry => entry.1.toList ++ '=' :: ((shellWord entry.2).toList ++ [' '])

theorem toList_display (i : Invocation) :
    i.display.toList = prefixed i.env ++ i.program.toList ++ spacedWords i.args := by
  rw [display, String.toList_append, String.toList_append, String.toList_join, String.toList_join,
    List.flatMap_map, List.flatMap_map]
  simp [prefixed, spacedWords, String.toList_append]

/-- Every argument ends the word before it and is one word itself. -/
theorem scan_spacedWords (word : Word) (args : List String) :
    scan? .open (some word) (spacedWords args) = some (word :: args.map wordOf) := by
  induction args generalizing word with
  | nil => rfl
  | cons arg args ih =>
    rw [spacedWords, List.flatMap_cons, ← spacedWords, List.cons_append, scan_space, scan_shellWord,
      Option.getD_none, List.nil_append, ih]
    rfl

def wordOfEntry (entry : String × String) : Word :=
  Word.ofText false entry.1.toList ++ ('=', false) :: wordOf entry.2

theorem isSafe_of_isName {name : String} (h : Environment.isName name = true) :
    name.toList ≠ [] ∧ ∀ c ∈ name.toList, isSafe c = true ∧ c ≠ '=' := by
  have hall : name.toList ≠ [] ∧ ∀ c ∈ name.toList, Environment.isNameChar c = true := by
    rw [Environment.isName] at h
    cases hname : name.toList with
    | nil =>
      rw [hname] at h
      cases h
    | cons c rest =>
      rw [hname] at h
      simp only [Bool.and_eq_true, Bool.or_eq_true, List.all_eq_true, decide_eq_true_eq] at h
      obtain ⟨hc, hrest⟩ := h
      refine ⟨List.cons_ne_nil _ _, List.forall_mem_cons.2 ⟨?_, hrest⟩⟩
      rcases hc with hc | rfl
      · simp [Environment.isNameChar, Char.isAlphanum, hc]
      · rfl
  refine ⟨hall.1, fun c hc => ?_⟩
  have hchar := hall.2 c hc
  simp only [Environment.isNameChar, Bool.or_eq_true, decide_eq_true_eq] at hchar
  constructor
  · rcases hchar with hchar | rfl
    · simp [isSafe, hchar]
    · rfl
  · rintro rfl
    revert hchar
    decide

theorem scan_begin {s : List Char} (hne : s ≠ []) (hs : ∀ c ∈ s, isSafe c = true)
    (rest : List Char) :
    scan? .open none (s ++ rest) = scan? .open (some (Word.ofText false s)) rest := by
  cases s with
  | nil => exact absurd rfl hne
  | cons c s =>
    obtain ⟨hc, hs⟩ := List.forall_mem_cons.1 hs
    rw [List.cons_append, scan_of_isSafe hc, scan_bare hs]
    rfl

theorem scan_prefixed {env : List (String × String)}
    (henv : ∀ entry ∈ env, Environment.isName entry.1 = true) (rest : List Char) :
    scan? .open none (prefixed env ++ rest) =
      (scan? .open none rest).map (env.map wordOfEntry ++ ·) := by
  induction env with
  | nil => simp [prefixed]
  | cons entry env ih =>
    obtain ⟨hentry, henv⟩ := List.forall_mem_cons.1 henv
    obtain ⟨hne, hsafe⟩ := isSafe_of_isName hentry
    have hline : prefixed (entry :: env) ++ rest = entry.1.toList ++
        ('=' :: ((shellWord entry.2).toList ++ (' ' :: (prefixed env ++ rest)))) := by
      simp [prefixed]
    rw [hline, scan_begin hne fun c hc => (hsafe c hc).1, scan_of_isSafe (by decide),
      scan_shellWord, scan_space, ih henv, Option.map_map]
    congr 1
    funext words
    simp [wordOfEntry]

/-! ### Assignments and words -/

theorem assignment?_of_mem {front value : Word} (hfront : ('=', false) ∉ front) :
    Word.assignment? (front ++ ('=', false) :: value) =
      if front.all (!·.2) && Environment.isName (Word.text front) then
        some (Word.text front, Word.text value)
      else none := by
  have hne : ∀ p ∈ front, decide (p ≠ ('=', false)) = true := fun p hp =>
    decide_eq_true (ne_of_mem_of_not_mem hp hfront)
  have hspan : (front ++ ('=', false) :: value).span (· ≠ ('=', false)) =
      (front, ('=', false) :: value) := by
    rw [List.span_eq_takeWhile_dropWhile, List.takeWhile_append_of_pos hne,
      List.dropWhile_append_of_pos hne]
    simp
  rw [Word.assignment?, hspan]

theorem assignment?_of_not_mem {word : Word} (h : ('=', false) ∉ word) :
    word.assignment? = none := by
  have hne : ∀ p ∈ word, decide (p ≠ ('=', false)) = true := fun p hp =>
    decide_eq_true (ne_of_mem_of_not_mem hp h)
  have hspan : word.span (· ≠ ('=', false)) = (word, []) := by
    rw [List.span_eq_takeWhile_dropWhile, List.takeWhile_eq_self_iff.2 hne,
      List.dropWhile_eq_nil_iff.2 hne]
  rw [Word.assignment?, hspan]

theorem mem_ofText {c : Char} {quoted quoted' : Bool} {s : List Char} :
    (c, quoted') ∈ Word.ofText quoted s ↔ c ∈ s ∧ quoted' = quoted := by
  simp [Word.ofText, eq_comm]

theorem assignment?_wordOfEntry {entry : String × String}
    (h : Environment.isName entry.1 = true) : (wordOfEntry entry).assignment? = some entry := by
  obtain ⟨-, hname⟩ := isSafe_of_isName h
  -- a name holds no equals sign, so that the first one is that of the assignment
  have hfront : ('=', false) ∉ Word.ofText false entry.1.toList := fun hmem =>
    (hname _ (mem_ofText.1 hmem).1).2 rfl
  have hquoted : (Word.ofText false entry.1.toList).all (!·.2) = true := by
    simp [Word.ofText]
  rw [wordOfEntry, assignment?_of_mem hfront, hquoted, Word.text_ofText, h, text_wordOf]
  rfl

theorem sortWords_of_entries {env : List (String × String)}
    (henv : ∀ entry ∈ env, Environment.isName entry.1 = true) {word : Word}
    (hword : word.assignment? = none) (words : List Word) :
    sortWords (env.map wordOfEntry ++ word :: words) = (env, (word :: words).map Word.text) := by
  induction env with
  | nil => rw [List.map_nil, List.nil_append, sortWords, hword]
  | cons entry env ih =>
    obtain ⟨hentry, henv⟩ := List.forall_mem_cons.1 henv
    rw [List.map_cons, List.cons_append, sortWords, assignment?_wordOfEntry hentry]
    dsimp only
    rw [ih henv]

/-- **The text of a call is read back as the call:** its variables with their values, the program,
and the arguments, each in order. Of the program this asks that it is shown as it is rightly, and
that it cannot be taken for an assignment; of the variables, that a shell would let them be set. -/
theorem read_display (i : Invocation) (hprogram : i.program ≠ "")
    (hsafe : ∀ c ∈ i.program.toList, isSafe c = true ∧ c ≠ '=')
    (henv : ∀ entry ∈ i.env, Environment.isName entry.1 = true) :
    read? i.display = some (i.env, i.program :: i.args) := by
  have hne : i.program.toList ≠ [] := mt String.toList_eq_nil_iff.1 hprogram
  have hword : (Word.ofText false i.program.toList).assignment? = none :=
    assignment?_of_not_mem fun hmem => (hsafe _ (mem_ofText.1 hmem).1).2 rfl
  have htexts : (i.args.map wordOf).map Word.text = i.args := by
    rw [List.map_map]
    exact List.map_id'' text_wordOf i.args
  have hscan : scan? .open none i.display.toList =
      some (i.env.map wordOfEntry ++ Word.ofText false i.program.toList :: i.args.map wordOf) := by
    rw [toList_display, List.append_assoc, scan_prefixed henv,
      scan_begin hne fun c hc => (hsafe c hc).1, scan_spacedWords, Option.map_some]
  rw [read?, hscan, Option.map_some, sortWords_of_entries henv hword, List.map_cons, htexts,
    Word.text_ofText]

/-- A call with an argument that is empty, and one that holds quotes and the end of a line. -/
def describedCall : Invocation where
  program := "go"
  args := ["build", "", "-ldflags", "-X 'main.desc=two\nlines'"]
  env := [("CGO_ENABLED", "0"), ("GOFLAGS", "it's")]

theorem read_describedCall :
    describedCall.program ≠ "" ∧
      (∀ c ∈ describedCall.program.toList, isSafe c = true ∧ c ≠ '=') ∧
      (∀ entry ∈ describedCall.env, Environment.isName entry.1 = true) ∧
      describedCall.display = "CGO_ENABLED=0 GOFLAGS='it'\\''s' " ++
        "go build '' -ldflags '-X '\\''main.desc=two\nlines'\\'''" ∧
      read? describedCall.display =
        some (describedCall.env, describedCall.program :: describedCall.args) := by
  have hprogram : describedCall.program ≠ "" := by decide
  have hsafe : ∀ c ∈ describedCall.program.toList, isSafe c = true ∧ c ≠ '=' := by
    have hall : describedCall.program.toList.all (fun c => isSafe c && c != '=') = true := by decide
    simpa using hall
  have henv : ∀ entry ∈ describedCall.env, Environment.isName entry.1 = true := by decide
  exact ⟨hprogram, hsafe, henv, by decide +kernel, read_display describedCall hprogram hsafe henv⟩

end Formulary.Invocation
