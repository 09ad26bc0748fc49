import Formulary.Machine.Host.Script.Arithmetic
import Formulary.Machine.Host.Tool.Sed.Syntax

/-!
# The stream editor: reading scripts

A script is read character by character. What is wrong with it is told with the place up to which it
was read, counted from the start of the piece of the script that holds it.
-/

namespace Formulary.Host.Tool.Sed

/-- What is left of a script. -/
structure Reading where
  rest : List Char
  /-- How many characters have been read. -/
  used : Nat := 0
  /-- The commands so far. -/
  commands : Array Command := #[]
  /-- The places of blocks that are open, innermost first. -/
  blocks : List Nat := []
  labels : List (String × Nat) := []

/-- What is wrong with a script. -/
inductive Fault where
  /-- Something at a place. -/
  | located (used : Nat) (text : String)
  /-- Something about the script as a whole. -/
  | whole (text : String)
  /-- Something that is told without a place. -/
  | plain (text : String)

abbrev Reader := StateT Reading (Except Fault)

namespace Read

/-- Something is wrong with what has been read. -/
def fail {α : Type} (text : String) : Reader α := do throw (.located (← get).used text)

def peek : Reader (Option Char) := return (← get).rest.head?

def next : Reader (Option Char) := do
  let r ← get
  match r.rest with
  | c :: rest =>
    set { r with rest, used := r.used + 1 }
    return some c
  | [] => return none

def skipWhile (p : Char → Bool) : Reader Unit :=
  modify fun r =>
    let passed := r.rest.takeWhile p
    { r with rest := r.rest.drop passed.length, used := r.used + passed.length }

def isBlank (c : Char) : Bool := c = ' ' || c = '\t'

def skipBlanks : Reader Unit := skipWhile isBlank

/-- Takes the next character that is no blank. -/
def nextNonBlank : Reader (Option Char) := do
  skipBlanks
  next

/-- Passes over a character if it comes next. -/
def accept (c : Char) : Reader Bool := do
  if (← peek) = some c then
    let _ ← next
    return true
  else return false

def takeWhile (p : Char → Bool) : Reader (List Char) := do
  let taken := (← get).rest.takeWhile p
  skipWhile p
  return taken

def number : Reader Nat := return (Text.natural? (← takeWhile Char.isDigit)).getD 0

/-! ### Escapes -/

/-- The digits of a base at the start of a text, at most so many, as a character. -/
def coded? (base most : Nat) (s : List Char) : Option (Char × List Char) :=
  let digits := (s.take most).takeWhile fun c => Script.Arithmetic.digitValue c < base
  (Script.Arithmetic.ofDigits? base digits).map fun n =>
    (Char.ofNat (n % 256), s.drop digits.length)

/-- The character an escape behind a backslash stands for, and what follows it. -/
def escape? : List Char → Option (Char × List Char)
  | 'a' :: s => some ('\x07', s)
  | 'f' :: s => some ('\x0c', s)
  | 'n' :: s => some ('\n', s)
  | 'r' :: s => some ('\r', s)
  | 't' :: s => some ('\t', s)
  | 'v' :: s => some ('\x0b', s)
  | 'c' :: c :: s => some (Char.ofNat ((c.toUpper.toNat + 64) % 128), s)
  | 'd' :: s => coded? 10 3 s
  | 'o' :: s => coded? 8 3 s
  | 'x' :: s => coded? 16 2 s
  | _ => none

/-- A text with its escapes replaced; other backslashes stay with what they protect. -/
def unescape : (fuel : Nat) → List Char → List Char
  | 0, s => s
  | _ + 1, [] => []
  | fuel + 1, '\\' :: s =>
    match escape? s with
    | some (c, rest) => c :: unescape fuel rest
    | none =>
      match s with
      | c :: rest => '\\' :: c :: unescape fuel rest
      | [] => ['\\']
  | fuel + 1, c :: s => c :: unescape fuel s

/-- A text with its escapes replaced and its other backslashes dropped. -/
def plain : (fuel : Nat) → List Char → List Char
  | 0, s => s
  | _ + 1, [] => []
  | fuel + 1, '\\' :: s =>
    match escape? s with
    | some (c, rest) => c :: plain fuel rest
    | none =>
      match s with
      | c :: rest => c :: plain fuel rest
      | [] => []
  | fuel + 1, c :: s => c :: plain fuel s

/-! ### Parts between delimiters -/

/-- Where in a set of characters between brackets a place is. -/
inductive Bracket where
  | outside
  /-- Behind the opening bracket, or the sign that turns the set round. -/
  | first
  | inside
  /-- In a named kind, up to a mark and a bracket. -/
  | kind (mark : Char)

/-- Behind a character of an expression, and the one before it. -/
def Bracket.step (b : Bracket) (before c : Char) : Bracket :=
  match b with
  | .outside => if c = '[' then .first else .outside
  | .first => if c = '^' && before = '[' then .first else .inside
  | .inside =>
    if c = ']' then .outside
    else if before = '[' && (c = ':' || c = '.' || c = '=') then .kind c
    else .inside
  | .kind mark => if c = ']' && before = mark then .inside else .kind mark

/-- Takes the characters up to a delimiter, and passes over it; none if the line ends before. In an
expression, a set between brackets may hold the delimiter. -/
def upTo (delimiter : Char) (inExpression : Bool) :
    (fuel : Nat) → Bracket → Char → List Char → Reader (Option (List Char))
  | 0, _, _, _ => return none
  | fuel + 1, b, before, out => do
    match ← peek with
    | none | some '\n' => return none
    | some c =>
      let _ ← next
      let isOutside := match b with
        | .outside => true
        | _ => false
      if !isOutside then upTo delimiter inExpression fuel (b.step before c) c (c :: out)
      else if c = delimiter then return some out.reverse
      else if c = '\\' then
        match ← next with
        | none => return none
        | some d =>
          let kept :=
            if d = delimiter then if !inExpression && d = '&' then [d, '\\'] else [d]
            else if d = '\n' && inExpression then [d]
            else [d, '\\']
          upTo delimiter inExpression fuel b ' ' (kept ++ out)
      else
        upTo delimiter inExpression fuel (if inExpression then b.step before c else b) c (c :: out)

/-- Takes the characters up to a delimiter, or complains. -/
def delimited (delimiter : Char) (inExpression : Bool) (complaint : String) :
    Reader (List Char) := do
  if delimiter = '\n' || delimiter = '\\' then fail complaint
  match ← upTo delimiter inExpression ((← get).rest.length + 1) .outside ' ' [] with
  | some s => return s
  | none => fail complaint

/-- Control characters of an expression put in their places. -/
def controls (s : List Char) : List Char := unescape (s.length + 1) s

/-- The expression of a text; none for an empty one. -/
def expression (style : Regex.Style) (s : List Char) : Reader (Option Regex.Alternatives) := do
  if s.isEmpty then return none
  match Regex.parse style (String.ofList (controls s)) with
  | .ok e => return some e
  | .error reason => if reason = Regex.bareKind then throw (.plain reason) else fail reason

/-! ### Addresses -/

/-- The marks behind an expression of an address. -/
def addressMarks (style : Regex.Style) : (fuel : Nat) → Reader Regex.Style
  | 0 => return style
  | fuel + 1 => do
    skipBlanks
    if ← accept 'I' then addressMarks { style with ignoreCase := true } fuel
    else if ← accept 'M' then addressMarks { style with byLine := true } fuel
    else return style

/-- The first part of an address, or of the limit of a range. -/
inductive Bound where
  | address (a : Address)
  | further (n : Nat)
  | multiple (n : Nat)

def bound? (style : Regex.Style) : Reader (Option Bound) := do
  match ← peek with
  | some '$' =>
    let _ ← next
    return some (.address .last)
  | some c =>
    if c = '/' || c = '\\' then
      let _ ← next
      let delimiter ← if c = '/' then pure c else do pure ((← next).getD '\n')
      let s ← delimited delimiter true "unterminated address regex"
      let style ← addressMarks style ((← get).rest.length + 1)
      return some (.address (.matching (← expression style s)))
    else if c.isDigit then
      let n ← number
      skipBlanks
      if ← accept '~' then
        skipBlanks
        let step ← number
        return some (.address (if step = 0 then .number n else .each n step))
      else return some (.address (.number n))
    else if c = '+' || c = '~' then
      let _ ← next
      skipBlanks
      let n ← number
      return some (if c = '+' then .further n else .multiple n)
    else return none
  | none => return none

/-- The address is line zero, which there is not. -/
def isZero : Address → Bool
  | .number 0 => true
  | _ => false

def lines (style : Regex.Style) : Reader Lines := do
  match ← bound? style with
  | none => return .all
  | some (.further _) | some (.multiple _) =>
    fail "invalid usage of +N or ~N as first address"
  | some (.address a) =>
    skipBlanks
    let found : Lines ← if ← accept ',' then do
        skipBlanks
        match ← bound? style with
        | some (.address b) => pure (Lines.range a (.address b))
        | some (.further n) => pure (Lines.range a (.further n))
        | some (.multiple n) => pure (Lines.range a (.multiple n))
        | none =>
          let _ ← next
          fail "unexpected `,'"
      else pure (Lines.single a)
    let allowed := match found with
      | .range _ (.address (.matching _)) => true
      | _ => false
    if isZero a && !allowed then
      let _ ← nextNonBlank
      fail "invalid usage of line address 0"
    return found

/-! ### Commands -/

/-- Behind a command only its end may stand. -/
def endOfCommand : Reader Unit := do
  skipBlanks
  match ← peek with
  | none | some '\x7d' | some '#' => return ()
  | some c =>
    let _ ← next
    if c ≠ '\n' && c ≠ ';' then fail "extra characters after command"

/-- The lines of a text, up to a line end without a backslash before it, which is passed over. -/
def rawText : (fuel : Nat) → List Char → Reader (List Char)
  | 0, out => return out.reverse
  | fuel + 1, out => do
    match ← next with
    | none | some '\n' => return out.reverse
    | some '\\' =>
      match ← next with
      | some c => rawText fuel (c :: '\\' :: out)
      | none => return out.reverse
    | some c => rawText fuel (c :: out)

/-- The text of `a`, `i` or `c`. -/
def text : Reader (List Char) := do
  skipBlanks
  match ← peek with
  | none => fail "expected \\ after `a', `c' or `i'"
  | some '\\' =>
    let _ ← next
    if (← peek).isNone then return []
    let blanks ← takeWhile isBlank
    let blanks ← if ← accept '\n' then pure [] else pure blanks
    let s ← rawText ((← get).rest.length + 1) blanks.reverse
    return plain (s.length + 1) s ++ ['\n']
  | some _ =>
    let s ← rawText ((← get).rest.length + 1) []
    return plain (s.length + 1) s ++ ['\n']

/-- The name of a file, up to the end of the line. -/
def fileName : Reader String := do
  skipBlanks
  let name ← takeWhile (· ≠ '\n')
  if name.isEmpty then fail "missing filename in r/R/w/W commands"
  let _ ← next
  return String.ofList name

/-- Where a name says that something is written. -/
def target : Reader Target := do
  match ← fileName with
  | "/dev/stdout" => return .output
  | "/dev/stderr" => return .complaints
  | path => return .file path

def label : Reader String := do
  skipBlanks
  return String.ofList (← takeWhile fun c => !(" \t\n\r;\x7d".toList.contains c))

def parts : (fuel : Nat) → List Char → List Part
  | 0, _ | _, [] => []
  | fuel + 1, '\\' :: s =>
    match s with
    | 'U' :: s => .case .upper :: parts fuel s
    | 'L' :: s => .case .lower :: parts fuel s
    | 'E' :: s => .case .plain :: parts fuel s
    | 'u' :: s => .once .upper :: parts fuel s
    | 'l' :: s => .once .lower :: parts fuel s
    | _ =>
      match escape? s, s with
      | some (c, rest), _ => .char c :: parts fuel rest
      | none, c :: rest =>
        if c.isDigit then .group (c.toNat - '0'.toNat) :: parts fuel rest
        else .char c :: parts fuel rest
      | none, [] => []
  | fuel + 1, '&' :: s => .group 0 :: parts fuel s
  | fuel + 1, c :: s => .char c :: parts fuel s

/-- The marks behind a substitution. -/
structure Marks where
  style : Regex.Style
  everywhere : Bool := false
  print : Bool := false
  occurrence : Option Nat := none
  target : Option Target := none

/-- Reads the marks behind a substitution, and its end. -/
def marks : (fuel : Nat) → Marks → Reader Marks
  | 0, m => return m
  | fuel + 1, m => do
    skipBlanks
    match ← peek with
    | none | some '\x7d' | some '#' => return m
    | some c =>
      if c.isDigit then
        let n ← number
        if m.occurrence.isSome then fail "multiple number options to `s' command"
        if n = 0 then fail "number option to `s' command may not be zero"
        marks fuel { m with occurrence := some n }
      else
        let _ ← next
        match c with
        | '\n' | ';' => return m
        | 'i' | 'I' => marks fuel { m with style := { m.style with ignoreCase := true } }
        | 'm' | 'M' => marks fuel { m with style := { m.style with byLine := true } }
        | 'g' =>
          if m.everywhere then fail "multiple `g' options to `s' command"
          marks fuel { m with everywhere := true }
        | 'p' =>
          if m.print then fail "multiple `p' options to `s' command"
          marks fuel { m with print := true }
        | 'w' => return { m with target := some (← target) }
        | _ => fail "unknown option to `s'"

def highestGroup (parts : List Part) : Nat :=
  parts.foldl (fun n p => match p with
    | .group m => max n m
    | _ => n) 0

def substitution (style : Regex.Style) : Reader Substitution := do
  let unterminated := "unterminated `s' command"
  let delimiter := (← next).getD '\n'
  let pattern ← delimited delimiter true unterminated
  let replacement ← delimited delimiter false unterminated
  let m ← marks ((← get).rest.length + 1) { style }
  let e ← expression m.style pattern
  let parts := parts (replacement.length + 1) replacement
  let groups := Regex.countGroups m.style (String.ofList (controls pattern))
  if e.isSome && groups < highestGroup parts then
    fail ("invalid reference \\" ++ toString (highestGroup parts) ++ " on `s' command's RHS")
  return {
    expression := e
    parts
    everywhere := m.everywhere
    occurrence := m.occurrence.getD 1
    print := m.print
    target := m.target }

def exchanged (s : List Char) : List Char :=
  let s := unescape (s.length + 1) s
  let rec strip : List Char → List Char
    | '\\' :: '\\' :: s => '\\' :: strip s
    | c :: s => c :: strip s
    | [] => []
  strip s

def exchange : Reader Action := do
  let unterminated := "unterminated `y' command"
  let delimiter := (← next).getD '\n'
  let source := exchanged (← delimited delimiter false unterminated)
  let goal := exchanged (← delimited delimiter false unterminated)
  if source.length ≠ goal.length then fail "strings for `y' command are different lengths"
  endOfCommand
  return .replaceChars source goal

/-- A number behind a command, and its end. -/
def optionalNumber : Reader (Option Nat) := do
  skipBlanks
  let digits ← takeWhile Char.isDigit
  endOfCommand
  return Text.natural? digits

/-- The commands that are a letter and nothing else. -/
def plainActions : List (Char × Action) := [
  ('=', .number), ('d', .delete), ('D', .deleteFirst), ('F', .showName),
  ('g', .holdToSpace false), ('G', .holdToSpace true), ('h', .spaceToHold false),
  ('H', .spaceToHold true), ('n', .next), ('N', .addNext), ('p', .print), ('P', .printFirst),
  ('x', .exchange), ('z', .clear)]

/-- The action of a command, whose letter has been read, but for blocks and labels. -/
def action (style : Regex.Style) (letter : Char) (isRange : Bool) : Reader Action := do
  let onlyOne : Reader Unit := if isRange then fail "command only uses one address" else pure ()
  match plainActions.lookup letter with
  | some a =>
    endOfCommand
    return a
  | none =>
    match letter with
    | 'a' => return .append (← text)
    | 'i' => return .insert (← text)
    | 'c' => return .change (← text)
    | 'b' | 't' | 'T' =>
      let name ← label
      endOfCommand
      return if letter = 'b' then .jump name
        else if letter = 't' then .jumpIfReplaced name else .jumpUnlessReplaced name
    | 'l' => return .list (← optionalNumber)
    | 'q' =>
      onlyOne
      return .quit ((← optionalNumber).getD 0)
    | 'Q' =>
      onlyOne
      return .quitAtOnce ((← optionalNumber).getD 0)
    | 'r' => return .readFile (← fileName)
    | 'R' => return .readLine (← fileName)
    | 'w' => return .write (← target)
    | 'W' => return .writeFirst (← target)
    | 's' => return .substitute (← substitution style)
    | 'y' => exchange
    | _ => fail ("unknown command: `" ++ letter.toString ++ "'")

def add (c : Command) : Reader Unit := modify fun r => { r with commands := r.commands.push c }

def command (style : Regex.Style) : Reader Unit := do
  let found ← lines style
  let isRange := match found with
    | .range _ _ => true
    | _ => false
  let isBare := match found with
    | .all => true
    | _ => false
  skipBlanks
  let negated ← accept '!'
  if negated then
    skipBlanks
    if ← accept '!' then fail "multiple `!'s"
  match ← next with
  | none | some '\n' | some ';' => fail "missing command"
  | some '#' =>
    if !isBare then fail "comments don't accept any addresses"
    skipWhile (· ≠ '\n')
  | some '\x7b' =>
    modify fun r => { r with blocks := r.commands.size :: r.blocks }
    add { lines := found, negated, action := .open 0 }
  | some '\x7d' =>
    match (← get).blocks with
    | [] => fail "unexpected `\x7d'"
    | start :: blocks =>
      if !isBare then fail "`\x7d' doesn't want any addresses"
      endOfCommand
      modify fun r => { r with
        blocks
        commands := r.commands.modify start fun c => { c with action := .open r.commands.size } }
      add { action := .close }
  | some ':' =>
    if !isBare then fail ": doesn't want any addresses"
    let name ← label
    if name.isEmpty then fail "\":\" lacks a label"
    modify fun r => { r with labels := (name, r.commands.size) :: r.labels }
    endOfCommand
  | some letter => add { lines := found, negated, action := ← action style letter isRange }

def commands (style : Regex.Style) : (fuel : Nat) → Reader Unit
  | 0 => return ()
  | fuel + 1 => do
    skipWhile fun c => c = ';' || Regex.isSpace c
    if (← peek).isNone then return ()
    command style
    commands style fuel

def jumpLabel? : Action → Option String
  | .jump name | .jumpIfReplaced name | .jumpUnlessReplaced name =>
    if name.isEmpty then none else some name
  | _ => none

def script (style : Regex.Style) (s : List Char) : Except Fault Script := do
  let (_, r) ← (commands style (s.length + 1)).run { rest := s }
  if !r.blocks.isEmpty then throw (.whole "unmatched `\x7b'")
  for c in r.commands do
    match jumpLabel? c.action with
    | some name =>
      if (r.labels.lookup name).isNone then
        throw (.plain ("can't find label for jump to `" ++ name ++ "'"))
    | none => pure ()
  let quiet := match s with
    | '#' :: 'n' :: rest => rest.isEmpty || rest.head? = some '\n'
    | _ => false
  return { commands := r.commands, labels := r.labels, quiet }

end Read

end Formulary.Host.Tool.Sed
