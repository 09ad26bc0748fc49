import Formulary.Machine.Host.Script.Syntax
import Formulary.Machine.Process

/-!
# Scripts: reading

Reading commands from the text of a script. The text of a here-document stands after the line that
asks for it; it is taken out when the request is read. Every reader takes fuel, which bounds how
deep commands and words are nested and how long they are.
-/

namespace Formulary.Host.Script

/-- What is left to read. -/
structure Input where
  rest : List Char
  /-- The line of the next character. -/
  line : Nat := 1
  /-- Lines that were taken out behind the present one. -/
  skipped : Nat := 0
  /-- Words that stand for other texts where a command begins. -/
  aliases : List (String × String) := []
  /-- The aliases whose texts are being read, each with how much is left behind its text. -/
  inside : List (String × Nat) := []
  /-- How much is left where a word counts as the beginning of a command as well, because the text
  of an alias before it ends with a blank. -/
  chained : Option Nat := none

/-- Why a script cannot be read, and where. -/
structure SyntaxFault where
  line : Nat
  reason : String

abbrev Reader := StateT Input (Except SyntaxFault)

namespace Read

/-! ### Characters -/

def fail {α : Type} (reason : String) : Reader α := do
  throw ⟨(← get).line, reason⟩

def peek : Reader (Option Char) := return (← get).rest.head?

/-- The next characters are these; they stay. -/
def looksAt (s : String) : Reader Bool := return s.toList.isPrefixOf (← get).rest

def stepInput (i : Input) : Input :=
  match i.rest with
  | '\n' :: rest => { i with rest, line := i.line + 1 + i.skipped, skipped := 0 }
  | _ :: rest => { i with rest }
  | [] => i

def skip : Reader Unit := modify stepInput

def skipMany (n : Nat) : Reader Unit :=
  modify fun i => (List.range n).foldl (fun i _ => stepInput i) i

def next : Reader (Option Char) := do
  let c ← peek
  skip
  return c

/-- Passes over characters if they come next. -/
def accept (s : String) : Reader Bool := do
  if ← looksAt s then
    skipMany s.length
    return true
  else return false

/-- Takes the next characters as long as they are of a kind. -/
def takeWhile (p : Char → Bool) : Reader String := do
  let taken := (← get).rest.takeWhile p
  skipMany taken.length
  return String.ofList taken

def endsWord (c : Char) : Bool := " \t\n;&|<>()".toList.contains c

/-- Passes over blanks, joined lines and a comment. -/
def skipBlanks : Reader Unit := modify fun i => go i.rest.length i
where
  go : Nat → Input → Input
    | 0, i => i
    | fuel + 1, i =>
      match i.rest with
      | ' ' :: _ | '\t' :: _ => go fuel (stepInput i)
      | '\\' :: '\n' :: _ => go fuel (stepInput (stepInput i))
      | '#' :: rest => { i with rest := rest.dropWhile (· ≠ '\n') }
      | _ => i

def skipLines : Reader Unit := do
  modify fun i => go i.rest.length i
where
  go : Nat → Input → Input
    | 0, i => i
    | fuel + 1, i =>
      let i := skipBlanks.go i.rest.length i
      match i.rest with
      | '\n' :: _ => go fuel (stepInput i)
      | _ => i

/-! ### Words -/

/-- Where a word is being read, which says where it ends and what is special in it. -/
inductive Mode where
  /-- On its own. -/
  | bare
  /-- Between double quotes. -/
  | quoted
  /-- Inside braces. -/
  | braced
  /-- Inside braces between double quotes. -/
  | bracedQuoted
  /-- Inside an arithmetic expression. -/
  | arithmetic
  /-- In a here-document. -/
  | here
  deriving DecidableEq

namespace Mode

/-- The mode keeps its characters from being cut up. -/
def protects : Mode → Bool
  | bare | braced => false
  | _ => true

/-- What a backslash protects there; everything where there are no quotes. -/
def escapes (m : Mode) (c : Char) : Bool :=
  match m with
  | bare | braced => true
  | quoted => "$\\\"\n".toList.contains c || c.toNat = 0x60
  | bracedQuoted => "$\\\"\x7d\n".toList.contains c || c.toNat = 0x60
  | arithmetic | here => "$\\\n".toList.contains c || c.toNat = 0x60

end Mode

def addText (pieces : List Piece) (s : String) (quoted : Bool) : List Piece :=
  match pieces with
  | .text t q :: rest => if q = quoted then .text (t ++ s) q :: rest else .text s quoted :: pieces
  | _ => .text s quoted :: pieces

/-- What stands in backquotes, with its own backslashes taken off. -/
def backquoted : Nat → List Char → Reader (List Char)
  | 0, _ => fail "EOF in backquote substitution"
  | fuel + 1, out => do
    match ← next with
    | none => fail "EOF in backquote substitution"
    | some c =>
      if c.toNat = 0x60 then return out.reverse
      else if c = '\\' then
        match ← next with
        | some d =>
          if d = '$' || d = '\\' || d.toNat = 0x60 then backquoted fuel (d :: out)
          else backquoted fuel (d :: c :: out)
        | none => backquoted fuel (c :: out)
      else backquoted fuel (c :: out)

def singleQuoted : Reader String := do
  let s ← takeWhile (· ≠ '\'')
  if (← next).isNone then fail "Unterminated quoted string"
  return s

/-- The readers of commands that words need. -/
structure Commands where
  /-- A list of commands, up to something that cannot belong to it. -/
  list : Reader Command
  /-- Such a list, which may be empty. -/
  anyList : Reader Command

/-! ### What cannot stand where it stands -/

/-- The words that begin, part or end commands. -/
def reserved : List String :=
  ["if", "then", "else", "elif", "fi", "do", "done", "case", "esac", "while", "until", "for",
    "in", "\x7b", "\x7d", "!"]

def doubleSigns : List String := ["&&", "||", ";;"]

def inQuotes (s : String) : String := "\"" ++ s ++ "\""

def nextCalled : Reader String := do
  let i ← get
  match i.rest with
  | [] => return "end of file"
  | '\n' :: _ => return "newline"
  | c :: rest =>
    let word := String.ofList (i.rest.takeWhile fun c => !endsWord c)
    let sign := String.ofList (c :: rest.take 1)
    if reserved.contains word then return inQuotes word
    else if !word.isEmpty then return "word"
    else if c = '<' || c = '>' then return "redirection"
    else return inQuotes (if doubleSigns.contains sign then sign else c.toString)

/-- A complaint about the next thing; behind a line end it counts for the next line. -/
def failAtNext {α : Type} (reason : String) : Reader α := do
  if (← peek) = some '\n' then skip
  fail reason

def unexpected {α : Type} : Reader α := do
  let called ← nextCalled
  failAtNext (called ++ " unexpected")

/-- The next thing cannot stand here, where something else must stand. -/
def unexpectedBut {α : Type} (wanted : String) : Reader α := do
  let called ← nextCalled
  failAtNext (called ++ " unexpected (expecting " ++ wanted ++ ")")

/-- The next thing cannot stand here, where a bracket must be closed and no word is reserved. -/
def unclosed {α : Type} : Reader α := do
  let called ← nextCalled
  let isWord := (reserved.map inQuotes).contains called
  let found := if isWord then "word" else called
  failAtNext (found ++ " unexpected (expecting " ++ inQuotes ")" ++ ")")

/-! ### Pieces of words -/

/-- The word behind a change of a variable, up to the closing brace. -/
abbrev WordReader := Mode → Reader (List Piece)

/-- What a change does, read from its sign. -/
def change (word : WordReader) (quoted : Bool) : Reader Change := do
  let inner : Mode := if quoted then .bracedQuoted else .braced
  if ← accept "##" then return .trimStart true (← word .braced)
  if ← accept "#" then return .trimStart false (← word .braced)
  if ← accept "%%" then return .trimEnd true (← word .braced)
  if ← accept "%" then return .trimEnd false (← word .braced)
  let alsoEmpty ← accept ":"
  match ← next with
  | some '-' => return .default alsoEmpty (← word inner)
  | some '=' => return .assign alsoEmpty (← word inner)
  | some '?' => return .demand alsoEmpty (← word inner)
  | some '+' => return .alternative alsoEmpty (← word inner)
  | some '\x7d' =>
    let _ ← word inner
    return .plain
  | some _ =>
    let _ ← word inner
    return .unknown
  | none => fail "Missing '\x7d'"

/-- The name of a variable, or the number of a parameter. -/
def variableName : Reader String := do
  match ← peek with
  | some c => takeWhile (if c.isDigit then Char.isDigit else Environment.isNameChar)
  | none => return ""

/-- A variable in braces, behind the opening one. -/
def braces (word : WordReader) (quoted : Bool) : Reader Piece := do
  let special (c : Char) : Bool := "?@*#$!-".toList.contains c
  if (← looksAt "#") && !(← looksAt "#\x7d") && !(← looksAt "#-") && !(← looksAt "#:") then
    skip
    let name ← variableName
    let name ← if name.isEmpty then do
        match ← next with
        | some c => pure c.toString
        | none => fail "Missing '\x7d'"
      else pure name
    if ← accept "\x7d" then return .variable name .length quoted
    let _ ← word (if quoted then .bracedQuoted else .braced)
    if ← accept "\x7d" then return .variable name .unknown quoted
    fail "Missing '\x7d'"
  let name ← variableName
  let name ← if name.isEmpty then do
      match ← peek with
      | some c =>
        if special c then
          skip
          pure c.toString
        else pure ""
      | none => fail "Missing '\x7d'"
    else pure name
  if name.isEmpty then
    let _ ← word (if quoted then .bracedQuoted else .braced)
    if ← accept "\x7d" then return .variable name .unknown quoted
    fail "Missing '\x7d'"
  if ← accept "\x7d" then return .variable name .plain quoted
  let c ← change word quoted
  if ← accept "\x7d" then return .variable name c quoted
  fail "Missing '\x7d'"

def dollar (commands : Commands) (word : WordReader) (quoted : Bool) : Reader (Option Piece) := do
  if ← accept "((" then
    let expression ← word .arithmetic
    if ← accept "))" then return some (.number expression quoted)
    fail "Missing '))'"
  if ← accept "(" then
    let body ← commands.anyList
    if ← accept ")" then return some (.output body quoted)
    unexpectedBut (inQuotes ")")
  if ← accept "\x7b" then return some (← braces word quoted)
  match ← peek with
  | some c =>
    if c.isAlpha || c = '_' then
      return some (.variable (← takeWhile Environment.isNameChar) .plain quoted)
    else if c.isDigit || "?@*#$!-".toList.contains c then
      skip
      return some (.variable c.toString .plain quoted)
    else return none
  | none => return none

/-- The pieces between double quotes; an empty one stands for the quotes themselves, unless all
parameters are there on their own. -/
def closeQuotes (inner : List Piece) : List Piece :=
  match inner with
  | [.variable "@" .plain _] => inner
  | _ => inner ++ [.text "" true]

/-- The pieces of a word, last first, up to where its mode ends it. `depth` counts open brackets of
an arithmetic expression. -/
def pieces (commands : Commands) (word : WordReader) (mode : Mode) :
    Nat → Nat → List Piece → Reader (List Piece)
  | 0, _, _ => fail "word too long"
  | fuel + 1, depth, out => do
    match ← peek with
    | none =>
      match mode with
      | .bare | .here => return out
      | .quoted | .bracedQuoted => fail "Unterminated quoted string"
      | .braced => fail "Missing '\x7d'"
      | .arithmetic => fail "Missing '))'"
    | some c =>
      match mode, c with
      | .bare, _ =>
        if endsWord c then return out
      | .quoted, '"' => return out
      | .braced, '}' => return out
      | .bracedQuoted, '}' => return out
      | .arithmetic, ')' =>
        if depth = 0 then return out
        skip
        return ← pieces commands word mode fuel (depth - 1) (addText out ")" true)
      | .arithmetic, '(' =>
        skip
        return ← pieces commands word mode fuel (depth + 1) (addText out "(" true)
      | _, _ => pure ()
      skip
      if c = '\\' then
        match ← peek with
        | none => pieces commands word mode fuel depth (addText out "\\" true)
        | some d =>
          if d = '\n' then
            skip
            pieces commands word mode fuel depth out
          else if mode.escapes d then
            skip
            pieces commands word mode fuel depth (addText out d.toString true)
          else pieces commands word mode fuel depth (addText out "\\" true)
      else if c = '$' then
        match ← dollar commands word mode.protects with
        | some piece => pieces commands word mode fuel depth (piece :: out)
        | none => pieces commands word mode fuel depth (addText out "$" mode.protects)
      else if c.toNat = 0x60 then
        let inner ← backquoted (← get).rest.length.succ []
        let outer ← get
        set { outer with rest := inner }
        let body ← commands.anyList
        set outer
        pieces commands word mode fuel depth (.output body mode.protects :: out)
      else if c = '\'' && !mode.protects then
        let s ← singleQuoted
        pieces commands word mode fuel depth (addText out s true)
      else if c = '"' && (mode = .bare || mode = .braced) then
        let inner ← word .quoted
        skip
        pieces commands word mode fuel depth ((closeQuotes inner).reverse ++ out)
      else if c = '"' && mode = .bracedQuoted then
        pieces commands word mode fuel depth out
      else
        let plain (d : Char) : Bool :=
          !endsWord d && !"\\$'\"\x7d".toList.contains d && d.toNat ≠ 0x60
        let more ← if plain c then takeWhile plain else pure ""
        pieces commands word mode fuel depth (addText out (c.toString ++ more) mode.protects)

/-- The word reader for a depth of nesting. -/
def wordAt (commands : Commands) : Nat → WordReader
  | 0, _ => fail "words nested too deep"
  | depth + 1, mode => do
    let fuel := (← get).rest.length + 1
    return (← pieces commands (wordAt commands depth) mode fuel 0 []).reverse

def deepestWord : Nat := 100

/-- A word; none if there is none here. -/
def word? (commands : Commands) : Reader (Option Word) := do
  match ← peek with
  | none => return none
  | some c =>
    if endsWord c then return none
    else return some (← wordAt commands deepestWord .bare)

/-! ### Redirections -/

/-- The characters of a word without its quotes, and whether it had any. -/
def plainText (w : Word) : String × Bool :=
  w.foldl (fun (s, quoted) piece =>
    match piece with
    | .text t q => (s ++ t, quoted || q)
    | .variable name _ q => (s ++ "$" ++ name, quoted || q)
    | _ => (s, quoted)) ("", false)

/-- The lines before a closing line, each with its end, what follows it, and how many line ends
that takes. -/
def hereLines (stripTabs : Bool) (closing : List Char) :
    Nat → List (List Char) → List Char → List Char × List Char × Nat
  | 0, out, s => (out.reverse.flatten, s, out.length)
  | fuel + 1, out, s =>
    if s.isEmpty then
      let text := out.reverse.flatten
      (text, s, text.count '\n')
    else
      let line := s.takeWhile (· ≠ '\n')
      let behind := s.drop line.length
      let line := if stripTabs then line.dropWhile (· = '\t') else line
      if line = closing then (out.reverse.flatten, behind.drop 1, out.length + 1)
      else hereLines stripTabs closing fuel ((line ++ behind.take 1) :: out) (behind.drop 1)

/-- A here-document: its text is taken out from behind the present line. -/
def hereDocument (commands : Commands) (stripTabs : Bool) : Reader (List Piece) := do
  skipBlanks
  match ← word? commands with
  | none => unexpected
  | some w =>
    let (closing, quoted) := plainText w
    let i ← get
    let line := i.rest.takeWhile (· ≠ '\n')
    let behind := (i.rest.drop line.length).drop 1
    let (body, rest, count) := hereLines stripTabs closing.toList (behind.length + 1) [] behind
    let i := { i with
      rest := if line.length = i.rest.length then line else line ++ '\n' :: rest
      skipped := i.skipped + count }
    if quoted then
      set i
      return [.text (String.ofList body) true]
    else
      set { i with rest := body }
      let pieces ← wordAt commands deepestWord .here
      set i
      return pieces

/-- A redirection; none if there is none here. -/
def redirection? (commands : Commands) : Reader (Option Redirection) := do
  let start ← get
  let digits := (start.rest.takeWhile Char.isDigit).take 1
  skipMany digits.length
  let target : Reader Word := do
    skipBlanks
    match ← word? commands with
    | some w => return w
    | none => unexpected
  let fd (absent : Nat) : Nat := (Text.natural? digits).getD absent
  if ← accept "<<-" then return some (.here (fd 0) (← hereDocument commands true))
  if ← accept "<<" then return some (.here (fd 0) (← hereDocument commands false))
  if ← accept "<&" then return some (.copy (fd 0) (← target))
  if ← accept "<>" then return some (.change (fd 0) (← target))
  if ← accept "<" then return some (.input (fd 0) (← target))
  if ← accept ">>" then return some (.output (fd 1) .append (← target))
  if ← accept ">&" then return some (.copy (fd 1) (← target))
  if ← accept ">|" then return some (.output (fd 1) .empty (← target))
  if ← accept ">" then return some (.output (fd 1) .careful (← target))
  set start
  return none

def redirections (commands : Commands) : Nat → Reader (List Redirection)
  | 0 => return []
  | fuel + 1 => do
    skipBlanks
    match ← redirection? commands with
    | some r => return r :: (← redirections commands fuel)
    | none => return []

/-! ### Commands -/

/-- The reserved word that comes next; it stays. -/
def reserved? : Reader (Option String) := do
  let s := (← get).rest.takeWhile fun c => !endsWord c
  let s := String.ofList s
  return if reserved.contains s then some s else none

def expect (s : String) : Reader Unit := do
  skipLines
  if (← reserved?) = some s then skipMany s.length else unexpectedBut (inQuotes s)

/-- Puts the text of an alias in the place of the next word, unless that word comes from the text
itself. -/
def expandAlias : Nat → Reader Unit
  | 0 => return ()
  | fuel + 1 => do
    let i ← get
    if i.aliases.isEmpty then return ()
    let word := i.rest.takeWhile fun c => !endsWord c
    let name := String.ofList word
    let isInside := i.inside.any fun entry => entry.1 = name && entry.2 < i.rest.length
    match i.aliases.lookup name, isInside with
    | some text, false =>
      let behind := i.rest.drop word.length
      let isOpen := text.toList.getLast?.any fun c => c = ' ' || c = '\t'
      set { i with
        rest := text.toList ++ behind
        chained := if isOpen then some (behind.dropWhile fun c => c = ' ' || c = '\t').length
          else i.chained
        inside := (name, behind.length) :: i.inside.filter fun e => e.2 < i.rest.length }
      skipBlanks
      expandAlias fuel
    | _, _ => return ()

/-- How many aliases stand for one another at most. -/
def mostAliases : Nat := 100

/-- A word that assigns: the name and the value. -/
def assignment? (w : Word) : Option (String × Word) :=
  match w with
  | .text s false :: rest =>
    match s.toList.span (· ≠ '=') with
    | (name, _ :: value) =>
      let name := String.ofList name
      if Environment.isName name then
        some (name, if value.isEmpty then rest else .text (String.ofList value) false :: rest)
      else none
    | (_, []) => none
  | _ => none

/-- Assignments, words and redirections of a simple command, each last first. -/
structure Draft where
  assignments : List (String × Word) := []
  words : List Word := []
  redirections : List Redirection := []

def parts (commands : Commands) : Nat → Draft → Reader Draft
  | 0, d => return d
  | fuel + 1, d => do
    skipBlanks
    match ← redirection? commands with
    | some r => parts commands fuel { d with redirections := r :: d.redirections }
    | none =>
      let i ← get
      if d.words.isEmpty || i.chained = some i.rest.length then expandAlias mostAliases
      match ← word? commands with
      | none => return d
      | some w =>
        match d.words, assignment? w with
        | [], some a => parts commands fuel { d with assignments := a :: d.assignments }
        | _, _ =>
          let d := { d with words := w :: d.words }
          if d.words.length = 1 && (← looksAt "(") then return d
          parts commands fuel d

/-- The words behind `in`, up to the end of the line. -/
def listedWords (commands : Commands) : Nat → Reader (List Word)
  | 0 => return []
  | fuel + 1 => do
    skipBlanks
    match ← word? commands with
    | some w => return w :: (← listedWords commands fuel)
    | none => return []

/-- The patterns of an arm, parted by bars. -/
def patterns (commands : Commands) : Nat → Reader (List Word)
  | 0 => return []
  | fuel + 1 => do
    skipBlanks
    match ← word? commands with
    | none =>
      -- a sign stands for a word here
      match ← peek with
      | none => unclosed
      | some c =>
        skipMany (if doubleSigns.contains (String.ofList ((← get).rest.take 2)) then 2 else 1)
        if c = '\n' then unclosed
        skipBlanks
        if ← accept "|" then return [] :: (← patterns commands fuel)
        return [[]]
    | some w =>
      skipBlanks
      if ← accept "|" then return w :: (← patterns commands fuel)
      return [w]

def arms (commands : Commands) : Nat → Reader (List (List Word × Command))
  | 0 => return []
  | fuel + 1 => do
    skipLines
    if (← reserved?) = some "esac" then return []
    let _ ← accept "("
    if (← peek).isNone then unexpectedBut (inQuotes ")")
    let ps ← patterns commands ((← get).rest.length + 1)
    skipBlanks
    if !(← accept ")") then unclosed
    let body ← commands.anyList
    skipLines
    if ← accept ";;" then return (ps, body) :: (← arms commands fuel)
    if (← reserved?) ≠ some "esac" then unexpectedBut (inQuotes ";;")
    return [(ps, body)]

def conditionalRest (commands : Commands) : Nat → Reader Command
  | 0 => unexpected
  | fuel + 1 => do
    let test ← commands.list
    expect "then"
    let yes ← commands.list
    skipLines
    match ← reserved? with
    | some "elif" =>
      skipMany 4
      return .conditional test yes (← conditionalRest commands fuel)
    | some "else" =>
      skipMany 4
      let no ← commands.list
      expect "fi"
      return .conditional test yes no
    | _ =>
      expect "fi"
      return .conditional test yes (.sequence [])

def forRest (commands : Commands) (line : Nat) : Reader Command := do
  skipBlanks
  let name ← takeWhile Environment.isNameChar
  if !Environment.isName name then fail "Bad for loop variable"
  skipLines
  let words ← if (← get).rest.takeWhile (fun c => !endsWord c) = ['i', 'n'] then do
      skipMany 2
      pure (some (← listedWords commands ((← get).rest.length + 1)))
    else pure none
  skipBlanks
  let isClosed := ((← looksAt ";") && !(← looksAt ";;")) || (← looksAt "\n")
  if words.isSome && !isClosed then unexpected
  let _ ← accept ";"
  expect "do"
  let body ← commands.list
  expect "done"
  return .forEach line name words body

def choiceRest (commands : Commands) (line : Nat) : Reader Command := do
  skipBlanks
  match ← word? commands with
  | none => unexpectedBut "word"
  | some w =>
    skipLines
    if (← get).rest.takeWhile (fun c => !endsWord c) ≠ ['i', 'n'] then
      unexpectedBut (inQuotes "in")
    skipMany 2
    let a ← arms commands ((← get).rest.length + 1)
    expect "esac"
    return .choice line w a

/-- A command with a reserved word or a bracket at its start; none if there is none here. -/
def compound? (commands : Commands) : Reader (Option Command) := do
  let line := (← get).line
  if ← accept "(" then
    let body ← commands.list
    skipLines
    if !(← accept ")") then unexpectedBut (inQuotes ")")
    return some (.subshell line body [])
  match ← reserved? with
  | some "\x7b" =>
    skip
    let body ← commands.list
    expect "\x7d"
    return some body
  | some "if" =>
    skipMany 2
    return some (← conditionalRest commands ((← get).rest.length + 1))
  | some "while" =>
    skipMany 5
    let test ← commands.list
    expect "do"
    let body ← commands.list
    expect "done"
    return some (.loop false test body)
  | some "until" =>
    skipMany 5
    let test ← commands.list
    expect "do"
    let body ← commands.list
    expect "done"
    return some (.loop true test body)
  | some "for" =>
    skipMany 3
    return some (← forRest commands line)
  | some "case" =>
    skipMany 4
    return some (← choiceRest commands line)
  | some _ => unexpected
  | none => return none

/-- A command with its redirections; `fuel` bounds how many functions define one another. -/
def command (commands : Commands) : (fuel : Nat) → Reader Command
  | 0 => fail "commands nested too deep"
  | fuel + 1 => do
    expandAlias mostAliases
    let line := (← get).line
    match ← compound? commands with
    | some body =>
      match ← redirections commands ((← get).rest.length + 1), body with
      | [], body => return body
      | rs, .subshell start body _ => return .subshell start body rs
      | rs, body => return .redirected line body rs
    | none =>
      let d ← parts commands ((← get).rest.length + 1) {}
      match d.words, d.assignments, d.redirections with
      | [w], [], [] =>
        if ← accept "(" then
          skipBlanks
          if !(← accept ")") then unclosed
          skipLines
          return .define (plainText w).1 (← command commands fuel)
      | [], [], [] => unexpected
      | _, _, _ => pure ()
      return .simple line d.assignments.reverse d.words.reverse d.redirections.reverse

/-- How many functions define one another at most. -/
def deepestDefinition : Nat := 20

/-- The stages of a pipeline behind its first. -/
def stages (commands : Commands) : Nat → Reader (List Command)
  | 0 => return []
  | fuel + 1 => do
    skipBlanks
    if (← looksAt "|") && !(← looksAt "||") then
      skip
      skipLines
      let c ← command commands deepestDefinition
      return c :: (← stages commands fuel)
    else return []

def pipeline (commands : Commands) : Reader Command := do
  skipBlanks
  let negated := (← reserved?) = some "!"
  if negated then
    skip
    skipBlanks
  let first ← command commands deepestDefinition
  let more ← stages commands ((← get).rest.length + 1)
  let body : Command := if more.isEmpty then first else .pipeline (first :: more)
  return if negated then .negated body else body

/-- Pipelines behind a first one, each depending on how it went so far. -/
def chain (commands : Commands) : Nat → Command → Reader Command
  | 0, c => return c
  | fuel + 1, c => do
    skipBlanks
    if ← accept "&&" then
      skipLines
      chain commands fuel (.both c (← pipeline commands))
    else if ← accept "||" then
      skipLines
      chain commands fuel (.either c (← pipeline commands))
    else return c

/-- Nothing more can belong to a list of commands. -/
def listEnds : Reader Bool := do
  match (← get).rest with
  | [] | ')' :: _ | ';' :: ';' :: _ => return true
  | _ =>
    match ← reserved? with
    | some s => return ["then", "else", "elif", "fi", "do", "done", "esac", "\x7d"].contains s
    | none => return false

/-- The commands of a list, last first. On one line only if so asked. -/
def items (commands : Commands) (oneLine : Bool) : Nat → List Command → Reader (List Command)
  | 0, _ => fail "script too long"
  | fuel + 1, out => do
    if oneLine then skipBlanks else skipLines
    if ← listEnds then
      if oneLine && (← peek).isSome then unexpected
      return out
    if oneLine && (← looksAt "\n") then
      skip
      return out
    let c ← chain commands ((← get).rest.length + 1) (← pipeline commands)
    skipBlanks
    if ← accept "&" then items commands oneLine fuel (.background c :: out)
    else if (← looksAt ";") && !(← looksAt ";;") then
      skip
      items commands oneLine fuel (c :: out)
    else if ← looksAt "\n" then
      skip
      if oneLine then return c :: out else items commands oneLine fuel (c :: out)
    else if !oneLine || (← peek).isNone then return c :: out
    else unexpected

/-- The readers of commands for a depth of nesting. -/
def commandsAt : Nat → Commands
  | 0 => ⟨fail "commands nested too deep", fail "commands nested too deep"⟩
  | depth + 1 =>
    let read : Reader Command := do
      let list ← items (commandsAt depth) false ((← get).rest.length + 1) []
      return .sequence list.reverse
    { list := do
        skipLines
        if (← listEnds) && (← peek).isSome then unexpected
        read
      anyList := read }

def deepestCommand : Nat := 100

/-- The commands of the next line that has any; none at the end. -/
def line? : Reader (Option Command) := do
  skipLines
  if (← peek).isNone then return none
  let list ← items (commandsAt deepestCommand) true ((← get).rest.length + 1) []
  if list.isEmpty then unexpected
  return some (.sequence list.reverse)

end Read

end Formulary.Host.Script
