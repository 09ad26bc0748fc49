import Formulary.Machine.Host.Script.Pattern
import Formulary.Text.Octets

/-!
# Tools: regular expressions

Basic and extended regular expressions. A match begins as early as possible and is as long as
possible; among matches of one length, what stands earlier in the expression takes more. Matching
goes piece by piece, with all spots that can be reached so far, so that it never tries a way twice.
-/

namespace Formulary.Host.Tool

/-- A regular expression. -/
inductive Regex where
  /-- One character of a kind. -/
  | one (test : Char → Bool)
  /-- The start of the text. -/
  | start
  /-- The end of the text. -/
  | stop
  /-- The start of the text or of a line in it. -/
  | lineStart
  /-- The end of the text or of a line in it. -/
  | lineStop
  /-- A place where a word begins or ends, as the two flags say; where neither does if both are
  false. -/
  | edge (begins ends : Bool)
  /-- A place with no character of a word before it, or behind it if so marked. -/
  | apart (behind : Bool)
  /-- A group with a number. -/
  | group (number : Nat) (body : List (List Regex))
  /-- Any number of times between two bounds. -/
  | many (least : Nat) (most : Option Nat) (body : Regex)
  /-- The text of a group once more. -/
  | again (number : Nat)

instance : Inhabited Regex := ⟨.start⟩

namespace Regex

open Formulary.Host.Script (Pattern.kind?)

/-- How an expression is read. -/
structure Style where
  /-- Brackets, braces and the like are special without a backslash. -/
  extended : Bool := false
  /-- What is special and stands where it means nothing is an error, not a plain character. -/
  strict : Bool := true
  /-- Letters stand for those of either case. -/
  ignoreCase : Bool := false
  /-- A backslash makes kinds of digits and control characters as well. -/
  rich : Bool := false
  /-- The signs for the start and the end stand for those of lines as well. -/
  byLine : Bool := false

/-! ### Reading -/

/-- A part of an expression as it is written. -/
inductive Token where
  | opening
  | closing
  | bar
  | repeated (least : Nat) (most : Option Nat) (sign : Char)
  | atom (r : Regex)
  | caret
  | dollar

def isWordChar (c : Char) : Bool := c.isAlphanum || c = '_'

def isSpace (c : Char) : Bool := " \t\n\r\x0b\x0c".toList.contains c

/-- The most times something can be asked for. -/
def mostTimes : Nat := 32767

/-- What bounds between braces come to. -/
inductive Bounds where
  | known (least : Nat) (most : Option Nat) (rest : List Char)
  /-- They are none, for a reason. -/
  | unknown (reason : String)

/-- A bound up to a comma or the closing brace: its text, whether the brace closes it, and what
follows; none if the text ends before. -/
def bound? (extended : Bool) : List Char → Option (List Char × Bool × List Char)
  | [] => none
  | ',' :: rest => some ([], false, rest)
  | '\x7d' :: rest =>
    if extended then some ([], true, rest)
    else (bound? extended rest).map fun (s, b, r) => ('\x7d' :: s, b, r)
  | '\\' :: '\x7d' :: rest =>
    if extended then (bound? extended rest).map fun (s, b, r) => ('\x7d' :: s, b, r)
    else some ([], true, rest)
  | c :: rest => (bound? extended rest).map fun (s, b, r) => (c :: s, b, r)

/-- The bounds between braces, and what follows them. -/
def bounds (extended : Bool) (s : List Char) : Bounds :=
  let unmatched := Bounds.unknown "Unmatched \\\x7b"
  let wrong := Bounds.unknown "Invalid content of \\\x7b\\\x7d"
  let close (least : Nat) (most : Option Nat) (rest : List Char) : Bounds :=
    if most.any (· < least) then wrong
    else if mostTimes < most.getD least then .unknown "Regular expression too big"
    else .known least most rest
  match bound? extended s with
  | none => unmatched
  | some (low, true, rest) =>
    match Text.natural? low with
    | some n => close n (some n) rest
    | none => wrong
  | some (low, false, rest) =>
    let least := if low.isEmpty then some 0 else Text.natural? low
    match least, bound? extended rest with
    | _, none => unmatched
    | some least, some (high, true, rest) =>
      if high.isEmpty then close least none rest
      else match Text.natural? high with
        | some most => close least (some most) rest
        | none => wrong
    | _, _ => wrong

def escapedAtom (c : Char) : Regex :=
  match c with
  | 'w' => .one isWordChar
  | 'W' => .one fun c => !isWordChar c
  | 's' => .one isSpace
  | 'S' => .one fun c => !isSpace c
  | 'b' => .edge true true
  | 'B' => .edge false false
  | '<' => .edge true false
  | '>' => .edge false true
  | '\'' => .stop
  | _ =>
    if c.toNat = 0x60 then .start
    else if c.isDigit && c ≠ '0' then .again (c.toNat - '0'.toNat)
    else .one (· = c)

/-- The part behind a backslash where kinds of digits and control characters are known as well. -/
def richAtom (c : Char) : Regex :=
  match c with
  | 'd' => .one Char.isDigit
  | 'D' => .one fun c => !c.isDigit
  | 'n' => .one (· = '\n')
  | 't' => .one (· = '\t')
  | _ => escapedAtom c

/-- The complaint about a set that is not closed. -/
def unclosedSet : String := "Unmatched [, [^, [:, [., or [="

/-- An element of a set: a character or a named kind, and what follows it. -/
def element (s : List Char) : Except String (Char × Option (Char → Bool) × List Char) :=
  let upTo (mark : Char) (s : List Char) : Option (List Char × List Char) :=
    let rec find : List Char → List Char → Option (List Char × List Char)
      | out, c :: d :: rest =>
        if c = mark && d = ']' then some (out.reverse, rest) else find (c :: out) (d :: rest)
      | _, _ => none
    find [] s
  match s with
  | [] => .error unclosedSet
  | '[' :: ':' :: rest =>
    match upTo ':' rest with
    | none => .error unclosedSet
    | some (name, rest) =>
      match Pattern.kind? (String.ofList name) with
      | some kind => .ok (':', some kind, rest)
      | none => .error "Invalid character class name"
  | '[' :: '.' :: rest =>
    match upTo '.' rest with
    | some ([c], rest) => .ok (c, none, rest)
    | some _ => .error "Invalid collation character"
    | none => .error unclosedSet
  | '[' :: '=' :: rest =>
    match upTo '=' rest with
    | some ([c], rest) => .ok (c, some (· = c), rest)
    | some _ => .error "Invalid collation character"
    | none => .error unclosedSet
  | c :: rest => .ok (c, none, rest)

/-- The members of a set, and what follows its closing bracket. -/
def members : (fuel : Nat) → (started : Bool) → List (Char → Bool) → List Char →
    Except String (List (Char → Bool) × List Char)
  | 0, _, _, _ => .error unclosedSet
  | fuel + 1, started, out, s => do
    match s with
    | [] => throw unclosedSet
    | c :: rest =>
      if c = ']' && started then return (out, rest)
      let (a, kind, rest) ← element (c :: rest)
      match rest with
      | '-' :: ']' :: _ => members fuel true ((kind.getD (· = a)) :: out) rest
      | '-' :: more =>
        let (b, other, rest) ← element more
        if kind.isSome || other.isSome || b < a then throw "Invalid range end"
        members fuel true ((fun c => a ≤ c && c ≤ b) :: out) rest
      | _ => members fuel true ((kind.getD (· = a)) :: out) rest

/-- A set behind its opening bracket: its characters, and what follows it. -/
def set (s : List Char) : Except String ((Char → Bool) × List Char) := do
  let (negated, body) := match s with
    | '^' :: rest => (true, rest)
    | _ => (false, s)
  if body.isEmpty then throw "Invalid regular expression"
  let (tests, rest) ← members (body.length + 1) false [] body
  return (fun c => negated != tests.any fun test => test c, rest)

/-- The set looks like the name of a kind of characters without the brackets around it. -/
def isBareKind (s : List Char) : Bool :=
  match s with
  | ':' :: rest =>
    let body := rest.takeWhile (· ≠ ']')
    body.getLast? = some ':' && body.any (· ≠ ':') && !body.contains '['
  | _ => false

def bareKind : String := "character class syntax is [[:space:]], not [:space:]"

/-- The next part of an expression, and what follows it. -/
def token (style : Style) (s : List Char) : Except String (Option (Token × List Char)) := do
  let special (c : Char) (rest : List Char) : Except String (Option (Token × List Char)) := do
    match c with
    | '(' => return some (.opening, rest)
    | ')' => return some (.closing, rest)
    | '|' => return some (.bar, rest)
    | '+' => return some (.repeated 1 none '+', rest)
    | '?' => return some (.repeated 0 (some 1) '?', rest)
    | _ =>
      match bounds style.extended rest with
      | .known least most rest => return some (.repeated least most '\x7b', rest)
      | .unknown reason =>
        if style.extended && !style.strict then return some (.atom (.one (· = '\x7b')), rest)
        else throw reason
  let isSpecial (c : Char) : Bool := "()|+?\x7b".toList.contains c
  match s with
  | [] => return none
  | ['\\'] => throw "Trailing backslash"
  | '\\' :: c :: rest =>
    if isSpecial c && !style.extended then special c rest
    else return some (.atom (if style.rich then richAtom c else escapedAtom c), rest)
  | '*' :: rest => return some (.repeated 0 none '*', rest)
  | '.' :: rest => return some (.atom (.one fun _ => true), rest)
  | '^' :: rest => return some (.caret, rest)
  | '$' :: rest => return some (.dollar, rest)
  | '[' :: rest =>
    let (test, behind) ← set rest
    if isBareKind rest then throw bareKind
    return some (.atom (.one test), behind)
  | c :: rest =>
    if isSpecial c && style.extended then special c rest
    else return some (.atom (.one (· = c)), rest)

/-- A regular expression that is being read: the alternatives, the pieces of the last one, each last
first, the number of groups, and what is left. -/
structure Reading where
  alternatives : List (List Regex) := []
  pieces : List Regex := []
  groups : Nat := 0
  /-- Signs of repetition that had nothing to repeat. -/
  idle : List Char := []
  rest : List Char

def Reading.all (r : Reading) : List (List Regex) := (r.pieces.reverse :: r.alternatives).reverse

/-- Nothing has been read that could be repeated. -/
def Reading.isAtStart (r : Reading) : Bool :=
  match r.pieces with
  | [] | [.start] | [.lineStart] => true
  | _ => false

/-- The place is one where an expression may end. -/
def endsHere (extended : Bool) (s : List Char) : Bool :=
  match s with
  | [] => true
  | '\\' :: ')' :: _ | '\\' :: '|' :: _ => !extended
  | _ => false

def nothingBefore : String := "Invalid preceding regular expression"

/-- What a sign of repetition comes to where there is nothing to repeat: a plain character, or
nothing at all. -/
def idleSign (style : Style) (sign : Char) : Except String (Option Regex) :=
  if style.extended then
    if style.strict then .error nothingBefore else .ok none
  else if sign = '\x7b' && style.strict then .error nothingBefore
  else .ok (some (.one (· = sign)))

/-- Reads up to the end or a closing bracket. -/
def read (style : Style) : (fuel : Nat) → (depth : Nat) → Reading → Except String Reading
  | 0, _, _ => .error "Regular expression too big"
  | fuel + 1, depth, r => do
    let add (p : Regex) (rest : List Char) : Except String Reading :=
      read style fuel depth { r with pieces := p :: r.pieces, rest }
    match ← token style r.rest with
    | none => return r
    | some (.opening, rest) =>
      let number := r.groups + 1
      let inner ← read style fuel (depth + 1) { groups := number, idle := r.idle, rest }
      match ← token style inner.rest with
      | some (.closing, rest) =>
        read style fuel depth { r with
          pieces := .group number inner.all :: r.pieces
          groups := inner.groups
          idle := inner.idle
          rest }
      | _ => throw "Unmatched ( or \\("
    | some (.closing, rest) =>
      if 0 < depth then return r
      else if style.extended && !style.strict then add (.one (· = ')')) rest
      else throw "Unmatched ) or \\)"
    | some (.bar, rest) =>
      read style fuel depth { r with
        alternatives := r.pieces.reverse :: r.alternatives, pieces := [], rest }
    | some (.repeated least most sign, rest) =>
      match r.isAtStart, r.pieces with
      | false, p :: ps =>
        let isRepeated := match p with
          | .many _ _ _ => true
          | _ => false
        if isRepeated && style.strict && !style.extended && (sign = '*' || sign = '\x7b') then
          throw nothingBefore
        read style fuel depth { r with pieces := .many least most p :: ps, rest }
      | _, _ =>
        match ← idleSign style sign with
        | some p => add p rest
        | none => read style fuel depth { r with idle := sign :: r.idle, rest }
    | some (.caret, rest) =>
      if style.extended || r.pieces.isEmpty then
        add (if style.byLine then .lineStart else .start) rest
      else add (.one (· = '^')) rest
    | some (.dollar, rest) =>
      if style.extended || endsHere style.extended rest then
        add (if style.byLine then .lineStop else .stop) rest
      else add (.one (· = '$')) rest
    | some (.atom (.again n), rest) =>
      if r.groups < n then throw "Invalid back reference" else add (.again n) rest
    | some (.atom p, rest) => add p rest

def anyCase : (fuel : Nat) → Regex → Regex
  | 0, r => r
  | fuel + 1, r =>
    match r with
    | .one test => .one fun c => test c.toLower || test c.toUpper
    | .group n body => .group n (body.map fun a => a.map (anyCase fuel))
    | .many least most body => .many least most (anyCase fuel body)
    | r => r

def readAll (style : Style) (s : String) : Except String Reading :=
  read style (2 * s.length + 2) 0 { rest := s.toList }

abbrev Alternatives := List (List Regex)

def parse (style : Style) (s : String) : Except String Alternatives := do
  let r ← readAll style s
  return if style.ignoreCase then r.all.map fun a => a.map (anyCase (s.length + 1)) else r.all

def countGroups (style : Style) (s : String) : Nat :=
  ((readAll style s).toOption.map Reading.groups).getD 0

/-- The signs of repetition in an expression that have nothing to repeat, in order. -/
def idleSigns (style : Style) (s : String) : List Char :=
  ((readAll style s).toOption.map fun r => r.idle.reverse).getD []

/-- A text as an expression that only it matches. -/
def literally (ignoreCase : Bool) (s : List Char) : Alternatives :=
  [s.map fun c => .one fun d => d = c || (ignoreCase && d.toLower = c.toLower)]

/-! ### Matching -/

abbrev Groups := List (Nat × List Char)

/-- A place in a text, with the groups so far. -/
structure Spot where
  /-- The character before it. -/
  before : Option Char
  rest : List Char
  /-- How many characters are left. -/
  left : Nat
  groups : Groups := []

/-- A word begins or ends at a spot, as asked. -/
def Spot.isEdge (s : Spot) (begins ends : Bool) : Bool :=
  let before := s.before.any isWordChar
  let behind := s.rest.head?.any isWordChar
  if begins && ends then before != behind
  else if begins then !before && behind
  else if ends then before && !behind
  else before == behind

/-- The spot behind the next characters, if they are those of a text. -/
def Spot.behind? (s : Spot) : List Char → Option Spot
  | [] => some s
  | c :: text =>
    match s.rest with
    | d :: rest =>
      if c = d then { s with before := some c, rest, left := s.left - 1 }.behind? text else none
    | [] => none

/-- All spots behind a run of characters of a kind, at most so many, longest run first. -/
def Spot.run (test : Char → Bool) : (most : Nat) → Spot → List Spot → List Spot
  | 0, s, out => s :: out
  | most + 1, s, out =>
    match s.rest with
    | c :: rest =>
      if test c then run test most { s with before := some c, rest, left := s.left - 1 } (s :: out)
      else s :: out
    | [] => s :: out

/-- The first of the spots at each place. -/
def firstEach (spots : List Spot) : List Spot :=
  match spots with
  | [] | [_] => spots
  | s :: _ =>
    let size := spots.foldl (fun n t => max n t.left) s.left + 1
    let (out, _) := spots.foldl (fun (out, seen) t =>
      if (seen : Array Bool).getD t.left true then (out, seen)
      else (t :: out, seen.set! t.left true))
      (([] : List Spot), Array.replicate size false)
    out.reverse

def longestFirst (spots : List Spot) : List Spot :=
  spots.mergeSort fun a b => a.left ≤ b.left

/-- Spots without those at places that have been seen; the others have been seen then. -/
def unseen (seen : Array Bool) : List Spot → List Spot × Array Bool
  | [] => ([], seen)
  | s :: rest =>
    if seen.getD s.left true then unseen seen rest
    else
      let (rest, seen) := unseen (seen.set! s.left true) rest
      (s :: rest, seen)

/-- The spots behind one more repetition and so on, as long as they lead further. -/
def closure (once : Spot → List Spot) (least : Nat) : (most count : Nat) → (present : List Spot) →
    (seen : Array Bool) → (out : List Spot) → List Spot
  | 0, _, _, _, out => out
  | most + 1, count, present, seen, out =>
    let next := present.flatMap once
    if least ≤ count + 1 then
      let (next, seen) := unseen seen next
      if next.isEmpty then out else closure once least most (count + 1) next seen (next ++ out)
    else
      let next := firstEach next
      if next.isEmpty then out else closure once least most (count + 1) next seen out

mutual

/-- The spots that one piece leads to, the longest way first; `fuel` bounds how deep pieces are
nested. -/
def after : (fuel : Nat) → Regex → Spot → List Spot
  | 0, _, _ => []
  | fuel + 1, p, s =>
    match p with
    | .one test =>
      match s.rest with
      | c :: rest =>
        if test c then [{ s with before := some c, rest, left := s.left - 1 }] else []
      | [] => []
    | .start => if s.before.isNone then [s] else []
    | .stop => if s.rest.isEmpty then [s] else []
    | .lineStart => if s.before.all (· = '\n') then [s] else []
    | .lineStop => if s.rest.head?.all (· = '\n') then [s] else []
    | .edge begins ends => if s.isEdge begins ends then [s] else []
    | .apart behind =>
      if (if behind then s.rest.head? else s.before).any isWordChar then [] else [s]
    | .again n =>
      match s.groups.lookup n with
      | none => []
      | some text => (s.behind? text).toList
    | .group n alternatives =>
      let inner := alternatives.flatMap fun a => afterAll fuel a s
      (firstEach (longestFirst inner)).map fun t =>
        { t with groups := (n, s.rest.take (s.left - t.left)) :: t.groups }
    | .many least most body =>
      match body, least with
      | .one test, 0 => s.run test (most.getD s.left) []
      | .one test, _ =>
        (s.run test (most.getD s.left) []).filter fun t => least ≤ s.left - t.left
      | _, _ =>
        let (out, seen) := if least = 0 then unseen (Array.replicate (s.left + 1) false) [s]
          else ([], Array.replicate (s.left + 1) false)
        longestFirst
          (closure (after fuel body) least (most.getD (s.left + least + 1)) 0 [s] seen out)

/-- The spots that pieces one after another lead to. -/
def afterAll : (fuel : Nat) → List Regex → Spot → List Spot
  | 0, _, _ => []
  | fuel + 1, pieces, s =>
    pieces.foldl (fun spots p =>
      match spots with
      | [] => []
      | [t] => after fuel p t
      | _ => firstEach (spots.flatMap (after fuel p))) [s]

end

/-- How deep the pieces of an expression are nested at most. -/
def deepestPiece : Nat := 1000

/-- A match: the text before it, its own, the text behind it, and its groups. -/
structure Match where
  before : List Char
  own : List Char
  behind : List Char
  groups : Groups

/-- The longest of some spots, the first one of several. -/
def longest? : List Spot → Option Spot
  | [] => none
  | s :: rest => some (rest.foldl (fun best t => if t.left < best.left then t else best) s)

/-- The match that starts right here, behind a character; `left` is the length of the text. -/
def hereWithin? (alternatives : Alternatives) (before : Option Char) (left : Nat) (s : List Char) :
    Option Match :=
  let found := alternatives.flatMap fun a => afterAll deepestPiece a ⟨before, s, left, []⟩
  (longest? found).map fun t => ⟨[], s.take (left - t.left), t.rest, t.groups⟩

/-- The match that starts right here, behind a character. -/
def here? (alternatives : Alternatives) (before : Option Char) (s : List Char) : Option Match :=
  hereWithin? alternatives before s.length s

/-- The expression can match only at the start of a text. -/
def isAnchored (alternatives : Alternatives) : Bool :=
  alternatives.all fun a => match a with
    | .start :: _ => true
    | _ => false

/-- The first match in what is left of a text behind a character. -/
def findWithin? (alternatives : Alternatives) : (left : Nat) → Option Char → List Char →
    List Char → Option Match
  | left, before, out, s =>
    match hereWithin? alternatives before left s with
    | some m => some { m with before := out.reverse }
    | none =>
      match left, s with
      | left + 1, c :: rest => findWithin? alternatives left (some c) (c :: out) rest
      | _, _ => none

/-- The first match in what is left of a text behind a character. -/
def findBehind? (alternatives : Alternatives) (before : Option Char) (s : List Char) :
    Option Match :=
  if isAnchored alternatives then here? alternatives before s
  else findWithin? alternatives s.length before [] s

def find? (alternatives : Alternatives) (s : List Char) : Option Match :=
  findBehind? alternatives none s

/-- The last character of a text, or another one. -/
def lastChar (s : List Char) (otherwise : Option Char) : Option Char := (s.getLast?).or otherwise

/-- The texts of all matches that are not empty; `fuel` bounds their number. -/
def findAll (alternatives : Alternatives) : (fuel : Nat) → Option Char → List Char →
    List (List Char)
  | 0, _, _ => []
  | fuel + 1, before, s =>
    match findBehind? alternatives before s with
    | none => []
    | some m =>
      match m.own, m.behind with
      | [], [] => []
      | [], c :: behind => findAll alternatives fuel (some c) behind
      | own, behind => own :: findAll alternatives fuel (lastChar own before) behind

end Regex

end Formulary.Host.Tool
