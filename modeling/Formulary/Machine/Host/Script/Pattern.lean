/-!
# Scripts: patterns

Patterns of the shell: `*` for any characters, `?` for one, `[…]` for one of a set; everything that
stood in quotes stands for itself.
-/

namespace Formulary.Host.Script

/-- A character of a pattern, with whether it stood in quotes. -/
abbrev Marked := Char × Bool

namespace Pattern

/-- One element of a set of characters. -/
structure Range where
  first : Char
  last : Char

def kind? : String → Option (Char → Bool)
  | "alpha" => some Char.isAlpha
  | "digit" => some Char.isDigit
  | "alnum" => some Char.isAlphanum
  | "upper" => some Char.isUpper
  | "lower" => some Char.isLower
  | "space" => some fun c => " \t\n\r\x0b\x0c".toList.contains c
  | "blank" => some fun c => c = ' ' || c = '\t'
  | "punct" => some fun c => 0x20 < c.toNat && c.toNat < 0x7F && !c.isAlphanum
  | "cntrl" => some fun c => c.toNat < 0x20 || c.toNat = 0x7F
  | "print" => some fun c => 0x20 ≤ c.toNat && c.toNat < 0x7F
  | "graph" => some fun c => 0x20 < c.toNat && c.toNat < 0x7F
  | "xdigit" => some fun c => c.isDigit || ('a' ≤ c && c ≤ 'f') || ('A' ≤ c && c ≤ 'F')
  | _ => none

/-- The members of a set behind its opening bracket, and what follows its closing one. -/
def members : Nat → Bool → List (Char → Bool) → List Marked →
    Option (List (Char → Bool) × List Marked)
  | 0, _, _, _ => none
  | fuel + 1, started, out, s =>
    match s with
    | [] => none
    | (']', false) :: rest =>
      if started then some (out, rest) else members fuel true ((· = ']') :: out) rest
    | ('[', false) :: (':', false) :: rest =>
      let name := rest.takeWhile fun m => m.1 ≠ ':'
      match kind? (String.ofList (name.map Prod.fst)), rest.drop name.length with
      | some k, _ :: (']', _) :: rest => members fuel true (k :: out) rest
      | _, _ => members fuel true ((· = '[') :: out) ((':', false) :: rest)
    | (a, _) :: ('-', false) :: (b, q) :: rest =>
      if b = ']' && !q then members fuel true ((· = a) :: out) (('-', false) :: (b, q) :: rest)
      else members fuel true ((fun c => a ≤ c && c ≤ b) :: out) rest
    | (a, _) :: rest => members fuel true ((· = a) :: out) rest

/-- A set behind its opening bracket: which characters it has, and what follows it. -/
def set? (s : List Marked) : Option ((Char → Bool) × List Marked) :=
  let (negated, body) := match s with
    | ('!', false) :: rest | ('^', false) :: rest => (true, rest)
    | _ => (false, s)
  (members (s.length + 1) false [] body).map fun (tests, rest) =>
    (fun c => (tests.any fun t => t c) != negated, rest)

/-- The rest of the text is matched from some place on. -/
def someSuffix (rest : List Char → Bool) : List Char → Bool
  | [] => rest []
  | c :: s => rest (c :: s) || someSuffix rest s

/-- A text matches a pattern; `fuel` bounds the pattern's length. -/
def matchesFrom : Nat → List Marked → List Char → Bool
  | 0, _, _ => false
  | _ + 1, [], s => s.isEmpty
  | fuel + 1, ('*', false) :: p, s => someSuffix (matchesFrom fuel p) s
  | fuel + 1, ('?', false) :: p, s =>
    match s with
    | _ :: s => matchesFrom fuel p s
    | [] => false
  | fuel + 1, ('[', false) :: p, s =>
    match set? p, s with
    | some (test, p), c :: s => test c && matchesFrom fuel p s
    | some _, [] => false
    | none, '[' :: s => matchesFrom fuel p s
    | none, _ => false
  | fuel + 1, (a, _) :: p, s =>
    match s with
    | c :: s => a = c && matchesFrom fuel p s
    | [] => false

def isMatch (p : List Marked) (s : List Char) : Bool := matchesFrom (p.length + 1) p s

/-- The pattern has a character that does not stand for itself. -/
def isActive (p : List Marked) : Bool := p.any fun (c, quoted) => !quoted && "*?[".toList.contains c

/-- A text without the shortest or longest start that matches a pattern. -/
def trimStart (longest : Bool) (p : List Marked) (s : List Char) : List Char :=
  let lengths := List.range (s.length + 1)
  let lengths := if longest then lengths.reverse else lengths
  match lengths.find? fun n => isMatch p (s.take n) with
  | some n => s.drop n
  | none => s

/-- A text without the shortest or longest end that matches a pattern. -/
def trimEnd (longest : Bool) (p : List Marked) (s : List Char) : List Char :=
  let lengths := List.range (s.length + 1)
  let lengths := if longest then lengths else lengths.reverse
  match lengths.find? fun n => isMatch p (s.drop n) with
  | some n => s.take n
  | none => s

end Pattern

end Formulary.Host.Script
