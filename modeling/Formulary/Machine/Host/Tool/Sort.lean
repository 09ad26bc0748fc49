import Formulary.Machine.Host.Tool.Copy

/-!
# Tools: lines in order

Tools that put lines in order, and those that read lines that are in order already.
-/

namespace Formulary.Host.Tool

open Formulary.Host.Script

/-! ### Orders -/

def isBlank (c : Char) : Bool := c = ' ' || c = '\t'

/-- A number at the start of a text: its sign, its whole part and the digits behind its point. -/
structure Decimal where
  negative : Bool
  whole : Nat
  fraction : List Char
  /-- What follows it. -/
  rest : List Char

/-- The number at the start of a text; none counts as zero. -/
def leadingDecimal (s : List Char) : Decimal :=
  let s := s.dropWhile isBlank
  let (negative, s) := match s with
    | '-' :: rest => (true, rest)
    | _ => (false, s)
  let whole := s.takeWhile Char.isDigit
  let s := s.drop whole.length
  let (fraction, rest) := match s with
    | '.' :: rest => (rest.takeWhile Char.isDigit, rest.dropWhile Char.isDigit)
    | _ => ([], s)
  { negative
    whole := (Text.natural? whole).getD 0
    fraction := (fraction.reverse.dropWhile (· = '0')).reverse
    rest }

def Decimal.isZero (d : Decimal) : Bool := d.whole = 0 && d.fraction.isEmpty

def Decimal.compareSizes (a b : Decimal) : Ordering :=
  (compare a.whole b.whole).then (compare (String.ofList a.fraction) (String.ofList b.fraction))

def Decimal.compare (a b : Decimal) : Ordering :=
  match a.negative && !a.isZero, b.negative && !b.isZero with
  | false, false => a.compareSizes b
  | true, true => b.compareSizes a
  | true, false => .lt
  | false, true => .gt

/-- How large a unit behind a number is. -/
def unitRank (d : Decimal) : Nat :=
  match d.rest with
  | c :: _ => match "KMGTPEZY".toList.idxOf? (if c = 'k' then 'K' else c) with
    | some i => i + 1
    | none => 0
  | [] => 0

def compareUnits (a b : Decimal) : Ordering :=
  match a.negative && !a.isZero, b.negative && !b.isZero with
  | false, false => (compare (unitRank a) (unitRank b)).then (a.compareSizes b)
  | true, true => (compare (unitRank b) (unitRank a)).then (b.compareSizes a)
  | true, false => .lt
  | false, true => .gt

def months : List String :=
  ["JAN", "FEB", "MAR", "APR", "MAY", "JUN", "JUL", "AUG", "SEP", "OCT", "NOV", "DEC"]

/-- The month a text starts with, counted from one; zero if there is none. -/
def monthOf (s : List Char) : Nat :=
  let name := String.ofList (((s.dropWhile isBlank).take 3).map Char.toUpper)
  match months.idxOf? name with
  | some i => i + 1
  | none => 0

/-- The rank of a character in a version. -/
def versionRank (c : Option Char) : Int :=
  match c with
  | none => 0
  | some c =>
    if c = '~' then -1 else if c.isDigit then 0 else if c.isAlpha then c.toNat else c.toNat + 256

/-- Two versions compared: numbers in them by their sizes, the rest letter by letter. -/
def compareVersions : (fuel : Nat) → List Char → List Char → Ordering
  | 0, _, _ => .eq
  | _, [], [] => .eq
  | fuel + 1, a, b =>
    let digit (s : List Char) : Bool := (s.head?.map Char.isDigit).getD true
    if digit a && digit b then
      let m := a.takeWhile Char.isDigit
      let n := b.takeWhile Char.isDigit
      (compare ((Text.natural? m).getD 0) ((Text.natural? n).getD 0)).then
        (if m.isEmpty && n.isEmpty then .eq
          else compareVersions fuel (a.drop m.length) (b.drop n.length))
    else
      (compare (versionRank a.head?) (versionRank b.head?)).then
        (compareVersions fuel (if digit a then a else a.tail) (if digit b then b else b.tail))

abbrev Manner := List Char

def compareKeys (manner : Manner) (a b : List Char) : Ordering :=
  let has (c : Char) : Bool := manner.contains c
  let prepared (s : List Char) : List Char :=
    let s := if has 'd' then s.filter fun c => c.isAlphanum || isBlank c else s
    let s := if has 'i' then s.filter fun c => 0x20 ≤ c.toNat && c.toNat < 0x7F else s
    if has 'f' then s.map Char.toUpper else s
  let order :=
    if has 'n' || has 'g' then (leadingDecimal a).compare (leadingDecimal b)
    else if has 'h' then compareUnits (leadingDecimal a) (leadingDecimal b)
    else if has 'M' then compare (monthOf a) (monthOf b)
    else if has 'V' then compareVersions (a.length + b.length + 2) a b
    else compare (String.ofList (prepared a)) (String.ofList (prepared b))
  if has 'r' then order.swap else order

/-! ### Keys -/

/-- A position in a line: a field and a character in it. -/
structure Position where
  field : Nat
  char : Nat
  manner : Manner := []

/-- A part of a line that it is ordered by. -/
structure SortKey where
  start : Position
  stop : Option Position := none

def position? (s : List Char) : Option (Position × List Char) := do
  let digits := s.takeWhile Char.isDigit
  let field ← Text.natural? digits
  let s := s.drop digits.length
  let (char, s) := match s with
    | '.' :: rest =>
      let digits := rest.takeWhile Char.isDigit
      ((Text.natural? digits).getD 0, rest.drop digits.length)
    | _ => (0, s)
  let manner := s.takeWhile fun c => "bdfgiMhnRrV".toList.contains c
  return (⟨field, char, manner⟩, s.drop manner.length)

def sortKey? (s : String) : Option SortKey := do
  let (start, rest) ← position? s.toList
  match rest with
  | [] => return ⟨start, none⟩
  | ',' :: rest =>
    let (stop, rest) ← position? rest
    if rest.isEmpty then return ⟨start, some stop⟩ else none
  | _ => none

def behindFields (separator : Option Char) : Nat → List Char → List Char
  | 0, s => s
  | n + 1, s =>
    match separator with
    | some c => behindFields separator n ((s.dropWhile (· ≠ c)).drop 1)
    | none => behindFields separator n ((s.dropWhile isBlank).dropWhile fun c => !isBlank c)

/-- A line behind so many fields, where the last separator is passed over only if so asked. -/
def behindEnds (separator : Option Char) (passes : Bool) : Nat → List Char → List Char
  | 0, s => s
  | n + 1, s =>
    match separator with
    | some c =>
      let s := s.dropWhile (· ≠ c)
      behindEnds separator passes n (if 0 < n || passes then s.drop 1 else s)
    | none => behindEnds separator passes n ((s.dropWhile isBlank).dropWhile fun c => !isBlank c)

/-- The part of a line that a key names. -/
def SortKey.of (k : SortKey) (separator : Option Char) (skips : Bool) (line : List Char) :
    List Char :=
  let start := behindFields separator (k.start.field - 1) line
  let start := if skips || k.start.manner.contains 'b' then start.dropWhile isBlank else start
  let start := start.drop (k.start.char - 1)
  match k.stop with
  | none => start
  | some p =>
    let rest :=
      if p.char = 0 then behindEnds separator false p.field line
      else
        let s := behindEnds separator true (p.field - 1) line
        let s := if skips || p.manner.contains 'b' then s.dropWhile isBlank else s
        s.drop p.char
    start.take (start.length - rest.length)

/-- How a key is compared: its own way, or that of the whole. -/
def SortKey.manner (k : SortKey) (whole : Manner) : Manner :=
  let own := k.start.manner ++ (k.stop.map Position.manner).getD []
  if own.isEmpty then whole else own

/-! ### sort -/

def compareBy (manners : List Manner) (a b : List (List Char)) : Ordering :=
  match manners, a, b with
  | m :: ms, x :: xs, y :: ys => (compareKeys m x y).then (compareBy ms xs ys)
  | _, _, _ => .eq

/-- The first line that is out of order, with its number. -/
def disorder? (inOrder : List Char → List Char → Bool) : Nat → List (List Char) →
    Option (Nat × List Char)
  | n, a :: b :: rest => if inOrder a b then disorder? inOrder (n + 1) (b :: rest) else some (n, b)
  | _, _ => none

/-- A complaint of `sort` about a file that cannot be read. -/
def unreadableSorted (path : String) (e : Fault) : String :=
  (if e = .isDirectory then "read failed: " else "cannot read: ") ++ shown path ++ ": " ++ e.words

def sortTable : OptionTable :=
  OptionTable.make "bcCdfghik:mMno:rRsS:t:T:uVy::z" "p:" ["ignore-leading-blanks=b", "check=c",
    "dictionary-order=d", "ignore-case=f", "general-numeric-sort=g", "human-numeric-sort=h",
    "ignore-nonprinting=i", "key=k", "merge=m", "month-sort=M", "numeric-sort=n", "output=o",
    "reverse=r", "random-sort=R", "stable=s", "field-separator=t", "unique=u", "version-sort=V",
    "zero-terminated=z", "parallel=p"]

def sort : Tool := fun args => do
  withOptions sortTable 2 args fun said => do
    let whole := (said.options.map Prod.fst).filter fun c => "bdfghiMnrRV".toList.contains c
    let texts := said.options.filterMap fun o => if o.1 = 'k' then some o.2 else none
    let keys := texts.filterMap sortKey?
    match texts.find? fun t => (sortKey? t).isNone with
    | some t =>
      warn ("invalid number at field start: invalid count at start of " ++ quoted t)
      return 2
    | none => pure ()
    match texts.find? fun t => (sortKey? t).any fun k => k.start.field = 0 with
    | some t =>
      warn ("field number is zero: invalid field specification " ++ quoted t)
      return 2
    | none => pure ()
    let separator ← match valueOf said 't' with
      | none => pure none
      | some "" =>
        warn "empty tab"
        return 2
      | some "\\0" => pure (some (Char.ofNat 0))
      | some t =>
        if 1 < t.length then
          warn ("multi-character tab " ++ quoted t)
          return 2
        pure t.toList.head?
    let manners := if keys.isEmpty then [whole] else keys.map (·.manner whole)
    let skips := keys.map fun k => k.start.manner.isEmpty &&
      ((k.stop.map fun p => p.manner.isEmpty).getD true) && whole.contains 'b'
    let keyed (line : List Char) : List (List Char) :=
      if keys.isEmpty then [if whole.contains 'b' then line.dropWhile isBlank else line]
      else (keys.zip skips).map fun (k, skip) => k.of separator skip line
    let ending := if given said 'z' then Char.ofNat 0 else '\n'
    let unique := given said 'u'
    let lastResort (a b : List Char) : Ordering :=
      if unique || given said 's' then .eq
      else
        let order := compare (String.ofList a) (String.ofList b)
        if whole.contains 'r' then order.swap else order
    let order (a b : List (List Char) × List Char) : Ordering :=
      (compareBy manners a.1 b.1).then (lastResort a.2 b.2)
    let mut files := []
    for path in inputs said.others do
      let (lines, good) ← allLines unreadableSorted ending [path]
      if !good then return 2
      files := files ++ [lines]
    let lines := files.flatten
    if given said 'c' || given said 'C' then
      let inOrder (a b : List Char) : Bool :=
        let o := order (keyed a, a) (keyed b, b)
        o = .lt || (o = .eq && !unique)
      match disorder? inOrder 2 lines with
      | none => return 0
      | some (n, line) =>
        if !given said 'C' then
          warn ((said.others.head?.getD "-") ++ ":" ++ toString n ++ ": disorder: " ++
            String.ofList line)
        return 1
    let before (a b : List (List Char) × List Char) : Bool := order a b != .gt
    let sorted := if given said 'm' then
        files.foldl (fun seen l => List.merge seen (l.map fun l => (keyed l, l)) before) []
      else (lines.map fun l => (keyed l, l)).mergeSort before
    let sorted := if unique then
        sorted.splitBy (fun a b => compareBy manners a.1 b.1 = .eq) |>.filterMap List.head?
      else sorted
    match valueOf said 'o' with
    | some path =>
      match ← Run.openFd path .emptying with
      | .ok fd => Run.modifyOwn fun l => l.connect 1 (l.endpoints.lookup fd)
      | .error e =>
        warn ("open failed: " ++ shown path ++ ": " ++ e.words)
        return 2
    | none => pure ()
    for (_, line) in sorted do
      putChars line
      Run.put ending.toString
    return 0

/-! ### uniq -/

def compared (said : OptionTable.Said) (line : List Char) : List Char :=
  let number (c : Char) : Nat := ((valueOf said c).bind fun v => Text.natural? v.toList).getD 0
  let rec behind : Nat → List Char → List Char
    | 0, s => s
    | n + 1, s => behind n ((s.dropWhile isBlank).dropWhile fun c => !isBlank c)
  let s := (behind (number 'f') line).drop (number 's')
  let s := if given said 'w' then s.take (number 'w') else s
  if given said 'i' then s.map Char.toUpper else s

/-- `uniq`: runs of equal lines as one. -/
def uniq : Tool := fun args => do
  let table := OptionTable.make "cdDf:is:uw:z" "a::g::" ["count=c", "repeated=d", "all-repeated=a",
    "skip-fields=f", "group=g", "ignore-case=i", "skip-chars=s", "unique=u", "check-chars=w",
    "zero-terminated=z"]
  withOptions table 1 args fun said => do
    match said.others with
    | _ :: _ :: extra :: _ => return ← misuse 1 ("extra operand " ++ quoted extra)
    | [_, target] =>
      if target ≠ "-" then
        match ← Run.openFd target .emptying with
        | .ok fd => Run.modifyOwn fun l => l.connect 1 (l.endpoints.lookup fd)
        | .error e => return ← refuse (unreadable target e)
    | _ => pure ()
    let ending := if given said 'z' then Char.ofNat 0 else '\n'
    let all := given said 'D' || given said 'a'
    let tell (run : List (List Char)) : Run Unit := do
      let repeated := 1 < run.length
      if (given said 'd' || all) && !repeated then return ()
      if given said 'u' && repeated then return ()
      let shownLines := if all then run else run.take 1
      for line in shownLines do
        if given said 'c' then Run.put (padLeft 7 (toString run.length) ++ " ")
        putChars line
        Run.put ending.toString
    let step (run : List (List Char)) (line : Line) : Run (List (List Char) × Bool) := do
      match run with
      | [] => return ([line.text], true)
      | first :: _ =>
        if compared said first = compared said line.text then return (run ++ [line.text], true)
        else
          tell run
          return ([line.text], true)
    let (run, good) ← foldFiles unreadable ending step (said.others.take 1) []
    if !run.isEmpty then tell run
    return statusFor good

/-! ### comm and join -/

/-- Two lists of lines in order, told in three columns; tells whether any line stands in one of them
only. -/
def inColumns (tell : Nat → List Char → Run Unit) :
    (fuel : Nat) → List (List Char) → List (List Char) → Run Bool
  | 0, _, _ => return false
  | _, [], [] => return false
  | fuel + 1, a :: as, [] => do
    tell 0 a
    let _ ← inColumns tell fuel as []
    return true
  | fuel + 1, [], b :: bs => do
    tell 1 b
    let _ ← inColumns tell fuel [] bs
    return true
  | fuel + 1, a :: as, b :: bs => do
    match compare (String.ofList a) (String.ofList b) with
    | .lt =>
      tell 0 a
      let _ ← inColumns tell fuel as (b :: bs)
      return true
    | .gt =>
      tell 1 b
      let _ ← inColumns tell fuel (a :: as) bs
      return true
    | .eq =>
      tell 2 a
      inColumns tell fuel as bs

/-- The lines of two files; nothing if they cannot be read. -/
def twoFiles (said : OptionTable.Said) : Run (Option (List (List Char) × List (List Char))) := do
  match said.others with
  | [a, b] =>
    match ← contents a with
    | .error e =>
      warn (unreadable a e)
      return none
    | .ok s =>
      match ← contents b with
      | .error e =>
        warn (unreadable b e)
        return none
      | .ok t => return some (linesOf s '\n', linesOf t '\n')
  | [] =>
    warn "missing operand"
    hint
    return none
  | [a] =>
    warn ("missing operand after " ++ quoted a)
    hint
    return none
  | _ :: _ :: extra :: _ =>
    warn ("extra operand " ++ quoted extra)
    hint
    return none

def areOrdered (a b : List Char) : Bool := compare (String.ofList a) (String.ofList b) != .gt

/-- `comm`: lines of two files, apart and in common. -/
def comm : Tool := fun args => do
  let table := OptionTable.make "123z" "cnod:t" ["check-order=c", "nocheck-order=n",
    "output-delimiter=d", "total=t", "zero-terminated=z"]
  withOptions table 1 args fun said => do
    match ← twoFiles said with
    | none => return 1
    | some (a, b) =>
      let delimiter := (valueOf said 'd').getD "\t"
      let hidden (column : Nat) : Bool := given said (['1', '2', '3'][column]?.getD '1')
      let tell (column : Nat) (line : List Char) : Run Unit := do
        if hidden column then return ()
        let before := (List.range column).filter fun c => !hidden c
        Run.put (String.join (before.map fun _ => delimiter))
        putLine line
      let differ ← inColumns tell (a.length + b.length + 1) a b
      let mut status := 0
      for (lines, n) in [(a, 1), (b, 2)] do
        if differ && (disorder? areOrdered 2 lines).isSome && !given said 'n' then
          warn ("file " ++ toString n ++ " is not in sorted order")
          status := 1
      if status ≠ 0 then warn "input is not in sorted order"
      return status

def joinFields (separator : Option Char) (line : List Char) : List (List Char) :=
  match separator with
  | some c => Text.splitAt c line
  | none => (line.splitBy fun a b => isBlank a = isBlank b).filter fun part => !part.all isBlank

/-- `join`: lines of two files with a field in common. -/
def join : Tool := fun args => do
  let table := OptionTable.make "a:e:1:2:ij:o:t:v:z" "cnh" ["ignore-case=i", "check-order=c",
    "nocheck-order=n", "header=h", "zero-terminated=z"]
  withOptions table 1 args fun said => do
    let separator := (valueOf said 't').bind fun t => t.toList.head?
    let number (c : Char) : Nat :=
      (((valueOf said c).or (valueOf said 'j')).bind fun v => Text.natural? v.toList).getD 1 - 1
    let between := (separator.getD ' ').toString
    let sides (c : Char) (n : String) : Bool := said.options.any fun o => o = (c, n)
    match ← twoFiles said with
    | none => return 1
    | some (a, b) =>
      let rows (lines : List (List Char)) (key : Nat) : List (List Char × List (List Char)) :=
        lines.map fun line =>
          let fields := joinFields separator line
          (fields[key]?.getD [], fields)
      let as := rows a (number '1')
      let bs := rows b (number '2')
      let lower (s : List Char) : List Char := if given said 'i' then s.map Char.toLower else s
      let equal (x y : List Char) : Bool := lower x = lower y
      let absent := ((valueOf said 'e').getD "").toList
      let tell (key : List Char) (x y : List (List Char)) : Run Unit := do
        let cells := match valueOf said 'o' with
          | some format =>
            ((Text.splitAt ',' format.toList).flatMap fun p => Text.splitAt ' ' p).map fun cell =>
              match cell with
              | ['0'] => key
              | side :: '.' :: n =>
                let fields := if side = '1' then x else y
                let cell := fields[(Text.natural? n).getD 1 - 1]?.getD []
                if cell.isEmpty then absent else cell
              | _ => []
          | none => key :: (x.eraseIdx (number '1') ++ y.eraseIdx (number '2'))
        Run.put (between.intercalate (cells.map String.ofList) ++ "\n")
      let onlyOdd := given said 'v'
      for (key, x) in as do
        let partners := bs.filter fun r => equal r.1 key
        if partners.isEmpty then
          if sides 'a' "1" || sides 'v' "1" then tell key x []
        else if !onlyOdd then
          for (_, y) in partners do tell key x y
      if sides 'a' "2" || sides 'v' "2" then
        for (key, y) in bs do
          if !(as.any fun r => equal r.1 key) then tell key [] y
      return 0

/-! ### tsort and shuf -/

/-- Names so that each comes behind those that must come before it. -/
def layers (pairs : List (String × String)) : (fuel : Nat) → List String → List String
  | 0, rest => rest
  | _, [] => []
  | fuel + 1, rest =>
    let free := rest.filter fun n => pairs.all fun p => p.2 ≠ n || p.1 = n || !rest.contains p.1
    match free with
    | [] => rest
    | _ => free ++ layers pairs fuel (rest.filter fun n => !free.contains n)

/-- `tsort`: names in an order that respects pairs of them. -/
def tsort : Tool := fun args => do
  match args with
  | _ :: extra :: _ => misuse 1 ("extra operand " ++ quoted extra)
  | _ =>
    match ← contents (args.head?.getD "-") with
    | .error e => refuse (unreadable (args.head?.getD "-") e)
    | .ok s =>
      let parts := s.splitBy fun a b => (isBlank a || a = '\n') = (isBlank b || b = '\n')
      let words := (parts.filter fun w => !(w.all fun c => isBlank c || c = '\n')).map String.ofList
      let rec pairs : List String → List (String × String)
        | a :: b :: rest => (a, b) :: pairs rest
        | _ => []
      if words.length % 2 = 1 then
        return ← refuse ((args.head?.getD "-") ++ ": input contains an odd number of tokens")
      for name in layers (pairs words) (words.length + 1) words.eraseDups do
        Run.put (name ++ "\n")
      return 0

/-- `shuf`: lines in some order; here they stay as they are. -/
def shuf : Tool := fun args => do
  let table := OptionTable.make "ei:n:o:rz" "s:" ["echo=e", "input-range=i", "head-count=n",
    "output=o", "random-source=s", "repeat=r", "zero-terminated=z"]
  withOptions table 1 args fun said => do
    let (lines, good) ←
      if given said 'e' then pure (said.others.map String.toList, true)
      else match valueOf said 'i' with
        | some range =>
          match (Text.splitAt '-' range.toList).map fun s => (Text.natural? s) with
          | [some low, some high] =>
            pure ((List.range (high + 1 - low)).map fun n => (toString (low + n)).toList, true)
          | _ => pure ([], false)
        | none => allLines unreadable '\n' said.others
    let count := ((valueOf said 'n').bind fun n => Text.natural? n.toList).getD lines.length
    for line in lines.take count do putLine line
    return statusFor good

end Formulary.Host.Tool
