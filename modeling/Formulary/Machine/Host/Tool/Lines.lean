import Formulary.Machine.Host.Tool.Copy
import Formulary.Machine.Host.Tool.Regex

/-!
# Tools: line by line

Tools that change each line, number lines, count them, or put them together.
-/

namespace Formulary.Host.Tool

open Formulary.Host.Script

/-! ### cut -/

/-- Positions, from one to another one or to the end. -/
abbrev Positions := List (Nat × Option Nat)

/-- Positions as they are written; what is wrong with them if they cannot be read. -/
def positions? (fields : Bool) (s : String) : Except String Positions := do
  let kind := if fields then "fields are numbered from 1"
    else "byte/character positions are numbered from 1"
  let number (digits : List Char) : Except String Nat :=
    match Text.natural? digits with
    | some n => .ok n
    | none =>
      let called := if fields then "field value " else "byte/character position "
      .error ("invalid " ++ called ++ quoted (String.ofList digits))
  (Text.splitAt ',' (s.toList.map fun c => if isBlank c then ',' else c)).mapM fun part => do
    match part.span (· ≠ '-') with
    | ([], []) => throw kind
    | ([], ['-']) => throw "invalid range with no endpoint: -"
    | (low, []) =>
      let n ← number low
      if n = 0 then throw kind
      return (n, some n)
    | (low, _ :: high) =>
      let m ← if low.isEmpty then pure 1 else number low
      if m = 0 then throw kind
      if high.isEmpty then return (m, none)
      let n ← number high
      if n < m then throw "invalid decreasing range"
      return (m, some n)
where
  isBlank (c : Char) : Bool := c = ' ' || c = '\t'

def isAmong (ranges : Positions) (n : Nat) : Bool :=
  ranges.any fun (low, high) => low ≤ n && (high.all fun h => n ≤ h)

def select {α : Type} (ranges : Positions) (others : Bool) (l : List α) : List α :=
  (l.zipIdx 1).filterMap fun (a, n) => if isAmong ranges n != others then some a else none

def cut : Tool := fun args => do
  let table := OptionTable.make "b:c:d:f:nsz" "Co:" ["bytes=b", "characters=c", "delimiter=d",
    "fields=f", "only-delimited=s", "zero-terminated=z", "complement=C", "output-delimiter=o"]
  withOptions table 1 args fun said => do
    let lists := said.options.filter fun o => "bcf".toList.contains o.1
    match lists with
    | [] => misuse 1 "you must specify a list of bytes, characters, or fields"
    | _ :: _ :: _ => misuse 1 "only one list may be specified"
    | [(kind, value)] =>
      let byFields := kind = 'f'
      if given said 'd' && !byFields then
        return ← misuse 1 "an input delimiter may be specified only when operating on fields"
      if given said 's' && !byFields then
        return ← misuse 1 ("suppressing non-delimited lines makes sense\n" ++
          "\tonly when operating on fields")
      match positions? byFields value, (valueOf said 'd').map String.toList with
      | .error e, _ => misuse 1 e
      | _, some (_ :: _ :: _) => misuse 1 "the delimiter must be a single character"
      | .ok ranges, d =>
        let delimiter := ((d.map fun d => d.head?.getD (Char.ofNat 0))).getD '\t'
        let ending := if given said 'z' then Char.ofNat 0 else '\n'
        let between := ((valueOf said 'o').map String.toList).getD [delimiter]
        let good ← forLines unreadable ending (fun line => do
          if byFields then
            if line.text.contains delimiter then
              let chosen := select ranges (given said 'C') (Text.splitAt delimiter line.text)
              putChars ((chosen.intersperse between).flatten)
              Run.put ending.toString
            else if !given said 's' then
              putChars line.text
              Run.put ending.toString
          else
            match valueOf said 'o', given said 'C' with
            | some between, false =>
              let chosen := ranges.map fun r => select [r] false line.text
              putChars (((chosen.filter fun c => !c.isEmpty).intersperse between.toList).flatten)
            | _, others => putChars (select ranges others line.text)
            Run.put ending.toString) said.others
        return statusFor good

/-! ### paste -/

/-- The delimiters of `paste`, with escapes; an empty one stands for nothing. -/
def delimiters : List Char → List (List Char)
  | [] => []
  | '\\' :: 'n' :: s => ['\n'] :: delimiters s
  | '\\' :: 't' :: s => ['\t'] :: delimiters s
  | '\\' :: '0' :: s => [] :: delimiters s
  | '\\' :: c :: s => [c] :: delimiters s
  | c :: s => [c] :: delimiters s

/-- Texts with delimiters between them, in turns. -/
def interleave (all : List (List Char)) : List (List Char) → List (List Char) → List Char
  | _, [] => []
  | _, [s] => s
  | d :: ds, s :: rest => s ++ d ++ interleave all (if ds.isEmpty then all else ds) rest
  | [], s :: rest => s ++ interleave all [] rest

/-- `paste`: lines of its files side by side, or all lines of a file on one. -/
def paste : Tool := fun args => do
  let table := OptionTable.make "d:sz" "" ["delimiters=d", "serial=s", "zero-terminated=z"]
  withOptions table 1 args fun said => do
    let all := delimiters ((valueOf said 'd').getD "\t").toList
    let all := if all.isEmpty then [[]] else all
    let ending := if given said 'z' then Char.ofNat 0 else '\n'
    let paths := inputs said.others
    if given said 's' then
      let mut good := true
      for path in paths do
        match ← contents path with
        | .error e =>
          warn (unreadable path e)
          good := false
        | .ok s =>
          putChars (interleave all all (linesOf s ending))
          Run.put ending.toString
      return statusFor good
    -- several dashes take the lines of the input in turns
    let dashes := (paths.filter (· = "-")).length
    let mut columns : List (List (List Char)) := []
    let mut seen := 0
    let mut input : List (List Char) := []
    for path in paths do
      if path = "-" && 0 < seen then
        columns := columns ++ [(input.zipIdx).filterMap fun (l, i) =>
          if i % dashes = seen then some l else none]
        seen := seen + 1
      else
        match ← contents path with
        | .error e => return ← refuse (unreadable path e)
        | .ok s =>
          let lines := linesOf s ending
          if path = "-" then
            input := lines
            seen := 1
            columns := columns ++ [(lines.zipIdx).filterMap fun (l, i) =>
              if i % dashes = 0 then some l else none]
          else columns := columns ++ [lines]
    let rows := columns.foldl (fun n c => max n c.length) 0
    for i in List.range rows do
      putChars (interleave all all (columns.map fun column => column[i]?.getD []))
      Run.put ending.toString
    return 0

/-! ### nl -/

/-- Which lines of a part of a page are numbered. -/
inductive Numbering where
  | all
  | filled
  | none
  | matching (e : List (List Regex))

/-- Which lines are numbered, as it is written. -/
def numbering? (s : String) : Option Numbering :=
  match s.toList with
  | ['a'] => some .all
  | ['t'] => some .filled
  | ['n'] => some .none
  | 'p' :: rest => (Regex.parse {} (String.ofList rest)).toOption.map .matching
  | _ => Option.none

def Numbering.counts (n : Numbering) (line : List Char) : Bool :=
  match n with
  | .all => true
  | .filled => !line.isEmpty
  | .none => false
  | .matching e => (Regex.find? e line).isSome

def nl : Tool := fun args => do
  let table := OptionTable.make "b:d:f:h:i:l:n:ps:v:w:" "" ["body-numbering=b",
    "section-delimiter=d", "footer-numbering=f", "header-numbering=h", "line-increment=i",
    "join-blank-lines=l", "number-format=n", "no-renumber=p", "number-separator=s",
    "starting-line-number=v", "number-width=w"]
  withOptions table 1 args fun said => do
    let number (c : Char) (absent : Nat) : Nat :=
      ((valueOf said c).bind fun v => Text.natural? v.toList).getD absent
    let style (c : Char) (absent : Numbering) : Numbering :=
      ((valueOf said c).bind numbering?).getD absent
    match (['b', 'f', 'h'].filterMap (valueOf said ·)).find? fun v => (numbering? v).isNone with
    | some v => return ← misuse 1 ("invalid body numbering style: " ++ quoted v)
    | Option.none => pure ()
    let start : Int := ((valueOf said 'v').bind fun v => Arithmetic.signed? v).getD 1
    let step : Int := ((valueOf said 'i').bind fun v => Arithmetic.signed? v).getD 1
    let width := number 'w' 6
    let separator := (valueOf said 's').getD "\t"
    let mark := ((valueOf said 'd').getD "\\:").toList
    let format (n : Int) : String :=
      let digits := toString n
      match valueOf said 'n' with
      | some "ln" => padRight width digits
      | some "rz" => String.ofList (List.replicate (width - digits.length) '0') ++ digits
      | _ => padLeft width digits
    let blank := String.ofList (List.replicate (width + separator.length) ' ')
    let body := style 'b' .filled
    let f (state : Int × Numbering × Nat) (line : Line) : Run ((Int × Numbering × Nat) × Bool) := do
      let (n, now, blanks) := state
      let renewed := if given said 'p' then n else start
      if line.text = mark ++ mark ++ mark then
        Run.put "\n"
        return ((renewed, style 'h' .none, 0), true)
      else if line.text = mark ++ mark then
        Run.put "\n"
        return ((renewed, body, 0), true)
      else if line.text = mark then
        Run.put "\n"
        return ((renewed, style 'f' .none, 0), true)
      else
        let blanks := if line.text.isEmpty then blanks + 1 else 0
        let joined := number 'l' 1
        let counts := now.counts line.text &&
          (!line.text.isEmpty || blanks % (max joined 1) = 0)
        Run.put (if counts then format n ++ separator else blank)
        putLine line.text
        return ((if counts then n + step else n, now, blanks), true)
    let (_, good) ← foldFiles unreadable '\n' f said.others (start, body, 0)
    return statusFor good

/-! ### fold, expand and unexpand -/

def columnBehind (bytes : Bool) (column : Nat) (c : Char) : Nat :=
  if bytes then column + 1
  else if c = '\t' then column + 8 - column % 8
  else if c = '\x08' then column - 1
  else if c = '\r' then 0
  else column + 1

/-- A line in pieces of a width, the last character of each first; `out` holds the pieces before. -/
def foldLine (bytes spaces : Bool) (width : Nat) :
    (fuel : Nat) → List (List Char) → List Char → Nat → List Char → List (List Char)
  | 0, out, line, _, _ => (line.reverse :: out).reverse
  | _, out, line, _, [] => (line.reverse :: out).reverse
  | fuel + 1, out, line, column, c :: rest =>
    let next := columnBehind bytes column c
    if next ≤ width || line.isEmpty then
      foldLine bytes spaces width fuel out (c :: line) next rest
    else
      let isBlank (c : Char) : Bool := c = ' ' || c = '\t'
      let tail := line.takeWhile fun c => !isBlank c
      if spaces && tail.length < line.length then
        let kept := line.drop tail.length
        let again := tail.reverse.foldl (columnBehind bytes) 0
        foldLine bytes spaces width fuel (kept.reverse :: out) tail again (c :: rest)
      else foldLine bytes spaces width fuel (line.reverse :: out) [] 0 (c :: rest)

/-- Arguments with an old-style number written out as an option. -/
def modernWidth (option : String) : List String → List String
  | arg :: rest =>
    match arg.toList with
    | '-' :: c :: more =>
      if (c :: more).all Char.isDigit then option :: String.ofList (c :: more) :: rest
      else arg :: modernWidth option rest
    | _ => arg :: modernWidth option rest
  | [] => []

/-- `fold`: lines of no more than a width. -/
def fold : Tool := fun args => do
  let table := OptionTable.make "bsw:" "" ["bytes=b", "spaces=s", "width=w"]
  withOptions table 1 (modernWidth "-w" args) fun said => do
    let text := (valueOf said 'w').getD "80"
    match Text.natural? text.toList with
    | none => refuse ("invalid number of columns: " ++ quoted text)
    | some 0 =>
      refuse ("invalid number of columns: " ++ quoted text ++ ": Numerical result out of range")
    | some width =>
      let good ← forLines unreadable '\n' (fun line => do
        let pieces := foldLine (given said 'b') (given said 's') width (4 * line.text.length + 4) []
          [] 0 line.text
        putChars (pieces.intersperse ['\n']).flatten
        if line.closed then Run.put "\n") said.others
      return statusFor good

/-- The columns tabs lead to: every so many, or some of them and one further from there on. -/
def nextStop (stops : List Nat) (column : Nat) : Nat :=
  match stops with
  | [] => column + 8 - column % 8
  | [0] => column + 1
  | [n] => column + n - column % n
  | _ => (stops.find? (column < ·)).getD (column + 1)

/-- The columns tabs lead to, as they are written. -/
def stopsOf (said : OptionTable.Said) : List Nat :=
  ((valueOf said 't').map fun t =>
    (Text.splitAt ',' (t.toList.map fun c => if c = ' ' then ',' else c)).filterMap fun n =>
      (Text.natural? n)).getD [8]

/-- A line with its tabs replaced by blanks. -/
def expandLine (stops : List Nat) (initial : Bool) : Nat → Bool → List Char → List Char
  | _, _, [] => []
  | column, atStart, c :: rest =>
    if c = '\t' && (atStart || !initial) then
      let next := nextStop stops column
      List.replicate (next - column) ' ' ++ expandLine stops initial next atStart rest
    else c :: expandLine stops initial (if c = '\x08' then column - 1 else column + 1)
      (atStart && c = ' ') rest

/-- `expand`: blanks in the place of tabs. -/
def expand : Tool := fun args => do
  let table := OptionTable.make "it:" "" ["initial=i", "tabs=t"]
  withOptions table 1 (modernWidth "-t" args) fun said => do
    let stops := stopsOf said
    let good ← forLines unreadable '\n' (fun line => do
      putChars (expandLine stops (given said 'i') 0 true line.text)
      if line.closed then Run.put "\n") said.others
    return statusFor good

/-- Blanks from one column to another one, with tabs where they lead further. -/
def tabbed (stops : List Nat) : (fuel : Nat) → Nat → Nat → List Char
  | 0, _, _ => []
  | fuel + 1, column, goal =>
    let next := nextStop stops column
    if goal ≤ column then []
    else if next ≤ goal && column + 1 < goal then '\t' :: tabbed stops fuel next goal
    else List.replicate (goal - column) ' '

/-- A line with runs of blanks replaced by tabs. -/
def unexpandLine (stops : List Nat) (everywhere : Bool) :
    (fuel : Nat) → Nat → Bool → List Char → List Char
  | 0, _, _, s => s
  | _, _, _, [] => []
  | fuel + 1, column, atStart, c :: rest =>
    if (c = ' ' || c = '\t') && (atStart || everywhere) then
      let run := (c :: rest).takeWhile fun c => c = ' ' || c = '\t'
      let goal := run.foldl (fun n c => if c = '\t' then nextStop stops n else n + 1) column
      tabbed stops (goal + 1) column goal ++
        unexpandLine stops everywhere fuel goal false ((c :: rest).drop run.length)
    else c :: unexpandLine stops everywhere fuel (column + 1) false rest

/-- `unexpand`: tabs in the place of blanks. -/
def unexpand : Tool := fun args => do
  let table := OptionTable.make "at:" "f" ["all=a", "first-only=f", "tabs=t"]
  withOptions table 1 args fun said => do
    let stops := stopsOf said
    let everywhere := (given said 'a' || given said 't') && !given said 'f'
    let good ← forLines unreadable '\n' (fun line => do
      putChars (unexpandLine stops everywhere (line.text.length + 1) 0 true line.text)
      if line.closed then Run.put "\n") said.others
    return statusFor good

/-! ### rev and tac -/

def rev : Tool := fun args => do
  withOptions (OptionTable.make "" "" []) 1 args fun said => do
    let say (path : String) (e : Fault) : String := "cannot open " ++ path ++ ": " ++ e.words
    let good ← forLines say '\n' (fun line => do
      putChars line.text.reverse
      if line.closed then Run.put "\n") said.others
    return statusFor good

/-- The parts of a text, each with the separator at its end; the last one may lack it. -/
def records (separator : List Char) : (fuel : Nat) → List Char → List Char → List (List Char)
  | 0, now, s => [now.reverse ++ s]
  | _, now, [] => if now.isEmpty then [] else [now.reverse]
  | fuel + 1, now, c :: s =>
    if separator.isPrefixOf (c :: s) && !separator.isEmpty then
      (now.reverse ++ separator) :: records separator fuel [] ((c :: s).drop separator.length)
    else records separator fuel (c :: now) s

def tac : Tool := fun args => do
  let table := OptionTable.make "brs:" "" ["before=b", "regex=r", "separator=s"]
  withOptions table 1 args fun said => do
    let separator := ((valueOf said 's').getD "\n").toList
    let good ← forContents (fun path e =>
        if e = .isDirectory then shown path ++ ": read error: " ++ e.words
        else "failed to open " ++ named path ++ " for reading: " ++ e.words)
      said.others fun _ s =>
        putChars (records separator (s.length + 1) [] s).reverse.flatten
    return statusFor good

/-! ### wc -/

def countWords (s : List Char) : Nat :=
  (s.foldl (fun (n, inside) c =>
    if " \t\n\r\x0b\x0c".toList.contains c then (n, false)
    else (if inside || !canShow c then n else n + 1, inside || canShow c)) (0, false)).1

def longestLine (s : List Char) : Nat :=
  (linesOf s '\n').foldl (fun n l => max n (l.foldl (fun column c =>
    if canShow c || c = '\t' then columnBehind false column c else column) 0)) 0

/-- The size of a regular file that a path or the input leads to. -/
def regularSize? (path : String) : Run (Option Nat) := do
  if path = "-" then
    match ← Run.endpoint? 0 with
    | some (.file index) =>
      let s ← get
      return (s.opened[index]?.bind (Run.fileOf? s)).map fun (_, f) => f.data.length
    | _ => return none
  else
    match ← look path with
    | .ok (_, .file f) => return some f.data.length
    | _ => return none

/-- `wc`: the lines, words and bytes of its files. -/
def wc : Tool := fun args => do
  let table := OptionTable.make "clLmw" "f:t:" ["bytes=c", "chars=m", "lines=l", "words=w",
    "max-line-length=L", "files0-from=f", "total=t"]
  withOptions table 1 args fun said => do
    let all := !(said.options.any fun o => "clLmw".toList.contains o.1)
    let counts (s : List Char) : List Nat :=
      (if all || given said 'l' then [s.countP (· = '\n')] else []) ++
      (if all || given said 'w' then [countWords s] else []) ++
      (if given said 'm' then [s.length] else []) ++
      (if all || given said 'c' then [s.length] else []) ++
      (if given said 'L' then [longestLine s] else [])
    let columns := (counts []).length
    let paths := inputs said.others
    let sizes ← paths.mapM regularSize?
    let width ←
      if columns = 1 && paths.length = 1 then pure 1
      else
        let irregular ← (paths.zip sizes).anyM fun (path, size) => do
          return size.isNone && (path = "-" || (← look path).isOk)
        let sum := (sizes.filterMap id).foldl (· + ·) 0
        pure (max (toString sum).length (if irregular then 7 else 1))
    let tell (ns : List Nat) (name : Option String) : Run Unit :=
      Run.put (" ".intercalate (ns.map fun n => padLeft width (toString n)) ++
        (name.map fun name => " " ++ name).getD "" ++ "\n")
    let mut good := true
    let mut rows : List (List Nat) := []
    for path in paths do
      match ← contents path with
      | .ok s =>
        rows := rows ++ [counts s]
        tell (counts s) (if said.others.isEmpty then none else some path)
      | .error e =>
        warn (unreadable path e)
        good := false
        if e = .isDirectory then tell (counts []) (some path)
    let whole := valueOf said 't'
    let isMany := 1 < paths.length && whole ≠ some "never"
    if isMany || whole = some "always" || whole = some "only" then
      let longest := all || given said 'L'
      let sum (i : Nat) : Nat := rows.foldl (fun n r =>
        let m := r[i]?.getD 0
        if given said 'L' && longest && i + 1 = columns then max n m else n + m) 0
      tell ((List.range columns).map sum) (some "total")
    return statusFor good

/-! ### Numbers -/

/-- A number with a point: its digits as a whole number, and how many of them stand behind it. -/
structure Scaled where
  digits : Int
  places : Nat

/-- A number with a point, as it is written. -/
def scaled? (s : String) : Option Scaled :=
  let (s, exponent) := match Text.splitAt 'e' s.toList with
    | [mantissa, exponent] => (mantissa, Text.natural? exponent)
    | _ => (s.toList, some 0)
  let (negative, body) := match s with
    | '-' :: rest => (true, rest)
    | '+' :: rest => (false, rest)
    | body => (false, body)
  let whole := body.takeWhile Char.isDigit
  let rest := body.drop whole.length
  let read (fraction : List Char) : Option Scaled := do
    if whole.isEmpty && fraction.isEmpty then none
    let exponent ← exponent
    let n := (← Text.natural? (whole ++ fraction)) * Nat.pow 10 (exponent - fraction.length)
    return ⟨if negative then -(n : Int) else n, fraction.length - exponent⟩
  match rest with
  | [] => read []
  | '.' :: fraction => if fraction.all Char.isDigit then read fraction else none
  | _ => none

/-- A number with a point with so many digits behind it. -/
def showScaled (n : Int) (places : Nat) : String :=
  let base := Nat.pow 10 places
  let sign := if n < 0 then "-" else ""
  let fraction := toString (n.natAbs % base)
  sign ++ toString (n.natAbs / base) ++ (if places = 0 then "" else
    "." ++ String.ofList (List.replicate (places - fraction.length) '0') ++ fraction)

/-- A format of `seq` with one number in it: what stands before and behind, how many digits there
are behind the point, and how the number is filled up. -/
def seqFormat? (format : String) : Option (String × String × Option Nat × Nat × Bool) :=
  match format.toList.span (· ≠ '%') with
  | (before, '%' :: rest) =>
    let zero := rest.head? = some '0'
    let (width, rest) := Format.decimal (if zero then rest.drop 1 else rest)
    let (places, rest) := match rest with
      | '.' :: rest =>
        let (n, rest) := Format.decimal rest
        (some n, rest)
      | _ => (none, rest)
    match rest with
    | c :: behind =>
      if "fge".toList.contains c then
        some (String.ofList before, String.ofList behind,
          places.or (if c = 'g' then none else some 6), width, zero)
      else none
    | [] => none
  | _ => none

def seq : Tool := fun args => do
  let isNegative (a : String) : Bool := match a.toList with
    | '-' :: c :: _ => c.isDigit || c = '.'
    | _ => false
  let table := { OptionTable.make "f:s:w" "" ["format=f", "separator=s", "equal-width=w"] with
    ordered := true
    isPlain := isNegative }
  withOptions table 1 args fun said => do
    match said.others.find? fun a => (scaled? a).isNone with
    | some a => misuse 1 ("invalid floating point argument: " ++ quoted a)
    | none =>
      let numbers := said.others.filterMap scaled?
      let one : Scaled := ⟨1, 0⟩
      match (match numbers with
        | [last] => some (one, one, last)
        | [first, last] => some (first, one, last)
        | [first, step, last] => some (first, step, last)
        | _ => none) with
      | none =>
        if numbers.isEmpty then misuse 1 "missing operand"
        else misuse 1 ("extra operand " ++ quoted (said.others[3]?.getD ""))
      | some (first, step, last) =>
        let places := max first.places (max step.places last.places)
        let at' (n : Scaled) : Int := n.digits * (Nat.pow 10 (places - n.places) : Nat)
        let (a, d, b) := (at' first, at' step, at' last)
        if d = 0 then
          return ← misuse 1 ("invalid Zero increment value: " ++ quoted (said.others[1]?.getD ""))
        let count := ((b - a) / d + 1).toNat
        let shownPlaces := max first.places step.places
        let cut := (Nat.pow 10 (places - shownPlaces) : Nat)
        let plain (n : Int) : String := showScaled (n.tdiv cut) shownPlaces
        let widest := max (plain a).length (plain (a + d * ((count - 1 : Nat) : Int))).length
        let wide (s : String) : String :=
          let zeros := String.ofList (List.replicate (widest - s.length) '0')
          match s.toList with
          | '-' :: rest => "-" ++ zeros ++ String.ofList rest
          | _ => zeros ++ s
        let text (n : Int) : String :=
          match (valueOf said 'f').bind seqFormat? with
          | some (before, behind, p, width, zero) =>
            let p' := p.getD shownPlaces
            let digits := if p' ≤ places then
                showScaled (n.tdiv (Nat.pow 10 (places - p') : Nat)) p'
              else showScaled (n * (Nat.pow 10 (p' - places) : Nat)) p'
            let filler := if zero then '0' else ' '
            let fill := String.ofList (List.replicate (width - digits.length) filler)
            before ++ fill ++ digits ++ behind
          | none => if given said 'w' then wide (plain n) else plain n
        match valueOf said 'f' with
        | some format =>
          if !format.toList.contains '%' then
            return ← refuse ("format " ++ quoted format ++ " has no % directive")
        | none => pure ()
        let separator := (valueOf said 's').getD "\n"
        for i in List.range count do
          if 0 < i then Run.put separator
          Run.put (text (a + d * i))
        if 0 < count then Run.put "\n"
        return 0

/-- The prime factors of a number, from a factor on. -/
def factors : (fuel : Nat) → Nat → Nat → List Nat
  | 0, _, n => [n]
  | fuel + 1, p, n =>
    if n ≤ 1 then []
    else if n < p * p then [n]
    else if n % p = 0 then p :: factors fuel p (n / p)
    else factors fuel (p + 1) n

def factor : Tool := fun args => do
  let words ← if args.isEmpty then do
      let (lines, _) ← allLines unreadable '\n' []
      pure (lines.flatMap fun l => (Text.splitAt ' ' l).map String.ofList)
    else pure args
  let mut good := true
  for word in words.filter (· ≠ "") do
    match Text.natural? word.toList with
    | some n =>
      let all := factors 2000000 2 n
      Run.put (toString n ++ ":" ++ String.join (all.map fun p => " " ++ toString p) ++ "\n")
    | none =>
      warn (quoted word ++ " is not a valid positive integer")
      good := false
  return statusFor good

/-! ### split -/

/-- The letters at the end of the name of a part. -/
def partSuffix (length : Nat) (digits : Bool) (n : Nat) : String :=
  let base := if digits then 10 else 26
  String.ofList ((List.range length).reverse.map fun i =>
    let d := n / Nat.pow base i % base
    Char.ofNat ((if digits then 48 else 97) + d))

/-- Lists of at most so many items each. -/
def chunks {α : Type} (count : Nat) : (fuel : Nat) → List α → List (List α)
  | 0, _ | _, [] => []
  | fuel + 1, l => l.take count :: chunks count fuel (l.drop count)

def split : Tool := fun args => do
  let table := OptionTable.make "a:b:C:dl:n:" "s:v" ["suffix-length=a", "bytes=b", "line-bytes=C",
    "numeric-suffixes=d", "lines=l", "number=n", "additional-suffix=s", "verbose=v"]
  withOptions table 1 (modernWidth "-l" args) fun said => do
    let path := said.others.head?.getD "-"
    match ← contents path with
    | .error e => refuse ("cannot open " ++ named path ++ " for reading: " ++ e.words)
    | .ok s =>
      let parts := match (valueOf said 'b').bind sizeOf?, (valueOf said 'n').bind sizeOf? with
        | some n, _ => chunks (max n 1) (s.length + 1) s
        | none, some n => chunks (max ((s.length + n - 1) / max n 1) 1) (s.length + 1) s
        | none, none =>
          let n := ((valueOf said 'l').bind sizeOf?).getD 1000
          let lines := records ['\n'] (s.length + 1) [] s
          (chunks (max n 1) (lines.length + 1) lines).map List.flatten
      let start := said.others[1]?.getD "x"
      let length := ((valueOf said 'a').bind fun a => Text.natural? a.toList).getD 2
      for (part, i) in parts.zipIdx do
        let name := start ++ partSuffix length (given said 'd') i ++ (valueOf said 's').getD ""
        match ← Run.openFd name .emptying with
        | .error e => return ← refuse (unreadable name e)
        | .ok fd =>
          let _ ← Run.write fd (Text.pushOctets .empty (String.ofList part))
          Run.close fd
      return 0

end Formulary.Host.Tool
