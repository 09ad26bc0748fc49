import Formulary.Machine.Host.Tool.Format
import Formulary.Machine.Host.Tool.Input

/-!
# Tools: copying what is read

Tools that write what they read, or some of it, in the order it comes.
-/

namespace Formulary.Host.Tool

open Formulary.Host.Script

/-! ### Numbers in arguments -/

def unitSize? : String → Option Nat
  | "" => some 1
  | "b" => some 512
  | "w" => some 2
  | "c" => some 1
  | "k" | "K" | "KiB" => some 1024
  | "kB" | "KB" => some 1000
  | "M" | "MiB" => some 1048576
  | "MB" => some 1000000
  | "G" | "GiB" => some 1073741824
  | "GB" => some 1000000000
  | _ => none

def countWithUnit? (s : List Char) : Option Nat := do
  let digits := s.takeWhile Char.isDigit
  return (← (Text.natural? digits)) * (← unitSize? (String.ofList (s.drop digits.length)))

/-- A number of an option with the sign before it. -/
def signedCount? (value : String) : Option (Option Char × Nat) :=
  match value.toList with
  | '+' :: rest => (countWithUnit? rest).map (some '+', ·)
  | '-' :: rest => (countWithUnit? rest).map (some '-', ·)
  | digits => (countWithUnit? digits).map (none, ·)

/-- A number filled up with blanks to a width. -/
def padLeft (width : Nat) (s : String) : String :=
  String.ofList (List.replicate (width - s.length) ' ') ++ s

/-- A text filled up with blanks behind it to a width. -/
def padRight (width : Nat) (s : String) : String :=
  s ++ String.ofList (List.replicate (width - s.length) ' ')

/-! ### cat -/

/-- A character as it is shown where all of them are. -/
def visible (tabs others : Bool) (c : Char) : List Char :=
  let n := c.toNat
  let plain (n : Nat) : List Char :=
    if n < 0x20 then ['^', Char.ofNat (n + 0x40)]
    else if n = 0x7F then ['^', '?'] else [Char.ofNat n]
  if c = '\t' then if tabs then ['^', 'I'] else ['\t']
  else if !others then [c]
  else if n < 0x80 then plain n
  else "M-".toList ++ plain (n - 0x80)

/-- Where `cat` is between two lines. -/
structure CatState where
  number : Nat := 1
  /-- The last line had no end. -/
  unfinished : Bool := false
  /-- The last line was empty. -/
  blank : Bool := false

def cat : Tool := fun args => do
  let table := OptionTable.make "AbeEnstTuv" "" ["show-all=A", "number-nonblank=b", "show-ends=E",
    "number=n", "squeeze-blank=s", "show-tabs=T", "show-nonprinting=v"]
  withOptions table 1 args fun said => do
    let has (cs : List Char) : Bool := cs.any (given said)
    let ends := has ['A', 'e', 'E']
    let tabs := has ['A', 't', 'T']
    let others := has ['A', 'e', 't', 'v']
    if !(has ['n', 'b', 's'] || ends || tabs || others) then
      Run.modifyOwn fun l => { l with immediate := true }
      let mut good := true
      for path in inputs said.others do
        match ← openInput path with
        | .error e =>
          warn (unreadable path e)
          good := false
        | .ok fd =>
          match ← copyBytes fd Run.mostRepeats none with
          | .ok _ => pure ()
          | .error e =>
            warn (unreadable path e)
            good := false
          closeInput fd
      if (inputs said.others).contains "-" && (← Run.endpoint? 0).isNone then
        return ← refuse ("closing standard input: " ++ Fault.badDescriptor.words)
      return statusFor good
    let step (state : CatState) (line : Line) : Run (CatState × Bool) := do
      let empty := line.text.isEmpty && line.closed && !state.unfinished
      if empty && state.blank && has ['s'] then return (state, true)
      let numbered := !state.unfinished && (if has ['b'] then !empty else has ['n'])
      if numbered then Run.put (padLeft 6 (toString state.number) ++ "\t")
      putChars (line.text.flatMap (visible tabs others))
      if line.closed then Run.put (if ends then "$\n" else "\n")
      return ({
        number := if numbered then state.number + 1 else state.number
        unfinished := !line.closed
        blank := empty }, true)
    let (_, good) ← foldFiles unreadable '\n' step said.others {}
    return statusFor good

/-! ### head and tail -/

/-- An old-style number with the letters behind it, written out as options. -/
def modernNumber? (sign : String) (s : List Char) : Option (List String) :=
  let digits := s.takeWhile Char.isDigit
  let letters := s.drop digits.length
  if digits.isEmpty || !(letters.all "clqv".toList.contains) then none
  else
    let option := if letters.contains 'c' then "-c" else "-n"
    let others := letters.filter fun c => c = 'q' || c = 'v'
    some ((others.map fun c => "-" ++ c.toString) ++ [option, sign ++ String.ofList digits])

/-- The arguments of `head` with an old-style number at their start written out. -/
def modernStart (args : List String) : List String :=
  match args with
  | arg :: rest =>
    match arg.toList with
    | '-' :: s => ((modernNumber? "" s).map (· ++ rest)).getD args
    | _ => args
  | [] => []

/-- The arguments of `tail` with an old-style number written out; it must stand before a single
file. -/
def modernEnd (args : List String) : List String :=
  match args with
  | arg :: rest =>
    let alone := match rest with
      | [] => true
      | [file] => file = "-" || file.toList.head? ≠ some '-'
      | "--" :: files => files.length ≤ 1
      | _ => false
    if !alone then args
    else match arg.toList with
      | '-' :: s => ((modernNumber? "" s).map (· ++ rest)).getD args
      | '+' :: s => ((modernNumber? "+" s).map (· ++ rest)).getD args
      | _ => args
  | [] => []

/-- The first digit that stands where an option should. -/
def strayDigit? (args : List String) : Option Char :=
  (args.takeWhile (· ≠ "--")).findSome? fun a =>
    match a.toList with
    | '-' :: c :: _ => if c.isDigit then some c else none
    | _ => none

def title (said : OptionTable.Said) (first : Bool) (path : String) : Run Unit := do
  let quiet := lastOf said ['q', 'v'] = some 'q'
  if given said 'v' && !quiet || 1 < said.others.length && !quiet then
    let shownName := if path = "-" then "standard input" else path
    Run.put ((if first then "" else "\n") ++ "==> " ++ shownName ++ " <==\n")

/-- A complaint about a file of `head` or `tail` that cannot be read. -/
def unreadableEnd (path : String) (e : Fault) : String :=
  let shownName := named (if path = "-" then "standard input" else path)
  if e = .isDirectory then "error reading " ++ shownName ++ ": " ++ e.words
  else "cannot open " ++ shownName ++ " for reading: " ++ e.words

/-- Copies the first lines of what a descriptor reads from, and takes no byte more of a file. -/
def copyLines (fd : Nat) (ending : Char) : (fuel : Nat) → (count : Nat) → Run (Except Fault Unit)
  | 0, _ | _, 0 => return .ok ()
  | fuel + 1, count => do
    Run.spend
    let e := (← Run.endpoint? fd).getD .sink
    let got ← match e with
      | .file _ => Run.readFrom e Run.readSize (some (Text.octet ending)) false
      | _ => Run.read fd 8192
    match got with
    | .error e => return .error e
    | .ok bytes =>
      if bytes.isEmpty then return .ok ()
      let s := Run.characters bytes
      let ends := s.countP (· = ending)
      if ends < count then
        Run.putBytes bytes
        copyLines fd ending fuel (count - ends)
      else
        let rec upTo : Nat → List Char → List Char → List Char
          | 0, out, _ => out.reverse
          | _, out, [] => out.reverse
          | n + 1, out, c :: rest => upTo (if c = ending then n else n + 1) (c :: out) rest
        putChars (upTo count [] s)
        return .ok ()

/-- Lines with their ends, the last one as it was. -/
def joinLines (ending : Char) (lines : List (List Char)) (closed : Bool) : List Char :=
  (lines.intersperse [ending]).flatten ++ (if closed && !lines.isEmpty then [ending] else [])

/-- What `head` and `tail` are asked for. -/
inductive Share where
  | bytes (sign : Option Char) (count : Nat)
  | lines (sign : Option Char) (count : Nat)

/-- What `head` or `tail` is asked for; a text that is no number if it cannot be read. -/
def share? (said : OptionTable.Said) : Except String Share :=
  match said.options.reverse.find? fun o => o.1 = 'n' || o.1 = 'c' with
  | none => .ok (.lines none 10)
  | some (c, value) =>
    match signedCount? value, c with
    | some (sign, n), 'c' => .ok (.bytes sign n)
    | some (sign, n), _ => .ok (.lines sign n)
    | none, _ =>
      let shownValue := if value.toList.head? = some '-' then String.ofList (value.toList.drop 1)
        else value
      .error ("invalid number of " ++ (if c = 'c' then "bytes" else "lines") ++ ": " ++
        quoted shownValue)

def shareTable (letters nameless : String) (names : List String) : OptionTable :=
  OptionTable.make ("c:n:qvz" ++ letters) nameless (["bytes=c", "lines=n", "quiet=q", "silent=q",
    "verbose=v", "zero-terminated=z"] ++ names)

def head : Tool := fun args => do
  let args := modernStart args
  match strayDigit? args with
  | some c =>
    if !args.contains "-n" && !args.contains "-c" then
      return ← misuse 1 ("invalid trailing option -- " ++ c.toString)
  | none => pure ()
  withOptions (shareTable "" "" []) 1 args fun said => do
    let ending := if given said 'z' then Char.ofNat 0 else '\n'
    match share? said with
    | .error e => refuse e
    | .ok share =>
      let mut good := true
      let mut first := true
      for path in inputs said.others do
        match ← openInput path with
        | .error e =>
          warn (unreadableEnd path e)
          good := false
        | .ok fd =>
          title said first path
          first := false
          let result ← match share with
            | .lines (some '-') n =>
              match ← Run.readAll fd with
              | .error e => pure (.error e)
              | .ok bytes =>
                let s := Run.characters bytes
                let all := linesOf s ending
                let kept := all.take (all.length - n)
                putChars (joinLines ending kept
                  (kept.length < all.length || s.getLast? = some ending))
                pure (.ok ())
            | .bytes (some '-') n =>
              match ← Run.readAll fd with
              | .error e => pure (.error e)
              | .ok bytes =>
                Run.putBytes (bytes.extract 0 (bytes.size - n))
                pure (.ok ())
            | .lines _ n => copyLines fd ending Run.mostRepeats n
            | .bytes _ n => copyBytes fd Run.mostRepeats (some n)
          match result with
          | .ok _ => pure ()
          | .error e =>
            warn (unreadableEnd path e)
            good := false
          closeInput fd
      return statusFor good

def tail : Tool := fun args => do
  let table := shareTable "fFs:" "p:r" ["follow=f", "pid=p", "retry=r", "sleep-interval=s"]
  let args := modernEnd args
  match strayDigit? args with
  | some c =>
    if !args.contains "-n" && !args.contains "-c" then
      return ← refuse ("option used in invalid context -- " ++ c.toString)
  | none => pure ()
  withOptions table 1 args fun said => do
    let ending := if given said 'z' then Char.ofNat 0 else '\n'
    match share? said with
    | .error e => refuse e
    | .ok share =>
      let mut good := true
      let mut first := true
      for path in inputs said.others do
        match ← contents path with
        | .error e =>
          warn (unreadableEnd path e)
          good := false
        | .ok s =>
          title said first path
          first := false
          match share with
          | .bytes (some '+') n => putChars (s.drop (n - 1))
          | .bytes _ n => putChars (s.drop (s.length - n))
          | .lines sign n =>
            let all := linesOf s ending
            let kept := if sign = some '+' then all.drop (n - 1) else all.drop (all.length - n)
            putChars (joinLines ending kept (s.getLast? = some ending))
      if good && (given said 'f' || given said 'F') then
        Run.flush
        Run.waitFor .never
      return statusFor good

/-! ### tee, yes and dd -/

/-- Copies what a descriptor reads from to the output and to others. -/
def copyTo (targets : List (String × Nat)) : (fuel : Nat) → Run Bool
  | 0 => return true
  | fuel + 1 => do
    Run.spend
    match ← Run.read 0 Run.readSize with
    | .error e =>
      warn ("read error: " ++ e.words)
      return false
    | .ok bytes =>
      if bytes.isEmpty then return true
      Run.putBytes bytes
      let mut good := true
      for (path, fd) in targets do
        match ← Run.write fd bytes with
        | .ok _ => pure ()
        | .error e =>
          warn (unreadable path e)
          good := false
      return (← copyTo (if good then targets else []) fuel) && good

/-- `tee`: its input, written to files as well. -/
def tee : Tool := fun args => do
  let table := OptionTable.make "aip" "o::" ["append=a", "ignore-interrupts=i", "output-error=o"]
  withOptions table 1 args fun said => do
    Run.modifyOwn fun l => { l with
      immediate := true
      ignored := if given said 'i' then .interrupt :: l.ignored else l.ignored }
    let mut good := true
    let mut targets : List (String × Nat) := []
    for path in said.others do
      match ← Run.openFd path (if given said 'a' then .appending else .emptying) with
      | .ok fd => targets := targets ++ [(path, fd)]
      | .error e =>
        warn (unreadable path e)
        good := false
    return statusFor ((← copyTo targets Run.mostRepeats) && good)

/-- `yes`: the same line again and again, until nobody reads it. -/
def yes : Tool := fun args => do
  withOptions (OptionTable.make "" "" []) 1 args fun said => do
    let line := if said.others.isEmpty then "y" else " ".intercalate said.others
    let bytes := Text.pushOctets .empty (line ++ "\n")
    let times := 8192 / bytes.size + 1
    let block := (List.range times).foldl (fun b _ => b.append bytes) ByteArray.empty
    let step : Run Bool := do
      Run.spend
      Run.tick 10
      Run.putBytes block
      Run.flush
      return (← Run.own Local.unwritten).isNone
    Run.repeatWhile step Run.mostRepeats
    return 1

/-- The number of bytes a size of `dd` stands for. -/
def sizeOf? (s : String) : Option Nat := do
  let factors ← (Text.splitAt 'x' s.toList).mapM countWithUnit?
  return factors.foldl (· * ·) 1

/-- What `dd` did: blocks it read and wrote in full and in part. -/
structure Blocks where
  full : Nat := 0
  cut : Nat := 0

def Blocks.told (b : Blocks) : String := toString b.full ++ "+" ++ toString b.cut

/-- Copies blocks from one descriptor to another one; what has not been written yet is `held`. -/
def copyBlocks (input output block : Nat) (convert : ByteArray → ByteArray) (held : ByteArray) :
    (fuel : Nat) → (count : Option Nat) → Blocks × Nat → Run (Blocks × Nat)
  | 0, _, done => return done
  | _, some 0, done => do
    let _ ← Run.write output held
    return done
  | fuel + 1, count, (b, size) => do
    Run.spend
    let got ← Run.read input block
    match got with
    | .error e => warn ("error reading 'standard input': " ++ e.words)
    | .ok _ => pure ()
    let bytes := got.toOption.getD .empty
    if bytes.isEmpty then
      let _ ← Run.write output held
      return (b, size)
    let b := if bytes.size = block then { b with full := b.full + 1 }
      else { b with cut := b.cut + 1 }
    let done := (b, size + bytes.size)
    let held := held.append (convert bytes)
    if held.size < Run.readSize then
      copyBlocks input output block convert held fuel (count.map (· - 1)) done
    else
      let _ ← Run.write output held
      copyBlocks input output block convert .empty fuel (count.map (· - 1)) done

def dd : Tool := fun args => do
  let value (key : String) : Option String :=
    let mark := (key ++ "=").toList
    args.reverse.findSome? fun a =>
      if mark.isPrefixOf a.toList then some (String.ofList (a.toList.drop mark.length)) else none
  let size (key : String) (absent : Nat) : Nat := ((value key).bind sizeOf?).getD absent
  let known := ["if", "of", "bs", "ibs", "obs", "cbs", "count", "skip", "seek", "conv", "status",
    "iflag", "oflag"]
  match args.find? fun a => !known.contains (String.ofList (a.toList.takeWhile (· ≠ '='))) with
  | some a => misuse 1 ("unrecognized operand " ++ quoted a)
  | none =>
    let conversions := (Text.splitAt ',' ((value "conv").getD "").toList).map String.ofList
    let block := size "bs" (size "ibs" 512)
    let convert (bytes : ByteArray) : ByteArray :=
      let change (f : Char → Char) : ByteArray :=
        ⟨(bytes.toList.map fun b => Text.octet (f (Char.ofNat b.toNat))).toArray⟩
      if conversions.contains "ucase" then change Char.toUpper
      else if conversions.contains "lcase" then change Char.toLower else bytes
    let input ← match value "if" with
      | some path => openInput path
      | none => pure (.ok 0)
    match input with
    | .error e => refuse ("failed to open " ++ named ((value "if").getD "") ++ ": " ++ e.words)
    | .ok input =>
      let keeps := conversions.contains "notrunc" || (value "oflag") = some "append"
      let how : Run.Opening := if (value "oflag") = some "append" then .appending
        else if keeps || (value "seek").isSome then .changing else .emptying
      let output ← match value "of" with
        | some path => Run.openFd path how
        | none => pure (.ok 1)
      match output with
      | .error e => refuse ("failed to open " ++ named ((value "of").getD "") ++ ": " ++ e.words)
      | .ok output =>
        let skipped := size "skip" 0 * block
        if 0 < skipped then let _ ← Run.read input skipped
        match value "seek", ← Run.endpoint? output with
        | some _, some (.file index) =>
          let offset := size "seek" 0 * size "bs" (size "obs" 512)
          modify fun s => { s with opened := s.opened.modify index fun o => { o with offset } }
        | _, _ => pure ()
        let count := (value "count").bind sizeOf?
        let (b, total) ← copyBlocks input output block convert .empty Run.mostRepeats count
          ({}, 0)
        let told := value "status"
        if told ≠ some "none" then
          Run.complain (b.told ++ " records in\n" ++ b.told ++ " records out\n")
          if told ≠ some "noxfer" then
            let shown := toString total
            Run.complain (shown ++ " bytes copied, 0.0001 s, " ++ shown ++ " kB/s\n")
        return 0

end Formulary.Host.Tool
