import Formulary.Machine.Host.Script.Pattern
import Formulary.Machine.Host.Tool.Copy

/-!
# Tools: byte by byte

Tools that replace single bytes, or show bytes by other characters.
-/

namespace Formulary.Host.Tool

open Formulary.Host.Script

/-! ### Sets of tr -/

/-- A part of a set of `tr`. -/
inductive SetPart where
  | chars (s : List Char)
  /-- A character so many times; as often as there is room for it if that is zero. -/
  | repeated (c : Char) (count : Nat)

/-- A character of a set, behind a backslash or not, and what follows it. -/
def setChar : List Char → Option (Char × List Char)
  | [] => none
  | '\\' :: rest =>
    match rest with
    | [] => some ('\\', [])
    | c :: more =>
      if Format.isOctal c || "abfnrtv\\".toList.contains c then
        match Format.escape? .shell rest with
        | some found => some found
        | none => some (c, more)
      else some (c, more)
  | c :: rest => some (c, rest)

/-- The parts of a set; what is wrong with it if it cannot be read. -/
def setParts : (fuel : Nat) → List Char → Except String (List SetPart)
  | 0, _ | _, [] => .ok []
  | fuel + 1, '[' :: ':' :: rest => do
    let name := rest.takeWhile (· ≠ ':')
    match rest.drop name.length with
    | ':' :: ']' :: after =>
      match Pattern.kind? (String.ofList name) with
      | some k =>
        return .chars (((List.range 256).map Char.ofNat).filter k) :: (← setParts fuel after)
      | none => throw ("invalid character class " ++ quoted (String.ofList name))
    | _ => return .chars ['['] :: (← setParts fuel (':' :: rest))
  | fuel + 1, '[' :: '=' :: c :: '=' :: ']' :: rest => do
    return .chars [c] :: (← setParts fuel rest)
  | fuel + 1, s => do
    let bracketed : Option (SetPart × List Char) := do
      match s with
      | '[' :: rest =>
        let (c, rest) ← setChar rest
        match rest with
        | '*' :: rest =>
          let digits := rest.takeWhile Char.isDigit
          match rest.drop digits.length with
          | ']' :: after =>
            let n := match digits with
              | '0' :: _ => (Format.octal digits.length digits).1
              | _ => (Text.natural? digits).getD 0
            some (.repeated c n, after)
          | _ => none
        | _ => none
      | _ => none
    match bracketed with
    | some (part, rest) => return part :: (← setParts fuel rest)
    | none =>
      match setChar s with
      | none => return []
      | some (c, rest) =>
        match rest with
        | '-' :: d :: _ =>
          match setChar (rest.drop 1) with
          | some (last, after) =>
            if last.toNat < c.toNat then
              let shownChar (c : Char) : String := if canShow c then c.toString else escaped c
              throw ("range-endpoints of '" ++ shownChar c ++ "-" ++ shownChar last ++
                "' are in reverse collating sequence order")
            let all := (List.range (last.toNat + 1 - c.toNat)).map fun i => Char.ofNat (c.toNat + i)
            return .chars all :: (← setParts fuel after)
          | none => return .chars [c, '-', d] :: (← setParts fuel (rest.drop 2))
        | _ => return .chars [c] :: (← setParts fuel rest)

/-- The characters of a set, as many as there is room for. -/
def setOf (room : Nat) (parts : List SetPart) : List Char :=
  let size := parts.foldl (fun n p => match p with
    | .chars s => n + s.length
    | .repeated _ count => n + count) 0
  parts.flatMap fun
    | .chars s => s
    | .repeated c 0 => List.replicate (room - size) c
    | .repeated c n => List.replicate n c

/-- Characters without the repetitions of those in a set, behind one of them. -/
def squeeze (set : Array Bool) (last : Option Char) (s : List Char) : List Char × Option Char :=
  let (out, last) := s.foldl (fun (out, last) c =>
    if last = some c && set[c.toNat]?.getD false then (out, last)
    else (c :: out, some c)) ([], last)
  (out.reverse, last)

def tableOf (set : List Char) : Array Bool :=
  set.foldl (fun t c => t.set! c.toNat true) (Array.replicate 256 false)

/-- What `tr` does with a piece of its input, and the last character it wrote. -/
def trLoop (change : List Char → List Char) (squeezed : Option (Array Bool)) :
    (fuel : Nat) → Option Char → Run Nat
  | 0, _ => return 0
  | fuel + 1, last => do
    Run.spend
    match ← Run.read 0 Run.readSize with
    | .error e => refuse ("read error: " ++ e.words)
    | .ok bytes =>
      if bytes.isEmpty then return 0
      let s := change (Run.characters bytes)
      match squeezed with
      | none =>
        putChars s
        trLoop change squeezed fuel none
      | some set =>
        let (s, last) := squeeze set last s
        putChars s
        trLoop change squeezed fuel last

def tr : Tool := fun args => do
  let table := { OptionTable.make "cCdst" "" ["complement=c", "delete=d", "squeeze-repeats=s",
    "truncate-set1=t"] with ordered := true }
  withOptions table 1 args fun said => do
    let deletes := given said 'd'
    let squeezes := given said 's'
    let most := if deletes && !squeezes then 1 else 2
    let least := if deletes != squeezes then 1 else 2
    match said.others with
    | [] => misuse 1 "missing operand"
    | [one] =>
      if least = 2 then
        warn ("missing operand after " ++ quoted one)
        Run.complain (if squeezes then
            "Two strings must be given when both deleting and squeezing repeats.\n"
          else "Two strings must be given when translating.\n")
        hint
        return 1
      else perform said one none
    | one :: two :: rest =>
      match (if most = 1 then some two else rest.head?) with
      | some extra =>
        warn ("extra operand " ++ quoted extra)
        if most = 1 then
          Run.complain "Only one string may be given when deleting without squeezing repeats.\n"
        hint
        return 1
      | none => perform said one (some two)
where
  perform (said : OptionTable.Said) (one : String) (two : Option String) : Run Nat := do
    let complement := given said 'c' || given said 'C'
    let translates := two.isSome && !given said 'd'
    match setParts (one.length + 1) one.toList, setParts ((two.getD "").length + 1)
        (two.getD "").toList with
    | .error e, _ | _, .error e => refuse e
    | .ok p, .ok q =>
      let plain := setOf 0 p
      let first := if complement then
          ((List.range 256).map Char.ofNat).filter fun c => !plain.contains c
        else plain
      let second := setOf first.length q
      if translates && second.isEmpty && !given said 't' then
        return ← refuse "when not truncating set1, string2 must be non-empty"
      let firstTable := tableOf first
      let inFirst (c : Char) : Bool := firstTable[c.toNat]?.getD false
      let pairs := first.zipIdx.filterMap fun (c, i) =>
        ((second[i]?).or (if given said 't' then none else second.getLast?)).map (c, ·)
      let map := pairs.foldl (fun t (c, d) => t.set! c.toNat d)
        ((List.range 256).map Char.ofNat).toArray
      let change (s : List Char) : List Char :=
        if given said 'd' then s.filter fun c => !inFirst c
        else if translates then s.map fun c => map[c.toNat]?.getD c
        else s
      let squeezed := if !given said 's' then none
        else some (tableOf (if two.isSome then second else first))
      trLoop change squeezed Run.mostRepeats none

/-! ### od -/

/-- A form in which `od` shows bytes: a kind and the size of its items. -/
structure Shape where
  kind : Char
  size : Nat

def Shape.width (s : Shape) : Nat :=
  match s.kind, s.size with
  | 'c', _ | 'a', _ => 3
  | 'x', n => 2 * n
  | 'o', 1 => 3
  | 'o', 2 => 6
  | 'o', 4 => 11
  | 'o', _ => 22
  | 'u', 1 => 3
  | 'u', 2 => 5
  | 'u', 4 => 10
  | 'u', _ => 20
  | _, 1 => 4
  | _, 2 => 6
  | _, 4 => 11
  | _, _ => 20

def controlNames : List String := ["nul", "soh", "stx", "etx", "eot", "enq", "ack", "bel", "bs",
  "ht", "nl", "vt", "ff", "cr", "so", "si", "dle", "dc1", "dc2", "dc3", "dc4", "nak", "syn", "etb",
  "can", "em", "sub", "esc", "fs", "gs", "rs", "us", "sp"]

/-- An item as it is shown; the bytes stand with the least one first. -/
def Shape.text (s : Shape) (bytes : List Char) : String :=
  let n := bytes.reverse.foldl (fun n c => n * 256 + c.toNat) 0
  let zeros (digits : String) : String :=
    String.ofList (List.replicate (s.width - digits.length) '0') ++ digits
  match s.kind with
  | 'c' =>
    let c := bytes.headD ' '
    if c.toNat = 0 then "\\0" else if canShow c then c.toString else
      match escapeLetter? c with
      | some letter => "\\" ++ letter.toString
      | none => octalDigits c.toNat
  | 'a' =>
    let m := n % 128
    if m = 127 then "del" else (controlNames[m]?).getD (Char.ofNat m).toString
  | 'x' => zeros (Format.digitsOf 16 n)
  | 'o' => zeros (Format.digitsOf 8 n)
  | 'u' => toString n
  | _ =>
    let top := Nat.pow 2 (8 * s.size)
    toString (if n < top / 2 then (n : Int) else (n : Int) - top)

/-- The forms of a type, as it is written. -/
def shapes? : (fuel : Nat) → List Char → Option (List Shape)
  | 0, _ | _, [] => some []
  | fuel + 1, c :: rest =>
    if c = 'c' || c = 'a' then (shapes? fuel rest).map (⟨c, 1⟩ :: ·)
    else if "doux".toList.contains c then
      let digits := rest.takeWhile Char.isDigit
      let (size, rest) := match rest with
        | 'C' :: rest => (1, rest)
        | 'S' :: rest => (2, rest)
        | 'I' :: rest => (4, rest)
        | 'L' :: rest => (8, rest)
        | _ => if digits.isEmpty then (4, rest)
          else ((Text.natural? digits).getD 4, rest.drop digits.length)
      if [1, 2, 4, 8].contains size then (shapes? fuel rest).map (⟨c, size⟩ :: ·) else none
    else none

def itemsOf (size : Nat) : (fuel : Nat) → List Char → List (List Char)
  | 0, _ | _, [] => []
  | fuel + 1, s => s.take size :: itemsOf size fuel (s.drop size)

def od : Tool := fun args => do
  let table := OptionTable.make "A:j:N:t:vw::abcdfhilosx" "" ["address-radix=A", "skip-bytes=j",
    "read-bytes=N", "format=t", "output-duplicates=v", "width=w"]
  withOptions table 1 args fun said => do
    let old : List (Char × String) := [('a', "a"), ('b', "o1"), ('c', "c"), ('d', "u2"),
      ('i', "dI"), ('l', "dL"), ('o', "o2"), ('s', "d2"), ('x', "x2"), ('h', "x2")]
    let types := said.options.filterMap fun o =>
      if o.1 = 't' then some o.2 else old.lookup o.1
    let types := if types.isEmpty then ["o2"] else types
    match types.find? fun t => (shapes? (t.length + 1) t.toList).isNone with
    | some t => refuse ("invalid type string " ++ quoted t)
    | none =>
      let all := types.flatMap fun t => (shapes? (t.length + 1) t.toList).getD []
      let mut data : List (List Char) := []
      let mut good := true
      for path in inputs said.others do
        match ← contents path with
        | .ok s => data := s :: data
        | .error e =>
          warn (unreadable path e)
          good := false
      let number (c : Char) : Option Nat := (valueOf said c).bind fun v => countWithUnit? v.toList
      let skipped := (number 'j').getD 0
      let s := data.reverse.flatten.drop skipped
      let s := match number 'N' with
        | some n => s.take n
        | none => s
      let width := if given said 'w' then (number 'w').getD 32 else 16
      let address (n : Nat) : String :=
        let digits (base width : Nat) : String :=
          let d := Format.digitsOf base n
          String.ofList (List.replicate (width - d.length) '0') ++ d
        match valueOf said 'A' with
        | some "n" => ""
        | some "d" => digits 10 7
        | some "x" => digits 16 6
        | _ => digits 8 7
      let widest := all.foldl (fun n x => max n ((x.width + 1) * (8 / x.size))) 0
      let rows := itemsOf width (s.length + 1) s
      let mut before : Option (List Char) := none
      let mut starred := false
      for (row, i) in rows.zipIdx do
        if before = some row && !given said 'v' && i + 1 < rows.length then
          if !starred then Run.put "*\n"
          starred := true
        else
          starred := false
          for (x, j) in all.zipIdx do
            let label := if j = 0 then address (skipped + i * width)
              else String.ofList (List.replicate (address 0).length ' ')
            -- every eight bytes take the same room in all forms
            let room := widest * x.size / 8
            let cells := (itemsOf x.size (row.length + 1) row).map fun item =>
              padLeft room (x.text item)
            Run.put (label ++ String.join cells ++ "\n")
        before := some row
      if valueOf said 'A' ≠ some "n" then Run.put (address (skipped + s.length) ++ "\n")
      return statusFor good

/-! ### base64 -/

def base64Characters : List Char :=
  "ABCDEFGHIJKLMNOPQRSTUVWXYZabcdefghijklmnopqrstuvwxyz0123456789+/".toList

def base32Characters : List Char := "ABCDEFGHIJKLMNOPQRSTUVWXYZ234567".toList

/-- The characters for bytes: so many bits each, filled up to groups of a size. -/
def encodeBits (alphabet : Array Char) (bits group : Nat) : (fuel : Nat) → (buffer held : Nat) →
    List Char → Nat → List Char
  | 0, _, _, _, _ => []
  | fuel + 1, buffer, held, s, written =>
    if bits ≤ held then
      let d := buffer / Nat.pow 2 (held - bits)
      (alphabet[d]?.getD '=') :: encodeBits alphabet bits group fuel
        (buffer % Nat.pow 2 (held - bits)) (held - bits) s (written + 1)
    else
      match s with
      | c :: rest => encodeBits alphabet bits group fuel (buffer * 256 + c.toNat) (held + 8) rest
          written
      | [] =>
        if 0 < held then
          (alphabet[buffer * Nat.pow 2 (bits - held)]?.getD '=') ::
            encodeBits alphabet bits group fuel 0 0 [] (written + 1)
        else List.replicate ((group - written % group) % group) '='

/-- The bytes for characters; false if one of them does not belong there. -/
def decodeBits (alphabet : List Char) (bits : Nat) : (buffer held : Nat) → List Char →
    List Char × Bool
  | _, _, [] => ([], true)
  | buffer, held, c :: rest =>
    if c = '=' then ([], rest.all (· = '='))
    else
      match alphabet.idxOf? c with
      | none => ([], false)
      | some d =>
        let buffer := buffer * Nat.pow 2 bits + d
        let held := held + bits
        if 8 ≤ held then
          let left := buffer % Nat.pow 2 (held - 8)
          let (out, good) := decodeBits alphabet bits left (held - 8) rest
          (Char.ofNat (buffer / Nat.pow 2 (held - 8)) :: out, good)
        else decodeBits alphabet bits buffer held rest

/-- `base64` and `base32`: bytes as plain characters, and back. -/
def baseTool (alphabet : List Char) (bits group : Nat) : Tool := fun args => do
  let table := OptionTable.make "diw:" "" ["decode=d", "ignore-garbage=i", "wrap=w"]
  withOptions table 1 args fun said => do
    match said.others with
    | _ :: extra :: _ => misuse 1 ("extra operand " ++ quoted extra)
    | _ =>
      let path := said.others.head?.getD "-"
      match ← contents path with
      | .error e =>
        refuse (if e = .isDirectory then "read error: " ++ e.words else unreadable path e)
      | .ok s =>
        if given said 'd' then
          let s := s.filter fun c => c ≠ '\n' &&
            (!given said 'i' || alphabet.contains c || c = '=')
          let (out, good) := decodeBits alphabet bits 0 0 s
          putChars out
          if good && s.length % group = 0 then return 0
          refuse "invalid input"
        else
          let out := encodeBits alphabet.toArray bits group (3 * s.length + 20) 0 0 s 0
          match ((valueOf said 'w').map fun w => Text.natural? w.toList).getD (some 76) with
          | none => refuse ("invalid wrap size: " ++ quoted ((valueOf said 'w').getD ""))
          | some 0 =>
            putChars out
            return 0
          | some width =>
            for row in itemsOf width (out.length + 1) out do putLine row
            return 0

end Formulary.Host.Tool
