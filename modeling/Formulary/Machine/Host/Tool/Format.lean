import Formulary.Machine.Host.Tool.Fraction
import Formulary.Machine.Host.Tool.Input

/-!
# Tools: formatted output

What `printf` and `echo` write. Each of them is a command of the shell and a program as well; the
two differ in the escapes and directives they know and in what they complain about.
-/

namespace Formulary.Host.Tool.Format

open Formulary.Host.Script

/-- The character of a code, as a single byte. -/
def byte (n : Nat) : Char := Char.ofNat (n % 256)

def isOctal (c : Char) : Bool := '0' ≤ c && c ≤ '7'

/-- The number of at most so many octal digits, and what follows them. -/
def octal (most : Nat) (s : List Char) : Nat × List Char :=
  let digits := (s.take most).takeWhile isOctal
  (digits.foldl (fun n c => n * 8 + (c.toNat - '0'.toNat)) 0, s.drop digits.length)

/-- The two that write formatted output. -/
inductive Writer where
  /-- The shell's own command. -/
  | shell
  /-- The program. -/
  | program
  deriving DecidableEq

/-- The number of at most two hexadecimal digits, and what follows them. -/
def hexadecimal (s : List Char) : Option (Nat × List Char) :=
  let digits := (s.take 2).takeWhile fun c => Arithmetic.digitValue c < 16
  (Arithmetic.ofDigits? 16 digits).map (·, s.drop digits.length)

/-- The character behind a backslash, and what follows it. -/
def escape? (w : Writer) : List Char → Option (Char × List Char)
  | 'a' :: s => some ('\x07', s)
  | 'b' :: s => some ('\x08', s)
  | 'e' :: s => some ('\x1b', s)
  | 'f' :: s => some ('\x0c', s)
  | 'n' :: s => some ('\n', s)
  | 'r' :: s => some ('\r', s)
  | 't' :: s => some ('\t', s)
  | 'v' :: s => some ('\x0b', s)
  | '\\' :: s => some ('\\', s)
  | c :: s =>
    if isOctal c then
      let (n, rest) := octal 3 (c :: s)
      some (byte n, rest)
    else if w = .program && c = 'x' then (hexadecimal s).map fun (n, rest) => (byte n, rest)
    else none
  | [] => none

/-- A text with its escapes replaced, last character first, and whether one of them stops all
output. Octal numbers may begin with one more zero. -/
def unescape (w : Writer) : Nat → List Char → List Char → List Char × Bool
  | 0, _, out => (out, false)
  | _ + 1, [], out => (out, false)
  | fuel + 1, '\\' :: s, out =>
    match s with
    | 'c' :: _ => (out, true)
    | '0' :: rest =>
      let (n, rest) := octal 3 rest
      unescape w fuel rest (byte n :: out)
    | _ =>
      match escape? w s with
      | some (c, rest) => unescape w fuel rest (c :: out)
      | none => unescape w fuel s ('\\' :: out)
  | fuel + 1, c :: s, out => unescape w fuel s (c :: out)

/-! ### echo -/

/-- Arguments with their escapes replaced, and a line end unless something is against it. -/
def echoed (w : Writer) (ended : Bool) (args : List String) : String :=
  let text := (" ".intercalate args).toList
  let (out, stopped) := unescape w (text.length + 1) text []
  String.ofList out.reverse ++ (if ended && !stopped then "\n" else "")

def shellEcho : Tool := fun args => do
  match args with
  | "-n" :: rest => Run.put (echoed .shell false rest)
  | _ => Run.put (echoed .shell true args)
  return 0

/-- `echo` as a program, for which a backslash is a character like any other unless it is asked
for. -/
def echo : Tool := fun args => do
  let options := args.takeWhile fun a =>
    1 < a.length && a.toList.head? = some '-' && (a.toList.drop 1).all "neE".toList.contains
  let rest := args.drop options.length
  let letters := options.flatMap fun o => o.toList.drop 1
  let ended := !letters.contains 'n'
  if (letters.filter fun c => c ≠ 'n').getLast? = some 'e' then Run.put (echoed .program ended rest)
  else Run.put (" ".intercalate rest ++ (if ended then "\n" else ""))
  return 0

/-! ### Directives -/

/-- A directive of a format. -/
structure Directive where
  left : Bool := false
  plus : Bool := false
  space : Bool := false
  alternate : Bool := false
  zero : Bool := false
  width : Nat := 0
  precision : Option Nat := none

def flags : Nat → Directive → List Char → Directive × List Char
  | 0, d, s => (d, s)
  | fuel + 1, d, s =>
    match s with
    | '-' :: s => flags fuel { d with left := true } s
    | '+' :: s => flags fuel { d with plus := true } s
    | ' ' :: s => flags fuel { d with space := true } s
    | '#' :: s => flags fuel { d with alternate := true } s
    | '0' :: s => flags fuel { d with zero := true } s
    | _ => (d, s)

/-- A decimal number, and what follows it. -/
def decimal (s : List Char) : Nat × List Char :=
  let digits := s.takeWhile Char.isDigit
  ((Text.natural? digits).getD 0, s.drop digits.length)

def pad (d : Directive) (s : String) : String :=
  let fill := String.ofList (List.replicate (d.width - s.length) ' ')
  if d.left then s ++ fill else fill ++ s

def digitsOf (base n : Nat) : String := String.ofList (Nat.toDigits base n)

/-- A number with its sign, filled up to a width. -/
def padSigned (d : Directive) (zero : Bool) (sign digits : String) : String :=
  if zero && d.zero && !d.left then
    sign ++ String.ofList (List.replicate (d.width - (sign ++ digits).length) '0') ++ digits
  else pad d (sign ++ digits)

/-- A number with its sign and its digits filled up. -/
def padNumber (d : Directive) (sign digits : String) : String :=
  match d.precision with
  | some p =>
    let digits := if p = 0 && digits = "0" then "" else digits
    padSigned d false sign (String.ofList (List.replicate (p - digits.length) '0') ++ digits)
  | none => padSigned d true sign digits

/-! ### Numbers in arguments -/

/-- What is wrong with a number. -/
inductive NumberFault where
  | noNumber
  | notAll
  | outOfRange

/-- The complaint about an argument that is no number. -/
def NumberFault.text (w : Writer) (arg : String) : NumberFault → String
  | noNumber =>
    if w = .shell then arg ++ ": expected numeric value"
    else named arg ++ ": expected a numeric value"
  | notAll =>
    if w = .shell then arg ++ ": not completely converted"
    else named arg ++ ": value not completely converted"
  | outOfRange =>
    (if w = .shell then arg else named arg) ++ ": Numerical result out of range"

/-- A character that is blank to a number. -/
def isBlank (c : Char) : Bool := " \t\n\r\x0b\x0c".toList.contains c

/-- The sign of a number behind blanks, and what follows it. -/
def signOf (s : List Char) : Bool × List Char :=
  match s.dropWhile isBlank with
  | '-' :: rest => (true, rest)
  | '+' :: rest => (false, rest)
  | rest => (false, rest)

def largestWord : Nat := Nat.pow 2 64 - 1

/-- The whole number an argument stands for within 64 bits, with a sign or without, and what is
wrong with it. -/
def numberOf (isSigned : Bool) (arg : String) : Int × Option NumberFault :=
  match arg.toList with
  | [] => (0, none)
  | '\'' :: c :: _ | '"' :: c :: _ => (c.toNat, none)
  | s =>
    let (negative, body) := signOf s
    match Arithmetic.leading? body with
    | none => (0, some .noNumber)
    | some (n, rest) =>
      let m := n.natAbs
      let limit := if isSigned then largestWord / 2 + (if negative then 1 else 0) else largestWord
      let value : Int := if limit < m then (if negative && !isSigned then -1 else limit) else m
      let fault := if limit < m then some NumberFault.outOfRange
        else if rest.isEmpty then none else some .notAll
      (if negative && (isSigned || m ≤ limit) then -value else value, fault)

/-- The number with a fraction that an argument stands for, with whether it is below zero, and what
is wrong with it. -/
def fractionOf (w : Writer) (arg : String) : Bool × Fraction × Option NumberFault :=
  match arg.toList with
  | [] => (false, .ratio 0 1, none)
  | '\'' :: c :: _ | '"' :: c :: _ => (false, .ratio c.toNat 1, none)
  | s =>
    let (negative, body) := signOf s
    match Fraction.read? body with
    | none => (false, .ratio 0 1, some .noNumber)
    | some (f, rest) =>
      (negative, f.rounded (if w = .shell then 53 else 64),
        if rest.isEmpty then none else some .notAll)

/-! ### Formats -/

/-- What comes out, one thing after another. -/
inductive Said where
  | text (s : String)
  /-- A complaint after which the rest is written all the same. -/
  | fault (s : String)
  /-- A complaint that ends everything. -/
  | failure (s : String)

/-- What has been said, last first, and what is left of the arguments. -/
structure Writing where
  said : List Said := []
  args : List String
  /-- Nothing more is to be written. -/
  stopped : Bool := false
  /-- An argument was used. -/
  used : Bool := false

def Writing.next (w : Writing) : String × Writing :=
  match w.args with
  | a :: rest => (a, { w with args := rest, used := true })
  | [] => ("", { w with used := true })

def Writing.add (w : Writing) (s : String) : Writing := { w with said := .text s :: w.said }

/-- Adds a complaint, if there is one. -/
def Writing.complain (w : Writing) (writer : Writer) (arg : String) (f : Option NumberFault) :
    Writing :=
  match f with
  | some f => { w with said := .fault (f.text writer arg) :: w.said }
  | none => w

/-- The sign of a number that is written with a sign. -/
def signFor (d : Directive) (negative : Bool) : String :=
  if negative then "-" else if d.plus then "+" else if d.space then " " else ""

def convert (writer : Writer) (d : Directive) (kind : Char) (w : Writing) : Writing :=
  let (arg, w) := w.next
  let cutTo (s : String) : String := match d.precision with
    | some p => String.ofList (s.toList.take p)
    | none => s
  match kind with
  | 's' => w.add (pad d (cutTo arg))
  | 'b' =>
    let (out, stopped) := unescape writer (arg.length + 1) arg.toList []
    { w.add (pad d (cutTo (String.ofList out.reverse))) with stopped }
  | 'c' => w.add (pad d (String.ofList (if arg.isEmpty then ['\x00'] else arg.toList.take 1)))
  | 'q' => w.add (pad d (shown arg))
  | 'd' | 'i' =>
    let (n, fault) := numberOf true arg
    (w.complain writer arg fault).add (padNumber d (signFor d (n < 0)) (toString n.natAbs))
  | 'u' | 'o' | 'x' | 'X' =>
    let (n, fault) := numberOf false arg
    let bits := (n.emod (Nat.pow 2 64)).toNat
    let mark := if !d.alternate || bits = 0 then "" else
      if kind = 'o' then "0" else if kind = 'u' then "" else "0x"
    let text := padNumber d mark
      (digitsOf (if kind = 'u' then 10 else if kind = 'o' then 8 else 16) bits)
    (w.complain writer arg fault).add (if kind = 'X' then text.toUpper else text)
  | _ =>
    let (negative, f, fault) := fractionOf writer arg
    let finite := match f with
      | .ratio _ _ => true
      | _ => false
    let digits := f.write kind.toLower d.alternate d.precision
    let text := padSigned d finite (signFor d negative) digits
    (w.complain writer arg fault).add (if kind.isUpper then text.toUpper else text)

def conversions (w : Writer) : List Char :=
  (if w = .shell then "sbcdiuoxXeEfFgG" else "sbcdiuoxXeEfFgGq").toList

/-- A width or precision, which may be an argument. -/
def size (writer : Writer) (s : List Char) (w : Writing) : Int × List Char × Writing :=
  match s with
  | '*' :: rest =>
    let (arg, w) := w.next
    let (n, fault) := numberOf true arg
    (n, rest, w.complain writer arg fault)
  | _ =>
    let (n, rest) := decimal s
    (n, rest, w)

/-- A directive behind its percent sign: what comes of it and what follows it. -/
def directive (writer : Writer) (s : List Char) (w : Writing) : List Char × Writing :=
  let fail (text : String) : List Char × Writing :=
    ([], { w with stopped := true, said := .failure text :: w.said })
  match s with
  | '%' :: rest => (rest, w.add "%")
  | _ =>
    let (d, behind) := flags s.length {} s
    let (width, behind, w) := size writer behind w
    let (precision, behind, w) := match behind with
      | '.' :: rest =>
        let (n, rest, w) := size writer rest w
        (some n, rest, w)
      | _ => (none, behind, w)
    let d := { d with
      left := d.left || width < 0
      width := width.natAbs
      precision := precision.bind fun p => if p < 0 then none else some p.toNat }
    let behind := if writer = .program then behind.dropWhile "hlLjzt".toList.contains else behind
    let wrong (rest : List Char) : String :=
      "%" ++ String.ofList (s.take (s.length - rest.length))
    match behind with
    | kind :: rest =>
      if (conversions writer).contains kind then (rest, convert writer d kind w)
      else if writer = .shell then fail (wrong rest ++ ": invalid directive")
      else fail (wrong rest ++ ": invalid conversion specification")
    | [] =>
      if writer = .shell then fail "missing format character"
      else fail (wrong [] ++ ": invalid conversion specification")

def once (writer : Writer) : Nat → List Char → Writing → Writing
  | 0, _, w | _, [], w => w
  | fuel + 1, '\\' :: s, w =>
    match escape? writer s, s with
    | some (c, rest), _ => once writer fuel rest (w.add c.toString)
    | none, 'c' :: _ =>
      if writer = .program then { w with stopped := true } else once writer fuel s (w.add "\\")
    | none, '"' :: rest => once writer fuel rest (w.add (if writer = .shell then "\\\"" else "\""))
    | none, 'x' :: _ =>
      if writer = .shell then once writer fuel s (w.add "\\")
      else { w with
        stopped := true
        said := .failure "missing hexadecimal number in escape" :: w.said }
    | none, _ => once writer fuel s (w.add "\\")
  | fuel + 1, '%' :: s, w =>
    let (rest, w) := directive writer s w
    if w.stopped then w else once writer fuel rest w
  | fuel + 1, c :: s, w =>
    let plain := (c :: s).takeWhile fun c => c ≠ '%' && c ≠ '\\'
    once writer fuel ((c :: s).drop plain.length) (w.add (String.ofList plain))

/-- Goes through a format again and again until the arguments are used up. -/
def again (writer : Writer) (format : List Char) : Nat → Writing → Writing
  | 0, w => w
  | fuel + 1, w =>
    let w := once writer (format.length + 1) format { w with used := false }
    if w.stopped || w.args.isEmpty || !w.used then w else again writer format fuel w

/-- All that is said of a format and its arguments. -/
def printf (writer : Writer) (format : String) (args : List String) : List Said :=
  let w := again writer format.toList (args.length + 1) { args }
  let excess := match writer, w.stopped, w.args with
    | .program, false, a :: _ =>
      [.text "", .fault ("warning: ignoring excess arguments, starting with " ++ named a)]
    | _, _, _ => []
  w.said.reverse ++ excess

/-- Says all of it in turn, where complaints are made in some way; the status at the end. -/
def say (complain : String → Run Unit) (failed : Nat) : Nat → List Said → Run Nat
  | status, [] => return status
  | status, .text s :: rest => do
    Run.put s
    say complain failed status rest
  | status, .fault s :: rest => do
    complain s
    say complain failed (if "warning:".toList.isPrefixOf s.toList then status else 1) rest
  | _, .failure s :: _ => do
    complain s
    return failed

def shellPrintf : Tool := fun args => do
  let complain (text : String) : Run Unit := Run.blame ("printf: " ++ text)
  let usage : Run Nat := do
    complain "usage: printf format [arg ...]"
    return 2
  match args with
  | [] | ["--"] => usage
  | "--" :: format :: rest => say complain 2 0 (printf .shell format rest)
  | format :: rest =>
    match format.toList with
    | '-' :: c :: _ =>
      complain ("Illegal option -" ++ c.toString)
      return 2
    | _ => say complain 2 0 (printf .shell format rest)

def printfProgram : Tool := fun args => do
  match if args.head? = some "--" then args.tail else args with
  | [] => misuse 1 "missing operand"
  | format :: rest => say warn 1 0 (printf .program format rest)

end Formulary.Host.Tool.Format
