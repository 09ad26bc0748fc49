import Formulary.Calendar
import Formulary.Machine.Host.Tool.Fraction
import Formulary.Machine.Host.Tool.Input

/-!
# Tools: the surroundings

Tools that tell where a program runs: the time, the user, the machine, the environment, and where
the names of programs lead; and `sleep`, which lets time go by.
-/

namespace Formulary.Host.Tool

open Formulary.Host.Script

/-! ### Time -/

/-- A span of time in microseconds; none is one without end. -/
abbrev Span := Option Nat

/-- How many seconds the letter of a unit stands for. -/
def unitSeconds? : List Char → Option Nat
  | [] | ['s'] => some 1
  | ['m'] => some 60
  | ['h'] => some 3600
  | ['d'] => some 86400
  | _ => none

/-- A span of time, as tools are told it. -/
def span? (s : String) : Option Span := do
  let body := match s.toList with
    | '+' :: rest => rest
    | rest => rest
  let (amount, unit) ← Fraction.read? body
  let seconds ← unitSeconds? unit
  match amount with
  | .ratio num den => some (some ((num * seconds * 1000000 + den - 1) / den))
  | .infinite => some none
  | .undefined => none

def totalSpan (spans : List Span) : Span :=
  spans.foldl (fun sum span => do return (← sum) + (← span)) (some 0)

def pause (span : Span) : Run Unit :=
  match span with
  | some span => Run.sleep span
  | none => Run.waitFor .never

def sleep : Tool := fun args => do
  let table : OptionTable := { OptionTable.make "" "" [] with ordered := true }
  withOptions table 1 args fun said => do
    if said.others.isEmpty then return ← misuse 1 "missing operand"
    let wrong := said.others.filter fun a => (span? a).isNone
    for arg in wrong do warn ("invalid time interval " ++ quoted arg)
    if !wrong.isEmpty then
      hint
      return 1
    pause (totalSpan (said.others.filterMap span?))
    return 0

/-- The names of the months and of the days of the week, from Sunday on. -/
def monthNames : List String := ["January", "February", "March", "April", "May", "June", "July",
  "August", "September", "October", "November", "December"]

def dayNames : List String := ["Sunday", "Monday", "Tuesday", "Wednesday", "Thursday", "Friday",
  "Saturday"]

def shortened (name : String) : String := String.ofList (name.toList.take 3)

/-- What a directive of `date` is replaced by at a moment, given in seconds. -/
def datePart (moment : Int) (c : Char) : Option String :=
  let date := Calendar.dateOfDay (moment / 86400)
  let second := (moment % 86400).toNat
  let two (n : Nat) : String := Calendar.digits 2 n
  let hour := second / 3600
  let minute := second / 60 % 60
  let twelve := if hour % 12 = 0 then 12 else hour % 12
  let weekday := ((moment / 86400 + 4) % 7).toNat
  let month := monthNames.getD (date.month - 1) ""
  let day := dayNames.getD weekday ""
  let year := toString date.year
  let clock := two hour ++ ":" ++ two minute ++ ":" ++ two (second % 60)
  let blank (n : Nat) : String := (if n < 10 then " " else "") ++ toString n
  match c with
  | 'Y' => some year
  | 'y' => some (two (date.year % 100).toNat)
  | 'C' => some (two (date.year / 100).toNat)
  | 'm' => some (two date.month)
  | 'd' => some (two date.day)
  | 'e' => some (blank date.day)
  | 'H' => some (two hour)
  | 'k' => some (blank hour)
  | 'I' => some (two twelve)
  | 'l' => some (blank twelve)
  | 'M' => some (two minute)
  | 'S' => some (two (second % 60))
  | 'N' => some "000000000"
  | 'p' => some (if hour < 12 then "AM" else "PM")
  | 's' => some (toString moment)
  | 'F' => some (year ++ "-" ++ two date.month ++ "-" ++ two date.day)
  | 'D' | 'x' => some (two date.month ++ "/" ++ two date.day ++ "/" ++ two (date.year % 100).toNat)
  | 'T' | 'X' => some clock
  | 'R' => some (two hour ++ ":" ++ two minute)
  | 'a' => some (shortened day)
  | 'A' => some day
  | 'b' | 'h' => some (shortened month)
  | 'B' => some month
  | 'c' => some (shortened day ++ " " ++ shortened month ++ " " ++ blank date.day ++ " " ++ clock ++
      " " ++ year)
  | 'j' =>
    let start (d : Nat) : Bool := d < 366 &&
      (Calendar.dateOfDay (moment / 86400 - (d + 1))).year ≠ date.year
    some (Calendar.digits 3 (((List.range 366).find? start).getD 0 + 1))
  | 'u' => some (toString (if weekday = 0 then 7 else weekday))
  | 'w' => some (toString weekday)
  | 'z' => some "+0000"
  | 'Z' => some "UTC"
  | 'n' => some "\n"
  | 't' => some "\t"
  | '%' => some "%"
  | _ => none

def dateText (moment : Int) : List Char → String
  | '%' :: c :: rest =>
    ((datePart moment c).getD ("%" ++ c.toString)) ++ dateText moment rest
  | c :: rest => c.toString ++ dateText moment rest
  | [] => ""

/-- `date`: a moment that is given in seconds, or the time since the start of the run. -/
def date : Tool := fun args => do
  let table := OptionTable.make "d:uRI::r:" "1:" ["date=d", "utc=u", "universal=u", "rfc-email=R",
    "iso-8601=I", "reference=r", "rfc-3339=1"]
  withOptions table 1 args fun said => do
    let clock := (← get).clock
    let moment : Option Int := match valueOf said 'd' with
      | some text =>
        match text.toList with
        | '@' :: digits => Arithmetic.signed? (String.ofList digits)
        | _ => none
      | none => some (clock / 1000000 : Nat)
    match moment, said.others with
    | none, _ => refuse ("invalid date " ++ quoted ((valueOf said 'd').getD ""))
    | some moment, [] =>
      Run.put (dateText moment "%a %b %e %H:%M:%S %Z %Y\n".toList)
      return 0
    | some moment, format :: _ =>
      match format.toList with
      | '+' :: format =>
        Run.put (dateText moment format ++ "\n")
        return 0
      | _ => refuse ("invalid date " ++ quoted format)

/-! ### The machine and the user -/

/-- A tool that tells one thing and takes no arguments. -/
def teller (answer : String) : Tool := fun args => do
  withOptions (OptionTable.make "" "" []) 1 args fun said => do
    match said.others with
    | [] =>
      Run.put (answer ++ "\n")
      return 0
    | extra :: _ => misuse 1 ("extra operand " ++ quoted extra)

/-- `uname`: the system's name and more about the machine. -/
def uname : Tool := fun args => do
  let table := OptionTable.make "asnrvmpio" "" ["all=a", "kernel-name=s", "nodename=n",
    "kernel-release=r", "kernel-version=v", "machine=m", "processor=p", "hardware-platform=i",
    "operating-system=o"]
  withOptions table 1 args fun said => do
    match said.others with
    | extra :: _ => misuse 1 ("extra operand " ++ quoted extra)
    | [] =>
      let facts := [('s', "Linux"), ('n', "localhost"), ('r', "6.1.0"), ('v', "#1 SMP"),
        ('m', "x86_64")]
      let all := given said 'a'
      let parts := facts.filterMap fun (c, text) =>
        if all || given said c then some text else none
      let parts := if ['p', 'i'].any (given said) then parts ++ ["unknown"] else parts
      Run.put (" ".intercalate (if parts.isEmpty then ["Linux"] else parts) ++ "\n")
      return 0

/-- `id`: the user, by number or by name. -/
def identity : Tool := fun args => do
  let table := OptionTable.make "agGnruzZ" "" ["group=g", "groups=G", "name=n", "real=r", "user=u",
    "zero=z"]
  withOptions table 1 args fun said => do
    match said.others.filter fun u => u ≠ "root" && u ≠ "0" with
    | user :: _ => refuse (quoted user ++ ": no such user")
    | [] =>
      let single := ['u', 'g', 'G'].any (given said)
      if given said 'n' && !single then
        return ← refuse "cannot print only names or real IDs in default format"
      Run.put (if single then (if given said 'n' then "root\n" else "0\n")
        else "uid=0(root) gid=0(root) groups=0(root)\n")
      return 0

/-- `tty`: whether the input is a terminal, which it never is. -/
def tty : Tool := fun args => do
  withOptions (OptionTable.make "s" "" ["silent=s", "quiet=s"]) 2 args fun said => do
    if !given said 's' then Run.put "not a tty\n"
    return 1

/-- `sync`: all files are safe as they are. -/
def sync : Tool := fun args => do
  withOptions (OptionTable.make "df" "" ["data=d", "file-system=f"]) 1 args fun said => do
    let mut good := true
    for path in said.others do
      match ← look path with
      | .ok _ => pure ()
      | .error e =>
        warn ("error opening " ++ named path ++ ": " ++ e.words)
        good := false
    return statusFor good

/-! ### The environment -/

/-- `printenv`: the environment, or some variables of it. -/
def printenv : Tool := fun args => do
  let table : OptionTable := { OptionTable.make "0" "" ["null=0"] with ordered := true }
  withOptions table 2 args fun said => do
    let env ← Run.environment
    let ending := if given said '0' then "\x00" else "\n"
    if said.others.isEmpty then
      for (key, value) in env do Run.put (key ++ "=" ++ value ++ ending)
      return 0
    let mut good := true
    for key in said.others do
      match env.lookup key with
      | some value => Run.put (value ++ ending)
      | none => good := false
    return statusFor good

/-- `which`: where the names of programs lead. -/
def which : Tool := fun args => do
  let s ← get
  let env ← Run.environment
  let table : OptionTable := { OptionTable.make "as" "" [] with ordered := true }
  match table.read (countLetters args) args with
  | .error _ =>
    let strange (a : String) : Option Char := a.toList.find? fun c => !"-as".toList.contains c
    let letter := (args.findSome? strange).getD '-'
    Run.complain ("Illegal option -" ++ letter.toString ++ "\nUsage: /usr/bin/which [-as] args\n")
    return 2
  | .ok said =>
    let directories := Lookup.directories ((env.lookup "PATH").getD "")
    let runs (p : String) : Bool := Lookup.runs s.files s.own.cwd (pathOf p)
    let mut good := !said.others.isEmpty
    for name in said.others do
      let candidates := if name.toList.contains '/' then [name]
        else directories.map (Lookup.inDirectory · name)
      let found := candidates.filter runs
      if found.isEmpty then good := false
      if !given said 's' then
        for p in if given said 'a' then found else found.take 1 do Run.put (p ++ "\n")
    return statusFor good

end Formulary.Host.Tool
