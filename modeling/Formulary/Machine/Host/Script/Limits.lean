import Formulary.Machine.Host.Script.Options
import Formulary.Machine.Host.Tool.Mode

/-!
# Scripts: rights and limits

The rights that new files do not get, and what a process may use. Limits are kept and shown, but
nothing here comes near them.
-/

namespace Formulary.Host.Script.Limits

/-! ### Rights -/

def rightLetters (n : Nat) : String :=
  (if n / 4 % 2 = 1 then "r" else "") ++ (if n / 2 % 2 = 1 then "w" else "") ++
    (if n % 2 = 1 then "x" else "")

def octal (n : Nat) : String :=
  let digits := Nat.toDigits 8 n
  String.ofList (List.replicate (4 - digits.length) '0' ++ digits)

/-- `umask`: the rights that new files do not get. -/
def umask (args : List String) : Run Nat := do
  let (options, args) ← Options.take "umask" "S" args
  let mask ← Run.own Local.mask
  let setMask (n : Nat) : Run Nat := do
    Run.modifyOwn fun l => { l with mask := n % 0o1000 }
    return 0
  match args with
  | [] =>
    let kept := 0o777 - mask
    Run.put (if Options.given options 'S' then
        "u=" ++ rightLetters (kept / 64) ++ ",g=" ++ rightLetters (kept / 8) ++ ",o=" ++
          rightLetters kept ++ "\n"
      else octal mask ++ "\n")
    return 0
  | text :: _ =>
    if text.toList.head?.any Char.isDigit then
      match Tool.Mode.octal? text.toList with
      | some n => setMask n
      | none => Run.abort ("umask: Illegal number: " ++ text)
    else
      match Tool.Mode.change? true 0 (0o777 - mask) text with
      | some n => setMask (0o777 - n % 0o1000)
      | none => Run.abort ("umask: Illegal mode: " ++ text)

/-! ### Limits -/

/-- A limit: its letter, what it is called and what it is at the start. -/
structure Limit where
  letter : Char
  title : String
  usual : String := "unlimited"

def limits : List Limit := [
  ⟨'t', "time(seconds)", "unlimited"⟩, ⟨'f', "file(blocks)", "unlimited"⟩,
  ⟨'d', "data(kbytes)", "unlimited"⟩, ⟨'s', "stack(kbytes)", "8192"⟩,
  ⟨'c', "coredump(blocks)", "unlimited"⟩, ⟨'m', "memory(kbytes)", "unlimited"⟩,
  ⟨'l', "locked memory(kbytes)", "unlimited"⟩, ⟨'p', "process", "unlimited"⟩,
  ⟨'n', "nofiles", "1048576"⟩, ⟨'v', "vmemory(kbytes)", "unlimited"⟩,
  ⟨'w', "locks", "unlimited"⟩, ⟨'r', "rtprio", "0"⟩]

/-- `ulimit`: what a process may use of something. -/
def ulimit (args : List String) : Run Nat := do
  let (options, args) ← Options.take "ulimit" "HSatfdscmlpnvwr" args
  let known ← Run.own Local.limits
  let valueOf (l : Limit) : String := (known.lookup l.letter).getD l.usual
  if Options.given options 'a' then
    for l in limits do
      Run.put (l.title ++ String.ofList (List.replicate (20 - l.title.length) ' ') ++ " " ++
        valueOf l ++ "\n")
    return 0
  let letter := ((options.map Prod.fst).filter fun c => c ≠ 'H' && c ≠ 'S').getLast?.getD 'f'
  match args with
  | [] =>
    match limits.find? fun l => l.letter = letter with
    | some l => Run.put (valueOf l ++ "\n")
    | none => pure ()
    return 0
  | [value] =>
    if value ≠ "unlimited" && (Text.natural? value.toList).isNone then
      Run.abort "ulimit: bad number"
    Run.modifyOwn fun l => { l with
      limits := (letter, value) :: l.limits.filter fun entry => entry.1 ≠ letter }
    return 0
  | _ => Run.abort "ulimit: too many arguments"

/-- `times`: the time processes have taken, which is none worth telling. -/
def times : Run Nat := do
  let span := "0m0.000000s 0m0.000000s\n"
  Run.put (span ++ span)
  return 0

end Formulary.Host.Script.Limits
