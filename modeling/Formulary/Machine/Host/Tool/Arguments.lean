import Formulary.Machine.Host.Tool.Launch

/-!
# Tools: commands from what is read

`xargs` reads words and runs a command with them, as many at a time as it is told.
-/

namespace Formulary.Host.Tool.Arguments

open Formulary.Host.Script

/-- A word, and whether it was the last one on its line. -/
structure Item where
  text : String
  endsLine : Bool := false

/-- The words of a text, where quotes and backslashes protect blanks. A line that ends with a blank
goes on. -/
def words : (fuel : Nat) → (word : Option (List Char)) → List Item → List Char →
    Except String (List Item)
  | 0, _, out, _ => .ok out.reverse
  | fuel + 1, word, out, s =>
    let close (endsLine : Bool) : List Item := match word with
      | some w => ⟨String.ofList w.reverse, endsLine⟩ :: out
      | none => out
    let quotedPart (q : Char) (called : String) (rest : List Char) : Except String (List Item) :=
      let inner := rest.takeWhile fun c => c ≠ q && c ≠ '\n'
      match rest.drop inner.length with
      | c :: behind =>
        if c = q then words fuel (some (inner.reverse ++ word.getD [])) out behind
        else .error called
      | [] => .error called
    let unmatched (kind : String) : String :=
      "unmatched " ++ kind ++
        " quote; by default quotes are special to xargs unless you use the -0 option"
    match s with
    | [] => .ok (close true).reverse
    | '\n' :: rest => words fuel none (close true) rest
    | '\\' :: c :: rest => words fuel (some (c :: word.getD [])) out rest
    | '\'' :: rest => quotedPart '\'' (unmatched "single") rest
    | '"' :: rest => quotedPart '"' (unmatched "double") rest
    | c :: rest =>
      if c = ' ' || c = '\t' then words fuel none (close false) rest
      else words fuel (some (c :: word.getD [])) out rest

/-- The parts of a text between a character. -/
def parted (delimiter : Char) (s : List Char) : List Item :=
  (linesOf s delimiter).map fun part => ⟨String.ofList part, true⟩

/-- The lines of a text without the blanks before them, leaving out empty ones. -/
def lines (s : List Char) : List Item :=
  let trimmed := (linesOf s '\n').map fun l => l.dropWhile fun c => c = ' ' || c = '\t'
  (trimmed.filter fun l => !l.isEmpty).map fun l => ⟨String.ofList l, true⟩

def byLines (count : Nat) : Nat → List Item → List Item → List (List String)
  | _, group, [] => if group.isEmpty then [] else [group.reverse.map Item.text]
  | seen, group, item :: rest =>
    let seen := if item.endsLine then seen + 1 else seen
    if item.endsLine && count ≤ seen then
      (item :: group).reverse.map Item.text :: byLines count 0 [] rest
    else byLines count seen (item :: group) rest

def byCount (count : Nat) (items : List String) : List (List String) :=
  go (items.length + 1) items
where
  go : Nat → List String → List (List String)
    | 0, _ | _, [] => []
    | fuel + 1, items => items.take (max count 1) :: go fuel (items.drop (max count 1))

/-- The character a text for `-d` stands for. -/
def delimiterOf (s : String) : Char :=
  match s.toList with
  | ['\\', '0'] => '\x00'
  | '\\' :: c :: _ => (splitEscape? c).getD c
  | c :: _ => c
  | [] => '\x00'

/-- What a run of a command comes to: the status for the whole, and whether to go on. -/
def outcome (name : String) : ExitStatus → Run (Nat × Bool)
  | .exited 0 => return (0, true)
  | .exited 255 => do
    warn (name ++ ": exited with status 255; aborting")
    return (124, false)
  | .exited _ => return (123, true)
  | .signaled signal _ => do
    warn (name ++ ": terminated by signal " ++ toString signal.number)
    return (125, false)

/-- Runs commands one after another, each without input; the status for the whole. -/
def runAll (tell : Bool) : (status : Nat) → List (List String) → Run Nat
  | status, [] => return status
  | status, argv :: rest => do
    let name := argv.headD ""
    let env ← Run.environment
    if tell then Run.complain (" ".intercalate argv ++ "\n")
    match ← Run.programOf name argv env (env.lookup "PATH") with
    | .error e =>
      warn (name ++ ": " ++ e.words)
      return launchStatus e
    | .ok i =>
      let pid ← Run.startProgram i env (·.connect 0 (some .sink))
      let (result, goesOn) ← outcome name (← Run.await pid)
      if goesOn then runAll tell (if result = 0 then status else result) rest else return result

/-- `xargs`: a command with what is read as its arguments. -/
def xargs : Tool := fun args => do
  let table := leadingOptions "0a:d:E:e::I:i::L:l::n:P:prs:tx" "" ["null=0", "arg-file=a",
    "delimiter=d", "eof=e", "replace=i", "max-lines=l", "max-args=n", "max-procs=P",
    "interactive=p", "no-run-if-empty=r", "max-chars=s", "verbose=t", "exit=x"]
  withOptions table 1 args fun said => do
    let wrong := ['n', 'L', 'P', 's'].find? fun c =>
      (valueOf said c).any fun v => (Text.natural? v.toList).isNone
    match wrong with
    | some c =>
      return ← misuse 1 ("invalid number \"" ++ (valueOf said c).getD "" ++ "\" for -" ++
        c.toString ++ " option")
    | none => pure ()
    let number? (c : Char) : Option Nat := (valueOf said c).bind fun v => Text.natural? v.toList
    let command := if said.others.isEmpty then ["echo"] else said.others
    let replaced : Option String := match valueOf said 'I' with
      | some text => some text
      | none => (valueOf said 'i').map fun text => if text.isEmpty then "\x7b\x7d" else text
    let source := (valueOf said 'a').getD "-"
    match ← contents source with
    | .error e => refuse ("Cannot open input file " ++ quoted source ++ ": " ++ e.words)
    | .ok s =>
      let items : Except String (List Item) :=
        if given said '0' then .ok (parted '\x00' s)
        else match valueOf said 'd' with
          | some d => .ok (parted (delimiterOf d) s)
          | none => if replaced.isSome then .ok (lines s) else words (s.length + 1) none [] s
      match items with
      | .error e => refuse e
      | .ok items =>
        let texts := items.map Item.text
        let commands := match replaced with
          | some mark => texts.map fun text => command.map fun word => Text.replace word mark text
          | none =>
            let groups := match number? 'n', number? 'L' with
              | some n, _ => byCount n texts
              | none, some n => byLines n 0 [] items
              | none, none => if texts.isEmpty then [] else [texts]
            let groups := if groups.isEmpty && !given said 'r' then [[]] else groups
            groups.map (command ++ ·)
        runAll (given said 't') 0 commands

end Formulary.Host.Tool.Arguments
