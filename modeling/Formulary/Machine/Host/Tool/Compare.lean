import Formulary.Machine.Host.Tool.Copy

/-!
# Tools: comparing files

Where two files differ: the first byte that does, all bytes that do, or the lines that one has in
place of the other's.
-/

namespace Formulary.Host.Tool

open Formulary.Host.Script

/-! ### Byte by byte -/

/-- A complaint of a tool that names itself in its hint as well. -/
def misuseNamed (text : String) : Run Nat := do
  warn text
  let name ← Run.own Local.arg0
  warn ("Try '" ++ name ++ " --help' for more information.")
  return 2

/-- Where two texts differ. -/
inductive Difference where
  /-- At a byte on a line, with both bytes. -/
  | byte (index line : Nat) (first second : Char)
  /-- One of them ends first, behind so many bytes, on a line that may have begun. -/
  | ending (isFirst : Bool) (index line : Nat) (begun : Bool)

/-- The first difference of two texts from a byte on a line on. -/
def difference? (index line : Nat) (begun : Bool) : List Char → List Char → Option Difference
  | [], [] => none
  | [], _ => some (.ending true index line begun)
  | _, [] => some (.ending false index line begun)
  | a :: s, b :: t =>
    if a ≠ b then some (.byte (index + 1) line a b)
    else if a = '\n' then difference? (index + 1) (line + 1) false s t
    else difference? (index + 1) line true s t

/-- A number in octal digits, filled up to three places. -/
def octalByte (c : Char) : String := padLeft 3 (String.ofList (Nat.toDigits 8 c.toNat))

/-- All bytes that differ, with where they are. -/
def allDifferences (first second : List Char) : List (Nat × Char × Char) :=
  (first.zip second).zipIdx.filterMap fun ((a, b), i) => if a = b then none else some (i + 1, a, b)

def tellDifference (said : OptionTable.Said) (a b : String) (s t : List Char)
    (d : Difference) : Run Unit := do
  match d with
  | .byte index line x y =>
    if given said 'l' then
      let width := (toString (min s.length t.length)).length
      for (i, x, y) in allDifferences s t do
        Run.put (padLeft width (toString i) ++ " " ++ octalByte x ++ " " ++ octalByte y ++ "\n")
    else
      Run.put (a ++ " " ++ b ++ " differ: " ++ (if given said 'b' then "byte " else "char ") ++
        toString index ++ ", line " ++ toString line)
      if given said 'b' then
        Run.put (" is " ++ octalByte x ++ " " ++ String.ofList (visible true true x) ++ " " ++
          octalByte y ++ " " ++ String.ofList (visible true true y))
      Run.put "\n"
  | .ending isFirst index line begun =>
    let name := if isFirst then a else b
    let place := if index = 0 then " which is empty"
      else " after byte " ++ toString index ++
        (if given said 'l' then "" else if begun then ", in line " ++ toString line
          else ", line " ++ toString (line - 1))
    warn ("EOF on " ++ name ++ place)

/-- `cmp`: whether two files are the same, byte by byte. -/
def cmp : Tool := fun args => do
  let table := OptionTable.make "bi:ln:s" "" ["print-bytes=b", "ignore-initial=i", "verbose=l",
    "bytes=n", "quiet=s", "silent=s"]
  match table.read (countLetters args) args with
  | .error e => misuseNamed e
  | .ok said =>
    match said.others with
    | [] => misuseNamed ("missing operand after '" ++ (← Run.own Local.arg0) ++ "'")
    | _ :: _ :: _ :: extra :: _ => misuseNamed ("extra operand '" ++ extra ++ "'")
    | a :: rest =>
      let b := rest.headD "-"
      let skipped := ((valueOf said 'i').bind fun n => countWithUnit? n.toList).getD 0
      let portion (s : List Char) : List Char :=
        let s := s.drop skipped
        match (valueOf said 'n').bind fun n => countWithUnit? n.toList with
        | some n => s.take n
        | none => s
      let complaint (path : String) (e : Fault) : Run Nat := do
        warn (path ++ ": " ++ e.words)
        return 2
      match ← contents a with
      | .error e => complaint a e
      | .ok s =>
        match ← contents b with
        | .error e => complaint b e
        | .ok t =>
          match difference? 0 1 false (portion s) (portion t) with
          | none => return 0
          | some d =>
            if !given said 's' then tellDifference said a b (portion s) (portion t) d
            return 1

/-! ### Line by line -/

/-- A change of lines: where it begins in both texts, and the lines before and after it. -/
structure Hunk where
  first : Nat
  second : Nat
  removed : List (List Char)
  added : List (List Char)

/-- How many lines the tails of two texts have in common at most, for every pair of tails: one row
for each line of the first text, last row first. -/
def commonRow (line : List Char) (second : List (List Char)) (below : List Nat) : List Nat :=
  match second, below with
  | b :: rest, n :: more =>
    let row := commonRow line rest more
    (if line = b then more.headD 0 + 1 else max n (row.headD 0)) :: row
  | _, _ => [0]

/-- The rows of `commonRow` for all tails of the first text. -/
def commonRows (first second : List (List Char)) : List (List Nat) :=
  first.foldr (fun line rows =>
    commonRow line second (rows.headD (List.replicate (second.length + 1) 0)) :: rows) [
      List.replicate (second.length + 1) 0]

/-- The steps from one text to the other: kept lines, removed ones and added ones. -/
inductive Edit where
  | keep
  | remove (line : List Char)
  | add (line : List Char)

/-- The shortest way from one text to the other. -/
def edits (rows : List (List Nat)) : (fuel : Nat) → List (List Char) → List (List Char) → List Edit
  | 0, _, _ => []
  | _ + 1, [], added => added.map .add
  | _ + 1, removed, [] => removed.map .remove
  | fuel + 1, a :: s, b :: t =>
    let count (rows : List (List Nat)) (left : Nat) : Nat :=
      let row := rows.headD []
      (row.drop (row.length - 1 - left)).headD 0
    if a = b then .keep :: edits rows.tail fuel s t
    else if count rows t.length ≤ count rows.tail (t.length + 1) then
      .remove a :: edits rows.tail fuel s (b :: t)
    else .add b :: edits rows fuel (a :: s) t

/-- The changes that steps come to, from lines of both texts on. -/
def hunks : Nat → Nat → Option Hunk → List Edit → List Hunk
  | _, _, h, [] => h.toList
  | m, n, h, .keep :: rest => h.toList ++ hunks (m + 1) (n + 1) none rest
  | m, n, h, .remove line :: rest =>
    let h := h.getD ⟨m, n, [], []⟩
    hunks (m + 1) n (some { h with removed := h.removed ++ [line] }) rest
  | m, n, h, .add line :: rest =>
    let h := h.getD ⟨m, n, [], []⟩
    hunks m (n + 1) (some { h with added := h.added ++ [line] }) rest

/-- Lines by their numbers; of none, the line before. -/
def lineRange (start count : Nat) : String :=
  if count ≤ 1 then toString (start + count)
  else toString (start + 1) ++ "," ++ toString (start + count)

/-- A line of a change, with a remark if it is the last one and has no end. -/
def changedLine (mark : String) (isLast : Bool) (line : List Char) : String :=
  mark ++ String.ofList line ++ "\n" ++ (if isLast then "\\ No newline at end of file\n" else "")

def Hunk.text (h : Hunk) : String :=
  let kind := if h.added.isEmpty then "d" else if h.removed.isEmpty then "a" else "c"
  let lines (mark : String) (all : List (List Char)) : String :=
    String.join (all.map fun line =>
      let closed := line.getLast? = some '\n'
      changedLine mark (!closed) (if closed then line.dropLast else line))
  lineRange h.first h.removed.length ++ kind ++ lineRange h.second h.added.length ++ "\n" ++
    lines "< " h.removed ++ (if kind = "c" then "---\n" else "") ++ lines "> " h.added

/-- The lines of a text with their ends. -/
def closedLines (s : List Char) : List (List Char) :=
  let lines := linesOf s '\n'
  let whole := s.getLast? = some '\n'
  lines.zipIdx.map fun (line, i) =>
    if whole || i + 1 < lines.length then line ++ ['\n'] else line

/-- `diff`: the lines that differ between two files. -/
def diff : Tool := fun args => do
  let table := OptionTable.make "abBdeEilNqrstTuUwyZ" "" ["brief=q", "report-identical-files=s",
    "text=a", "ignore-case=i", "recursive=r", "new-file=N"]
  match table.read (countLetters args) args with
  | .error e => misuseNamed e
  | .ok said =>
    match said.others with
    | [] => misuseNamed ("missing operand after '" ++ (← Run.own Local.arg0) ++ "'")
    | [a] => misuseNamed ("missing operand after '" ++ a ++ "'")
    | _ :: _ :: extra :: _ => misuseNamed ("extra operand '" ++ extra ++ "'")
    | [a, b] =>
      let first ← contents a
      let second ← contents b
      match first, second with
      | .ok s, .ok t =>
        if s = t then
          if given said 's' then Run.put ("Files " ++ a ++ " and " ++ b ++ " are identical\n")
          return 0
        if given said 'q' then Run.put ("Files " ++ a ++ " and " ++ b ++ " differ\n")
        else
          let s := closedLines s
          let t := closedLines t
          for h in hunks 0 0 none (edits (commonRows s t) (s.length + t.length + 1) s t) do
            Run.put h.text
        return 1
      | _, _ =>
        match first with
        | .error e => warn (a ++ ": " ++ e.words)
        | .ok _ => pure ()
        match second with
        | .error e => warn (b ++ ": " ++ e.words)
        | .ok _ => pure ()
        return 2

end Formulary.Host.Tool
