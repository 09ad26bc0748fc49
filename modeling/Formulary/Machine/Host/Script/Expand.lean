import Formulary.Machine.Host.Script.Arithmetic
import Formulary.Machine.Host.Script.Pattern
import Formulary.Machine.Host.Script.Process

/-!
# Scripts: words

What words come to: variables, commands and numbers are put in their places, the result is cut
into fields where it came from outside of quotes, and fields with pattern characters are replaced
by the paths they match.
-/

namespace Formulary.Host.Script

/-- A character of an expanded word, or something between characters. -/
inductive Mark where
  /-- A character, with whether it stood in quotes, and whether fields may be cut at it. -/
  | char (c : Char) (quoted splits : Bool)
  /-- Quotes stood here: there is a field even if it is empty. -/
  | quotes
  /-- A field ends here. -/
  | border

/-- How words and commands are evaluated one level further inside. -/
structure Evaluator where
  /-- Performs a command; as the last thing the process does, if so marked. -/
  run (last : Bool) (c : Command) : Run Unit
  /-- Expands a word. -/
  expand (w : Word) : Run (List Mark)

namespace Expand

/-! ### Fields -/

/-- The text of an expanded word that is not cut up. -/
def join (marks : List Mark) : String :=
  String.ofList (marks.filterMap fun
    | .char c _ _ => some c
    | .border => some ' '
    | .quotes => none)

def pattern (marks : List Mark) : List Marked :=
  marks.filterMap fun
    | .char c quoted _ => some (c, quoted)
    | .border => some (' ', true)
    | .quotes => none

/-- A field that is being put together, last character first, and how the one before it ended. -/
structure Cutting where
  field : Option (List Marked) := none
  done : List (List Marked) := []
  /-- The last field was ended by a blank. -/
  afterBlank : Bool := false

def Cutting.close (c : Cutting) : Cutting :=
  match c.field with
  | some f => { c with field := none, done := f.reverse :: c.done }
  | none => c

def Cutting.take (separators : List Char) (s : Cutting) : Mark → Cutting
  | .quotes => { s with field := some (s.field.getD []), afterBlank := false }
  | .border => { s.close with afterBlank := false }
  | .char c quoted splits =>
    if splits && separators.contains c then
      if " \t\n".toList.contains c then
        if s.field.isSome then { s.close with afterBlank := true } else s
      else if s.field.isSome then { s.close with afterBlank := false }
      else if s.afterBlank then { s with afterBlank := false }
      else { s with done := [] :: s.done }
    else { s with field := some ((c, quoted) :: s.field.getD []), afterBlank := false }

def cut (separators : List Char) (marks : List Mark) : List (List Marked) :=
  (marks.foldl (Cutting.take separators) {}).close.done.reverse

/-! ### Paths -/

def patternParts : List Marked → List (List Marked)
  | [] => [[]]
  | (c, q) :: rest =>
    if c = '/' then [] :: patternParts rest
    else match patternParts rest with
      | part :: parts => ((c, q) :: part) :: parts
      | [] => [[(c, q)]]

/-- The text of a pattern whose characters all stand for themselves. -/
def plain (p : List Marked) : String := String.ofList (p.map Prod.fst)

/-- The names in a directory that match a part of a pattern. A dot at the start of a name must be
matched by one. -/
def matchingNames (fs : Files) (place : Location) (part : List Marked) : List String :=
  let names := [".", ".."] ++ (fs.children place).map fun (name, _) => Text.octets name
  let visible := names.filter fun name => name.toList.head? ≠ some '.' ||
    (part.head?.map Prod.fst) = some '.'
  (visible.filter fun name => Pattern.isMatch part name.toList).mergeSort (· ≤ ·)

/-- The paths that the parts of a pattern match, from a path that has been matched so far. -/
def matchingPaths (fs : Files) (cwd : Location) :
    List (List Marked) → String → List String
  | [], path => [path]
  | part :: rest, path =>
    let extend (name : String) : String := path ++ name ++ (if rest.isEmpty then "" else "/")
    let here : Path := ⟨if path = "" then "." else Text.ofOctets path⟩
    if part.isEmpty then matchingPaths fs cwd rest (extend "")
    else if Pattern.isActive part then
      match fs.find cwd here with
      | .ok (place, .directory) =>
        (matchingNames fs place part).flatMap fun name => matchingPaths fs cwd rest (extend name)
      | _ => []
    else
      let next := extend (plain part)
      if (fs.findHere cwd ⟨Text.ofOctets next⟩).isOk then matchingPaths fs cwd rest next else []

def paths (fs : Files) (cwd : Location) (field : List Marked) : List String :=
  if Pattern.isActive field then
    match matchingPaths fs cwd (patternParts field) "" with
    | [] => [plain field]
    | found => found
  else [plain field]

/-! ### Pieces -/

def chars (s : String) (quoted splits : Bool) : List Mark :=
  s.toList.map fun c => .char c quoted splits

def value (s : String) (quoted : Bool) : List Mark :=
  if quoted then .quotes :: chars s true false else chars s false true

def separators : Run (List Char) := return ((← Run.valueOf? "IFS").getD " \t\n").toList

/-- The letters of the options that are set. -/
def options (o : Settings) : String :=
  let on := [('e', o.stopAtFailure), ('f', o.plainPatterns), ('n', o.readsOnly), ('x', o.tracing),
    ('v', o.echoing), ('C', o.keepsFiles), ('a', o.exportsAll), ('u', o.strictVariables)]
  let isSet (c : Char) : Bool := o.others.contains c || on.contains (c, true)
  String.ofList ("pubaCEVvxsnmiIfe".toList.filter isSet)

def valueOf? (name : String) : Run (Option String) := do
  let l ← Run.own id
  match name with
  | "#" => return some (toString l.params.length)
  | "?" => return some (toString l.status)
  | "$" => return some (toString l.mainPid)
  | "!" => return l.lastJob.map fun pid => toString pid
  | "-" => return some (options l.settings)
  | "0" => return some l.arg0
  | "@" | "*" => return if l.params.isEmpty then none else some (" ".intercalate l.params)
  | _ =>
    match Text.natural? name.toList with
    | some n => return l.params[n - 1]?
    | none => Run.valueOf? name

def allParameters (name : String) (quoted : Bool) : Run (List Mark) := do
  let params ← Run.own Local.params
  if quoted && name = "*" then
    let separator := match ← separators with
      | c :: _ => c.toString
      | [] => ""
    return value (separator.intercalate params) true
  else
    return (params.map fun p => value p quoted).intersperse [.border] |>.flatten

def current (name : String) (quoted : Bool) : Run (List Mark) := do
  if name = "@" || name = "*" then allParameters name quoted
  else return value ((← valueOf? name).getD "") quoted

/-- A word in the place of a value. -/
def instead (ev : Evaluator) (w : Word) (quoted : Bool) : Run (List Mark) := do
  let marks ← ev.expand w
  return if quoted then .quotes :: marks else marks.map fun
    | .char c false _ => .char c false true
    | m => m

def isMissing (value : Option String) (alsoEmpty : Bool) : Bool :=
  match value with
  | none => true
  | some s => alsoEmpty && s.isEmpty

/-- A missing variable where that is an error. -/
def demandSet (name : String) (value : Option String) : Run Unit := do
  let isStrict ← Run.own fun l => l.settings.strictVariables
  if value.isNone && isStrict && name ≠ "@" && name ≠ "*" then
    Run.stop (name ++ ": parameter not set")

def parameter (ev : Evaluator) (name : String) (change : Change) (quoted : Bool) :
    Run (List Mark) := do
  let old ← valueOf? name
  match change with
  | .plain =>
    demandSet name old
    current name quoted
  | .length =>
    demandSet name old
    return value (toString (old.getD "").length) quoted
  | .default alsoEmpty w =>
    if isMissing old alsoEmpty then instead ev w quoted else current name quoted
  | .assign alsoEmpty w =>
    if isMissing old alsoEmpty then
      let new := join (← ev.expand w)
      if !Environment.isName name then Run.stop (name ++ ": bad variable name")
      Run.setVariable name new
      return value new quoted
    else current name quoted
  | .demand alsoEmpty w =>
    if isMissing old alsoEmpty then
      let message := join (← ev.expand w)
      let message := if w.isEmpty then
          "parameter not set" ++ (if alsoEmpty then " or null" else "")
        else message
      Run.stop (name ++ ": " ++ message)
    else current name quoted
  | .alternative alsoEmpty w =>
    if isMissing old alsoEmpty then return if quoted then [.quotes] else []
    else instead ev w quoted
  | .trimStart longest p =>
    demandSet name old
    let p := pattern (← ev.expand p)
    return value (String.ofList (Pattern.trimStart longest p (old.getD "").toList)) quoted
  | .trimEnd longest p =>
    demandSet name old
    let p := pattern (← ev.expand p)
    return value (String.ofList (Pattern.trimEnd longest p (old.getD "").toList)) quoted
  | .unknown => Run.stop "Bad substitution"

/-- What a command writes, without the line ends at its end. -/
def output (body : Command) : Run String := do
  let pipe ← Run.newPipe
  let fd ← Run.freeFd Run.firstHidden
  Run.modifyOwn (·.connect fd (some (.readEnd pipe)))
  let pid ← Run.start (.command body []) (·.connect 1 (some (.writeEnd pipe)))
  let written := (← Run.readAll fd).toOption.getD .empty
  Run.close fd
  let status ← Run.await pid
  Run.tellSignal status
  Run.modifyOwn fun l => { l with innerStatus := Run.statusNumber status }
  let kept := (Run.characters written).filter fun c => c.toNat ≠ 0
  return String.ofList (kept.reverse.dropWhile (· = '\n')).reverse

def number (text : String) : Run String := do
  let vars ← Run.own Local.vars
  let values := vars.filterMap fun v =>
    (v.value.map fun s => (v.name, if s.isEmpty then .ok 0 else
      (Arithmetic.signed? s).elim (.error s) .ok))
  match Arithmetic.evaluate values text with
  | .ok (n, after) =>
    let assigned := after.take (after.length - values.length)
    for (name, m) in assigned.reverse do
      match m with
      | .ok m => Run.setVariable name (toString m)
      | .error _ => pure ()
    return toString n
  | .error (.reading reason) =>
    Run.stop ("arithmetic expression: " ++ reason ++ ": \"" ++ text ++ "\"")
  | .error (.value s) => Run.stop ("Illegal number: " ++ s)
  | .error .overflow => throw (.killed ⟨8⟩)

def piece (ev : Evaluator) : Piece → Run (List Mark)
  | .text s true => return if s.isEmpty then [.quotes] else chars s true false
  | .text s false => return chars s false false
  | .variable name change quoted => parameter ev name change quoted
  | .output body quoted => return value (← output body) quoted
  | .number expression quoted => return value (← number (join (← ev.expand expression))) quoted

def homeOf? (user : String) : Run (Option String) := do
  match user with
  | "" => Run.valueOf? "HOME"
  | "root" => return Lookup.entryHome?.map Path.text
  | "nobody" => return some "/nonexistent"
  | _ => return none

/-- A tilde at the start of a text stands for a home directory, up to one of some characters. -/
def homeText (ends : List Char) (s : List Char) (alone : Bool) : Run Word := do
  match s with
  | '~' :: rest =>
    let user := rest.takeWhile fun c => !ends.contains c
    if user.length = rest.length && !alone then return [.text (String.ofList s) false]
    match ← homeOf? (String.ofList user) with
    | some dir =>
      return [.text dir true, .text (String.ofList (rest.drop user.length)) false]
    | none => return [.text (String.ofList s) false]
  | _ => return [.text (String.ofList s) false]

/-- A tilde at the start of a word stands for a home directory. -/
def home (w : Word) : Run Word := do
  match w with
  | .text s false :: rest => return (← homeText ['/'] s.toList rest.isEmpty) ++ rest
  | _ => return w

/-- A tilde at the start of a value, and behind each colon of it, stands for a home directory. -/
def homes (w : Word) : Run Word := do
  match w with
  | .text s false :: rest =>
    let parts := Text.splitAt ':' s.toList
    let mut out : List Word := []
    for (part, i) in parts.zipIdx do
      let isLast := i + 1 = parts.length
      let own ← homeText ['/'] part (rest.isEmpty || !isLast)
      out := (if i = 0 then own else .text ":" false :: own) :: out
    return out.reverse.flatten ++ rest
  | _ => return w

/-- The pieces of a word one after another. -/
def pieces (ev : Evaluator) (w : Word) : Run (List Mark) := do
  let mut out : List (List Mark) := []
  for p in w do out := (← piece ev p) :: out
  return out.reverse.flatten

def word (ev : Evaluator) (w : Word) : Run (List Mark) := do pieces ev (← home w)

/-- A word that is not cut into fields. -/
def wordText (ev : Evaluator) (w : Word) : Run String := return join (← word ev w)

/-- A word that is the value of a variable. -/
def valueText (ev : Evaluator) (w : Word) : Run String := do
  return join (← pieces ev (← homes w))

def wordFields (ev : Evaluator) (w : Word) : Run (List String) := do
  match w with
  | [.text s true] => return [s]
  | _ =>
    let marks ← word ev w
    let s ← get
    let found := cut (← separators) marks
    if s.own.settings.plainPatterns then return found.map plain
    else return found.flatMap (paths s.files s.own.cwd)

def fields (ev : Evaluator) (ws : List Word) : Run (List String) := do
  let mut out : List (List String) := []
  for w in ws do out := (← wordFields ev w) :: out
  return out.reverse.flatten

end Expand

end Formulary.Host.Script
