import Formulary.Calendar
import Formulary.Descriptor
import Formulary.Formula.Encode
import Formulary.Path
import Formulary.Template
import Formulary.Text.Blank

/-!
# Resolution

What a formula's templates come to for one build. The variables are the formula's own and, over
them, those of the descriptor and the surroundings; with them, every flag, argument, environment
value and expectation is expanded, in this order.
-/

namespace Formulary

/-! ### Surroundings -/

/-- What one build takes from its surroundings. -/
structure Context where
  /-- Where the program is installed. -/
  root : Path
  /-- The time of the build, in seconds from the start of 1970. -/
  buildDate : Int
  /-- Who acts. -/
  tapUser : String
  /-- The commit that is built, when it is known. -/
  commit : Option String := none
  deriving DecidableEq

/-- An environment: names with their values. -/
abbrev Environment := List (String × String)

namespace Context

/-- The variable that names who acts, before the user's own name. -/
def tapUserVariable : String := "KETTLE_TAP_USER"

/-- Who acts in an environment. An empty name is no name, also where another would follow. -/
def defaultTapUser (env : Environment) : String :=
  match (env.lookup tapUserVariable).or (env.lookup "USER") with
  | some user => if user.isEmpty then "kettle" else user
  | none => "kettle"

/-- The surroundings of a build that starts in a directory at a time. -/
def make (cwd : Path) (env : Environment) (now : Int) (root : Path) : Context where
  root := root.absolute cwd
  buildDate := now
  tapUser := defaultTapUser env

/-- The directory programs are installed into. -/
def binDir (c : Context) : Path := c.root.join "bin"

end Context

/-! ### Variables -/

/-- The variables every build has, in the order in which they are bound. -/
def builtinVariables (d : Descriptor) (c : Context) : List (String × String) :=
  [("name", d.name), ("version", d.version)] ++
  (d.desc.map (("desc", ·))).toList ++
  [("build_date", Calendar.momentText c.buildDate), ("tap_user", c.tapUser)] ++
  (c.commit.map (("commit", ·))).toList ++
  [("prefix", c.root.text), ("bin", c.binDir.text)]

/-- The variables of a build: those every build has win over the formula's own. -/
def bindVariables (d : Descriptor) (custom : StringMap) (c : Context) : StringMap :=
  (builtinVariables d c).foldl (fun m (key, value) => m.insert key value)
    (StringMap.ofList custom.entries)

/-! ### Flags -/

/-- The last part of a symbol between slashes. -/
def symbolShortName (symbol : String) : String :=
  String.ofList (Text.afterLast '/' symbol.toList)

/-- A symbol bound to a value, in quotes if the value has a blank. -/
def symbolFlag (symbol value : String) : String :=
  if Text.holdsBlank value then "-X '" ++ symbol ++ "=" ++ value ++ "'"
  else "-X " ++ symbol ++ "=" ++ value

def Flag.resolve (bindings : StringMap) : Flag → Except Failure String
  | .text template => substitute template bindings
  | .symbol name (some template) => (substitute template bindings).map (symbolFlag name)
  | .symbol name none =>
    let key := symbolShortName name
    match bindings.get? key with
    | some value => .ok (symbolFlag name value)
    | none => .error (.unresolvedVariable key ("-X " ++ name))

/-- What a list of flags comes to, flag by flag. -/
def resolveFlags (flags : List Flag) (bindings : StringMap) : Except Failure (List String) :=
  flags.mapM (Flag.resolve bindings)

/-! ### A resolved build -/

/-- Everything later stages need of a formula, without a placeholder. -/
structure Resolution where
  bindings : StringMap
  flags : List String
  args : List String
  environment : List (String × String)
  /-- What the output of each assertion must hold. -/
  expectations : List String
  root : Path
  /-- Where the toolchain writes the program. -/
  artifact : Path
  deriving DecidableEq

namespace Resolution

/-- The flags as the one argument they are passed in. -/
def joinedFlags (r : Resolution) : String := " ".intercalate r.flags

/-- Resolves every template of a formula. -/
def resolve (f : Formula) (d : Descriptor) (c : Context) : Except Failure Resolution := do
  let bindings := bindVariables d f.bindings c
  let flags ← resolveFlags f.build.flags bindings
  let args ← f.build.args.mapM (substitute · bindings)
  let environment ← f.build.environment.entries.mapM fun (key, value) =>
    (substitute value bindings).map (key, ·)
  let expectations ← f.tests.mapM fun test => substitute test.expect bindings
  return {
    bindings, flags, args, environment, expectations
    root := c.root
    artifact := c.binDir.join f.binaryName }

def toValue (r : Resolution) : Value := .table [
  ("binding", r.bindings.toValue),
  ("flags", .ofStrings r.flags),
  ("args", .ofStrings r.args),
  ("environment", .array (r.environment.map fun (key, value) => .ofStrings [key, value])),
  ("expectations", .ofStrings r.expectations),
  ("prefix", .string r.root.text),
  ("artifact", .string r.artifact.text)]

end Resolution

end Formulary
