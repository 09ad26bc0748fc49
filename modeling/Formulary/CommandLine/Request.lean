import Formulary.CommandLine.Grammar
import Formulary.Descriptor
import Formulary.Path

/-!
# Requests

The commands the program knows and what each of them is asked to do.
-/

namespace Formulary.CommandLine

/-! ### The commands -/

/-- The commands. -/
inductive Verb where
  | cook
  | validate
  | resolve
  | fetch
  | test
  | completions
  deriving DecidableEq, Repr

namespace Verb

def all : List Verb := [cook, validate, resolve, fetch, test, completions]

def name : Verb → String
  | cook => "cook"
  | validate => "validate"
  | resolve => "resolve"
  | fetch => "fetch"
  | test => "test"
  | completions => "completions"

def ofName? (name : String) : Option Verb := all.find? fun v => v.name = name

end Verb

def formulaHelp : String := "Path to the formula file"

/-- The options that change how templates come out. -/
def variationRules : List OptionRule := [
  { long := "head", help := "Build from the VCS head instead of the release archive" },
  { long := "commit", kind := .value .text false none
    help := "Commit identifier bound to %(commit)s" },
  { long := "tap-user", kind := .value .text false none
    help := "Tap user bound to %(tap_user)s (default: $KETTLE_TAP_USER, then $USER)" }]

def cacheRule : OptionRule where
  long := "source-cache"
  kind := .value .text false none
  help := "Source cache directory (default: <user cache dir>/kettle/sources)"

def unverifiedRule : OptionRule where
  long := "allow-unverified"
  help := "Accept a release archive whose checksum is a placeholder"

def cookRule : CommandRule where
  summary := "Build, install and verify a formula"
  operand := "FORMULA"
  operandHelp := formulaHelp
  options :=
    [{ long := "prefix", letter := some 'p', kind := .value .text true none
       help := "Installation prefix; the binary lands in <prefix>/bin" }] ++
    variationRules ++
    [cacheRule,
      { long := "timeout", kind := .value .count false (some "3600")
        help := "Toolchain timeout in seconds" },
      { long := "test-timeout", kind := .value .count false (some "60")
        help := "Timeout in seconds for each post-install step and assertion" },
      unverifiedRule,
      { long := "keep-builddir", help := "Keep the build directory after completion" },
      { long := "json", help := "Print the run report as JSON" }]

def validateRule : CommandRule where
  summary := "Validate a formula without building"
  operand := "FORMULA"
  operandHelp := formulaHelp

def resolveRule : CommandRule where
  summary := "Resolve templates and print the flags and toolchain command"
  operand := "FORMULA"
  operandHelp := formulaHelp
  options :=
    [{ long := "prefix", letter := some 'p', kind := .value .text false (some "/usr/local")
       help := "Installation prefix used for %(prefix)s and the output path" }] ++
    variationRules ++
    [{ long := "json", help := "Print the variable binding and flags as JSON" }]

def fetchRule : CommandRule where
  summary := "Fetch and unpack sources without building"
  operand := "FORMULA"
  operandHelp := formulaHelp
  options := [
    { long := "head", help := "Fetch the VCS head instead of the release archive" },
    { long := "dest", letter := some 'd', kind := .value .text false none
      help := "Directory to unpack into (default: a new temporary directory)" },
    cacheRule,
    { long := "timeout", kind := .value .count false (some "3600")
      help := "Timeout in seconds for each download, extraction or clone" },
    unverifiedRule]

def testRule : CommandRule where
  summary := "Run the smoke tests against an installed binary"
  operand := "FORMULA"
  operandHelp := formulaHelp
  options :=
    [{ long := "prefix", letter := some 'p', kind := .value .text true none
       help := "Installation prefix the binary was installed under" }] ++
    variationRules ++
    [{ long := "test-timeout", kind := .value .count false (some "60")
       help := "Timeout in seconds for each assertion" },
      { long := "json", help := "Print the assertion results as JSON" }]

def completionsRule : CommandRule where
  summary := "Generate shell completion scripts for kettle"
  operand := "SHELL"
  operandForm := .word ["bash", "elvish", "fish", "powershell", "zsh"]
  operandHelp := "Shell to generate completions for"

def Verb.rule : Verb → CommandRule
  | .cook => cookRule
  | .validate => validateRule
  | .resolve => resolveRule
  | .fetch => fetchRule
  | .test => testRule
  | .completions => completionsRule

/-! ### What is asked for -/

/-- What changes how templates come out. -/
structure Variation where
  mode : Mode := .release
  commit : Option String := none
  tapUser : Option String := none
  deriving DecidableEq

/-- What is asked of a build. -/
structure CookRequest where
  formula : Path
  root : Path
  variation : Variation
  sourceCache : Option Path
  /-- Seconds. -/
  timeout : Nat
  /-- Seconds. -/
  testTimeout : Nat
  allowUnverified : Bool
  keepBuildDir : Bool
  json : Bool
  deriving DecidableEq

/-- What is asked of a resolution. -/
structure ResolveRequest where
  formula : Path
  root : Path
  variation : Variation
  json : Bool
  deriving DecidableEq

/-- What is asked of fetching. -/
structure FetchRequest where
  formula : Path
  mode : Mode
  target : Option Path
  sourceCache : Option Path
  /-- Seconds. -/
  timeout : Nat
  allowUnverified : Bool
  deriving DecidableEq

/-- What is asked of trying out. -/
structure TestRequest where
  formula : Path
  root : Path
  variation : Variation
  /-- Seconds. -/
  testTimeout : Nat
  json : Bool
  deriving DecidableEq

/-- What the program is asked to do. -/
inductive Request where
  | cook (c : CookRequest)
  | validate (formula : Path)
  | resolve (r : ResolveRequest)
  | fetch (f : FetchRequest)
  | test (t : TestRequest)
  | completions (shell : String)
  /-- Help, about a command or about all of them. -/
  | help (topic : Option Verb)
  | version
  | misuse
  deriving DecidableEq

/-! ### Reading requests -/

namespace Given

def path (g : Given) : Path := ⟨g.operand.getD ""⟩

def mode (g : Given) : Mode := if g.has "head" then .head else .release

def sourceCache (g : Given) : Option Path := (g.value? "source-cache").map Path.mk

/-- What was given that changes how templates come out. -/
def variation (g : Given) : Variation where
  mode := g.mode
  commit := g.value? "commit"
  tapUser := g.value? "tap-user"

end Given

def CommandRule.rootOf (r : CommandRule) (g : Given) : Path := ⟨(r.valueOf? g "prefix").getD ""⟩

namespace Request

/-- What a command is asked to do with what was given for it. -/
def ofGiven (v : Verb) (g : Given) : Request :=
  match v with
  | .cook => .cook {
      formula := g.path
      root := v.rule.rootOf g
      variation := g.variation
      sourceCache := g.sourceCache
      timeout := v.rule.countOf g "timeout"
      testTimeout := v.rule.countOf g "test-timeout"
      allowUnverified := g.has "allow-unverified"
      keepBuildDir := g.has "keep-builddir"
      json := g.has "json" }
  | .validate => .validate g.path
  | .resolve => .resolve {
      formula := g.path
      root := v.rule.rootOf g
      variation := g.variation
      json := g.has "json" }
  | .fetch => .fetch {
      formula := g.path
      mode := g.mode
      target := (g.value? "dest").map Path.mk
      sourceCache := g.sourceCache
      timeout := v.rule.countOf g "timeout"
      allowUnverified := g.has "allow-unverified" }
  | .test => .test {
      formula := g.path
      root := v.rule.rootOf g
      variation := g.variation
      testTimeout := v.rule.countOf g "test-timeout"
      json := g.has "json" }
  | .completions => .completions (g.operand.getD "")

def ofCommand (v : Verb) (args : List String) : Request :=
  match v.rule.read args with
  | .ok g => ofGiven v g
  | .error .help => .help (some v)
  | .error .misuse => .misuse

def helpOn : List String → Request
  | [] => .help none
  | [topic] =>
    match Verb.ofName? topic with
    | some v => .help (some v)
    | none => if topic = "help" then .help none else .misuse
  | _ => .misuse

/-- Options without a command: for help or the version. -/
def ofOption (arg : String) : Request :=
  match arg.toList with
  | '-' :: 'h' :: _ => .help none
  | '-' :: 'V' :: _ => .version
  | _ => if arg = "--help" then .help none else if arg = "--version" then .version else .misuse

/-- What the program is asked to do by its arguments. -/
def read : List String → Request
  | [] => .help none
  | ["--"] => .help none
  | arg :: rest =>
    if arg = "help" then helpOn rest
    else
      match Verb.ofName? arg with
      | some v => ofCommand v rest
      | none => ofOption arg

end Request

end Formulary.CommandLine
