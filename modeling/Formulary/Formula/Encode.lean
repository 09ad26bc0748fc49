import Formulary.Data.Value
import Formulary.Formula.Basic

/-!
# Writing a formula as a value

Every field is written, also where it has its default; what is absent is written as null.
-/

namespace Formulary

def StringMap.toValue (m : StringMap) : Value :=
  .table (m.entries.map fun (key, value) => (key, .string value))

def Package.toValue (p : Package) : Value := .table [
  ("name", .string p.name),
  ("desc", .ofOption p.desc),
  ("homepage", .ofOption p.homepage),
  ("license", .ofOption p.license),
  ("version", .ofOption p.version),
  ("depends_on", .ofStrings p.dependsOn)]

def Source.toValue (s : Source) : Value := .table [
  ("url", .ofOption s.url),
  ("sha256", .ofOption s.checksum),
  ("vcs", .ofOption s.vcs),
  ("branch", .ofOption s.branch)]

def HeadSource.toValue (h : HeadSource) : Value := .table [
  ("vcs", .string h.vcs),
  ("branch", .ofOption h.branch)]

/-- A flag as a text or a table. -/
def Flag.toValue : Flag → Value
  | .text template => .string template
  | .symbol name value => .table [("symbol", .string name), ("value", .ofOption value)]

def Build.toValue (b : Build) : Value := .table [
  ("toolchain", .string b.toolchain),
  ("verb", .string b.verb),
  ("target", .string b.target),
  ("binary", .ofOption b.binary),
  ("std_args", .bool b.stdArgs),
  ("flags_arg", .string b.flagsArg),
  ("flags", .array (b.flags.map Flag.toValue)),
  ("args", .ofStrings b.args),
  ("environment", b.environment.toValue)]

def ShellStyle.name : ShellStyle → String
  | .plain => "plain"
  | .flag => "flag"
  | .option => "arg"
  | .silent => "none"

def Completions.toValue (c : Completions) : Value := .table [
  ("executable", .ofOption c.executable),
  ("subcommand", .string c.subcommand),
  ("shells", .ofStrings (c.shells.map Shell.name)),
  ("shell_parameter_format", .string c.style.name),
  ("base_name", .ofOption c.baseName)]

/-- A step as a table with its name as the only key. -/
def Step.toValue : Step → Value
  | .completions settings => .table [("completions", settings.toValue)]

def Assertion.toValue (a : Assertion) : Value := .table [
  ("id", .ofOption a.id),
  ("args", .ofStrings a.args),
  ("expect", .string a.expect),
  ("status", .int a.status.toInt)]

def Formula.toValue (f : Formula) : Value := .table [
  ("package", f.package.toValue),
  ("source", f.source.toValue),
  ("head", (f.head.map HeadSource.toValue).getD .null),
  ("build", f.build.toValue),
  ("post_install", .array (f.postInstall.map Step.toValue)),
  ("test", .array (f.tests.map Assertion.toValue)),
  ("variables", f.bindings.toValue)]

end Formulary
