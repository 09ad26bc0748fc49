import Formulary.Descriptor
import Formulary.Text.Blank

/-!
# Checking a formula

What makes a formula useless is a failure; what is only missing or doubtful is a warning.
-/

namespace Formulary

/-- What a check found that does not stand in the way. -/
inductive Warning where
  | notSemantic (version : String)
  | placeholderChecksum (raw : String)
  | noChecksum
  | noDescription
  | noLicense
  | noHomepage
  | noTests
  deriving DecidableEq, Repr

def Warning.message : Warning → String
  | .notSemantic version => "Version '" ++ version ++ "' is not a semantic version"
  | .placeholderChecksum raw => "Source checksum '" ++ raw ++ "' is a placeholder"
  | .noChecksum => "Source archive has no checksum"
  | .noDescription => "Missing package description"
  | .noLicense => "Missing package license"
  | .noHomepage => "Missing package homepage"
  | .noTests => "No test assertions declared"

/-- A symbol no linker would take: empty, or with a blank in it. -/
def Flag.badSymbol? : Flag → Option String
  | .text _ => none
  | .symbol name _ => if name.isEmpty || Text.holdsBlank name then some name else none

namespace Formula

/-- Refuses names that must not be empty and symbols no linker would take. -/
def checkNames (f : Formula) : Except Failure Unit := do
  if f.package.name.isEmpty then
    throw (.malformedDescriptor "Formula package name cannot be empty")
  if f.build.target.isEmpty then
    throw (.malformedDescriptor "Formula build target cannot be empty")
  if f.build.toolchain.isEmpty then
    throw (.malformedDescriptor "Formula build toolchain cannot be empty")
  match f.build.flags.findSome? Flag.badSymbol? with
  | some name => throw (.malformedDescriptor ("Invalid symbol in build flags: '" ++ name ++ "'"))
  | none => return ()

/-- The release descriptor must exist wherever an archive is declared. -/
def checkRelease (f : Formula) : Except Failure (List Warning) := do
  if f.source.url.isSome then
    let d ← f.releaseDescriptor
    return if Version.isSemantic d.version then [] else [.notSemantic d.version]
  else return []

/-- The head descriptor must exist wherever a head is declared, and there must be some source. -/
def checkSources (f : Formula) : Except Failure Unit := do
  if f.head.isSome then
    let _ ← f.headDescriptor
  if f.source.url.isNone && f.source.vcs.isNone then
    throw (.malformedDescriptor
      (f.package.name ++ " sets neither an archive nor a VCS reference"))

/-- What is doubtful about the checksum. -/
def checksumWarnings (f : Formula) : List Warning :=
  match f.source.checksum with
  | some raw => if (Checksum.parse raw).isPinned then [] else [.placeholderChecksum raw]
  | none => if f.source.url.isSome then [.noChecksum] else []

def completenessWarnings (f : Formula) : List Warning :=
  (if f.package.desc.isNone then [.noDescription] else []) ++
  (if f.package.license.isNone then [.noLicense] else []) ++
  (if f.package.homepage.isNone then [.noHomepage] else []) ++
  (if f.tests.isEmpty then [.noTests] else [])

/-- Checks a formula. -/
def validate (f : Formula) : Except Failure (List Warning) := do
  f.checkNames
  let versionWarnings ← f.checkRelease
  f.checkSources
  return versionWarnings ++ f.checksumWarnings ++ f.completenessWarnings

end Formula

end Formulary
