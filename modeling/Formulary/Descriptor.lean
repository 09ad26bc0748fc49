import Formulary.Checksum
import Formulary.Failure
import Formulary.Formula.Basic
import Formulary.Version

/-!
# Descriptors

The view of a formula that one build has: the package with its version and exactly one source. A
formula gives one descriptor for its release and one for its development head.
-/

namespace Formulary

/-- Which of a formula's sources a build uses. -/
inductive Mode where
  | release
  | head
  deriving DecidableEq, Repr

def Mode.name : Mode → String
  | .release => "release"
  | .head => "head"

/-- An archive to download. -/
structure Archive where
  url : String
  checksum : Checksum
  deriving DecidableEq

/-- A repository to clone. -/
structure Repository where
  url : String
  branch : Option String
  deriving DecidableEq

/-- The one source of a build. -/
inductive SourceRef where
  | archive (a : Archive)
  | repository (r : Repository)
  deriving DecidableEq

def Archive.fileName (a : Archive) : String :=
  match Text.afterLast '/' a.url.toList with
  | [] => "source.tar.gz"
  | name => String.ofList name

namespace SourceRef

def url : SourceRef → String
  | archive a => a.url
  | repository r => r.url

def display : SourceRef → String
  | archive a => a.url ++ " (" ++ a.checksum.display ++ ")"
  | repository ⟨url, some branch⟩ => url ++ " (branch " ++ branch ++ ")"
  | repository ⟨url, none⟩ => url

def mode : SourceRef → Mode
  | archive _ => .release
  | repository _ => .head

end SourceRef

/-- The description of one build. -/
structure Descriptor where
  name : String
  desc : Option String
  homepage : Option String
  license : Option String
  version : String
  source : SourceRef
  buildDependencies : List String
  deriving DecidableEq

namespace Descriptor

/-- The version of every build from a repository. -/
def headVersion : String := "HEAD"

def mode (d : Descriptor) : Mode := d.source.mode

/-- The version of an archive: the package's own, else the one in its address. -/
def archiveVersion (package : Package) (a : Archive) : Except Failure String :=
  match package.version with
  | some version => .ok version
  | none =>
    match Version.infer? a.url with
    | some version => .ok version
    | none => .error (.malformedDescriptor
        ("cannot infer version from " ++ a.url ++ "; set package.version"))

/-- The single source among an archive and a repository, with the version it gives. -/
def chooseSource (package : Package) :
    Option Archive → Option Repository → Except Failure (SourceRef × String)
  | some _, some _ => .error (.malformedDescriptor
      (package.name ++ " sets both an archive and a VCS reference"))
  | none, none => .error (.malformedDescriptor
      (package.name ++ " sets neither an archive nor a VCS reference"))
  | some a, none => (archiveVersion package a).map (SourceRef.archive a, ·)
  | none, some r => .ok (.repository r, headVersion)

def make (package : Package) (archive : Option Archive) (repository : Option Repository) :
    Except Failure Descriptor := do
  if Text.blankText package.name then
    throw (.malformedDescriptor "package name cannot be empty")
  let (source, version) ← chooseSource package archive repository
  if Text.blankText version then
    throw (.malformedDescriptor "package version cannot be empty")
  return {
    name := package.name
    desc := package.desc
    homepage := package.homepage
    license := package.license
    version := version
    source := source
    buildDependencies := package.dependsOn }

end Descriptor

namespace Source

/-- An archive's address with the package's version and name in place of their placeholders. The
name is put in after the version, so a placeholder within the version is seen. -/
def expandedUrl (package : Package) (url : String) : String :=
  let url := match package.version with
    | some version => Text.replace url "%(version)s" version
    | none => url
  Text.replace url "%(name)s" package.name

def archive? (s : Source) (package : Package) : Except Failure (Option Archive) :=
  match s.url with
  | none => .ok none
  | some url =>
    let url := expandedUrl package url
    if Text.holds url "%(" then
      .error (.malformedDescriptor ("archive URL needs an explicit version: " ++ url))
    else .ok (some ⟨url, Checksum.parse (s.checksum.getD "")⟩)

def repository? (s : Source) : Option Repository := s.vcs.map (⟨·, s.branch⟩)

end Source

namespace Formula

def releaseDescriptor (f : Formula) : Except Failure Descriptor := do
  let archive ← f.source.archive? f.package
  let repository := f.source.repository?
  if archive.isNone && repository.isSome then
    throw (.malformedDescriptor
      (f.package.name ++ " declares only a VCS source; build it in head mode"))
  Descriptor.make f.package archive repository

/-- The descriptor for the development head: the formula's own, else its source if that is only a
repository. -/
def headDescriptor (f : Formula) : Except Failure Descriptor :=
  match f.head with
  | some head => Descriptor.make f.package none (some ⟨head.vcs, head.branch⟩)
  | none =>
    if f.source.vcs.isSome && f.source.url.isNone then
      Descriptor.make f.package none f.source.repository?
    else .error (.malformedDescriptor (f.package.name ++ " has no head reference"))

/-- The descriptor for a mode. -/
def descriptor (f : Formula) : Mode → Except Failure Descriptor
  | .release => f.releaseDescriptor
  | .head => f.headDescriptor

end Formula

end Formulary
