import Formulary.Descriptor
import Formulary.Path
import Formulary.Machine.Disk
import Formulary.Machine.Lookup

/-!
# Settings of a build

Where downloads are kept, how long programs may run, and what is allowed.
-/

namespace Formulary.Kitchen

def seconds (n : Nat) : Millis := n * 1000

/-- How builds are carried out. -/
structure Settings where
  /-- The directory downloads are kept in. -/
  sourceCache : Path
  /-- How long fetching programs and the toolchain may run, each. -/
  timeout : Millis := seconds 3600
  /-- How long the built program may run, each time. -/
  testTimeout : Millis := seconds 60
  /-- The directory of the build stays after the run. -/
  keepBuildDir : Bool := false
  /-- An archive without a checksum is accepted. -/
  allowUnverified : Bool := false
  deriving DecidableEq

/-- The user's directory for cached files: what the environment says if it is an absolute path,
else the usual place in the home directory. -/
def userCache? (env : Environment) : Option Path :=
  let declared := ((env.lookup "XDG_CACHE_HOME").map Path.mk).filter Path.isAbsolute
  declared.or ((Lookup.home? env).map fun home => home.join ".cache")

/-- The directory downloads are kept in when nothing else is asked for. -/
def defaultCache (env : Environment) : Path :=
  ((userCache? env).getD (Disk.temporaryDir env)).join "kettle/sources"

/-- The usual settings. -/
def Settings.standard (env : Environment) : Settings where
  sourceCache := defaultCache env

/-- The usual settings, but accepting archives without a checksum. -/
def Settings.permissive (env : Environment) : Settings :=
  { Settings.standard env with allowUnverified := true }

/-- An archive without a checksum is refused unless that is allowed. -/
def Settings.checkSource (s : Settings) (d : Descriptor) : Except Failure Unit :=
  match d.source with
  | .archive a =>
    if a.checksum.isPinned || s.allowUnverified then .ok ()
    else .error (.unverifiedChecksum a.url a.checksum.display)
  | .repository _ => .ok ()

end Formulary.Kitchen
