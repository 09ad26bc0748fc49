import Formulary.Descriptor
import Formulary.Fetch.Verify
import Formulary.Machine.Supervise

/-!
# Fetching sources

An archive is downloaded into a cache, verified and unpacked; a repository is cloned. The work is
done by programs of the machine. In the cache a pinned archive has the name of its checksum, and
only bytes that match it are ever put there.
-/

namespace Formulary

/-- A way to get a source into a directory: the root of the source in it. Programs it starts may
run for a while, each. -/
abbrev Fetcher := SourceRef → Path → Millis → Attempt Path

namespace Fetch

variable (launch : Launcher)

/-! ### Helping programs -/

/-- Runs a program that must end well. Its failure is told with a description of its purpose. -/
def runHelper (c : Command) (purpose : String) (timeout : Millis) : Attempt Output := do
  let output ← Attempt.orFail (supervise launch c timeout) fun e =>
    .downloadFailed (c.program ++ " failed: " ++ e.message)
  match output.outcome with
  | .cancelled => throw (.cancelled ("fetch (" ++ c.program ++ ")"))
  | .timedOut => throw (.downloadFailed (purpose ++ ": " ++ c.program ++ " timed out after " ++
      toString (timeout / 1000) ++ " seconds"))
  | .exited status =>
    if status.success then return output
    else throw (.downloadFailed (purpose ++ ": " ++ Text.trim output.stderr))

def downloadFile (url : String) (target : Path) (timeout : Millis) : Attempt Unit := do
  let _ ← runHelper launch { program := "curl", args := ["-fsSL", "-o", target.text, url] }
    ("Failed to download " ++ url) timeout

/-- The arguments that unpack an archive, by the ending of its name. -/
def unpackArgs? (fileName : String) : Option (List String) :=
  let ends (endings : List String) : Bool :=
    endings.any fun ending => ending.toList.isSuffixOf fileName.toList
  if ends [".tar.gz", ".tgz"] then some ["-xzf"]
  else if ends [".tar.xz", ".txz"] then some ["-xJf"]
  else if ends [".tar.bz2", ".tbz2"] then some ["-xjf"]
  else if ends [".tar.zst"] then some ["--zstd", "-xf"]
  else if ends [".tar"] then some ["-xf"]
  else none

/-- Unpacks an archive, whose format is told by a name, into a directory. -/
def extract (archive : Path) (fileName : String) (target : Path) (timeout : Millis) :
    Attempt Unit := do
  match unpackArgs? fileName with
  | none => throw (.downloadFailed ("Unknown archive format: " ++ fileName))
  | some args =>
    let _ ← runHelper launch
      { program := "tar", args := args ++ [archive.text, "-C", target.text] }
      "Failed to extract archive" timeout

def clone (r : Repository) (target : Path) (timeout : Millis) : Attempt Path := do
  let branch := match r.branch with
    | some branch => ["--branch", branch]
    | none => []
  let _ ← runHelper launch
    { program := "git"
      args := ["clone", "--depth", "1"] ++ branch ++ [r.url, target.text]
      env := [("GIT_TERMINAL_PROMPT", "0")] }
    ("Failed to clone " ++ r.url) timeout
  return target

/-! ### The cache -/

def cacheName (a : Archive) : String :=
  a.checksum.cacheKey?.getD
    ("unverified_" ++ String.ofList ((Digest.sha256 (Text.encode a.url)).toList.take 16))

def cachedPath (cache : Path) (a : Archive) : Path := cache.join (cacheName a)

/-- The file an archive is downloaded to before it is verified. -/
def pendingPath (cache : Path) (a : Archive) : Path := cache.join (cacheName a ++ ".tmp")

/-- Whether the cached file of a pinned archive can be used. One that does not match is removed. -/
def useCached (cache : Path) (a : Archive) : Attempt Bool := do
  let cached := cachedPath cache a
  if a.checksum.isPinned && (← Disk.exists? cached) then
    match ← Attempt.io (mismatch? cached a.checksum) with
    | none => return true
    | some _ =>
      Attempt.io (Disk.removeFile cached)
      return false
  else return false

/-- Downloads an archive next to its place in the cache, verifies it and puts it there. -/
def downloadAfresh (cache : Path) (a : Archive) (timeout : Millis) : Attempt Path := do
  let pending := pendingPath cache a
  tryCatch (downloadFile launch a.url pending timeout) fun e => do
    let _ ← (Disk.removeFile pending : Act _)
    throw e
  match ← Attempt.io (mismatch? pending a.checksum) with
  | some actual =>
    Attempt.io (Disk.removeFile pending)
    throw (.checksumMismatch a.checksum.display (displayFound a.checksum actual))
  | none =>
    let cached := cachedPath cache a
    Attempt.io (Disk.rename pending cached)
    return cached

/-- The cached file of an archive, downloaded if need be. An archive without a checksum is always
downloaded. -/
def download (cache : Path) (a : Archive) (timeout : Millis) : Attempt Path := do
  Attempt.io (Disk.makeAll cache)
  if ← useCached cache a then return cachedPath cache a
  else downloadAfresh launch cache a timeout

/-! ### Sources -/

/-- The only thing in a directory, if that is a directory. -/
def onlyDirectory? (dir : Path) : Attempt (Option Path) := do
  match ← Attempt.io (Disk.list dir) with
  | [(name, .directory)] => return some (dir.join name)
  | _ => return none

/-- Fetches an archive and unpacks it. Archives usually wrap their content in one directory, which
is the root then. -/
def archive (cache : Path) (a : Archive) (target : Path) (timeout : Millis) : Attempt Path := do
  let cached ← download launch cache a timeout
  let dir := target.join "source"
  Attempt.io (Disk.makeAll dir)
  extract launch cached a.fileName dir timeout
  return (← onlyDirectory? dir).getD dir

/-- The usual way to get sources. -/
def standard (cache : Path) : Fetcher := fun source target timeout =>
  match source with
  | .archive a => archive launch cache a target timeout
  | .repository r => clone launch r (target.join "source") timeout

end Fetch

end Formulary
