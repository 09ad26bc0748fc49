import Formulary.Machine.Host.Tool.Arguments
import Formulary.Machine.Host.Tool.Checksum
import Formulary.Machine.Host.Tool.Compare
import Formulary.Machine.Host.Tool.Expression
import Formulary.Machine.Host.Tool.Find
import Formulary.Machine.Host.Tool.Format
import Formulary.Machine.Host.Tool.Grep
import Formulary.Machine.Host.Tool.Letters
import Formulary.Machine.Host.Tool.Lines
import Formulary.Machine.Host.Tool.Sed.Tool
import Formulary.Machine.Host.Tool.Sort
import Formulary.Machine.Host.Tool.Transfer

/-!
# Tools: the catalogue

The tools a machine comes with, by the names they are run under.
-/

namespace Formulary.Host.Tool.Catalogue

open Formulary.Host.Script

/-- The tools that copy, cut and change what they read. -/
def filters : List (String × Tool) := [
  ("base32", baseTool base32Characters 5 8), ("base64", baseTool base64Characters 6 4),
  ("cat", cat), ("comm", comm), ("cut", cut), ("dd", dd), ("egrep", Grep.grep .extended),
  ("expand", expand),
  ("fgrep", Grep.grep .fixed), ("fold", fold), ("grep", Grep.grep .basic), ("head", head),
  ("join", join), ("nl", nl), ("od", od), ("paste", paste), ("rev", rev), ("sed", Sed.sed),
  ("shuf", shuf), ("sort", sort), ("split", split), ("tac", tac), ("tail", tail), ("tee", tee),
  ("tr", tr), ("tsort", tsort), ("unexpand", unexpand), ("uniq", uniq), ("wc", wc)]

def writers : List (String × Tool) := [
  ("[", Condition.test true), ("echo", Format.echo), ("expr", Expression.expr), ("factor", factor),
  ("false", fun _ => return 1), ("printf", Format.printfProgram), ("seq", seq),
  ("test", Condition.test false), ("true", fun _ => return 0), ("yes", yes)]

/-- The tools that compare files or tell their sums. -/
def sums : List (String × Tool) := [
  ("cksum", cksum), ("cmp", cmp), ("diff", diff), ("md5sum", checksums "MD5" md5),
  ("sha1sum", checksums "SHA1" sha1),
  ("sha224sum", checksums "SHA224" (digestCut sha224Variant 56)),
  ("sha256sum", checksums "SHA256" (Digest.digest .sha256)),
  ("sha384sum", checksums "SHA384" (digestCut sha384Variant 96)),
  ("sha512sum", checksums "SHA512" (Digest.digest .sha512)), ("sum", sum)]

/-- The tools that make, move, remove and list files. -/
def fileTools : List (String × Tool) := [
  ("basename", basename), ("chgrp", chown), ("chmod", chmod), ("chown", chown), ("cp", cp),
  ("dirname", dirname), ("find", Find.find), ("install", install), ("link", link), ("ln", ln),
  ("ls", ls), ("mkdir", mkdir), ("mkfifo", mkfifo), ("mktemp", mktemp), ("mv", mv), ("pwd", pwd),
  ("readlink", readlink), ("realpath", realpath), ("rm", rm), ("rmdir", rmdir), ("stat", stat),
  ("sync", sync), ("touch", touch), ("truncate", truncate), ("unlink", unlink)]

/-- The tools that tell about the surroundings, or run others in them. -/
def surroundings : List (String × Tool) := [
  ("arch", teller "x86_64"), ("date", date), ("env", env), ("groups", teller "root"),
  ("hostname", teller "localhost"), ("id", identity), ("kill", kill), ("nice", nice),
  ("nohup", nohup), ("nproc", teller "1"), ("printenv", printenv), ("setsid", setsid),
  ("sleep", sleep), ("stdbuf", stdbuf), ("timeout", timeout), ("tty", tty), ("uname", uname),
  ("which", which), ("whoami", teller "root"), ("xargs", Arguments.xargs)]

def tools : List (String × Tool) := filters ++ writers ++ sums ++ fileTools ++ surroundings

def shellNames : List String := ["dash", "sh"]

/-- The names of all programs of the machine. -/
def names : List String := shellNames ++ tools.map Prod.fst

end Formulary.Host.Tool.Catalogue
