import Formulary.Text.Shown

/-!
# Faults

What the system answers when an operation on files or programs is refused, and the text each
refusal is shown with.
-/

namespace Formulary

/-- A refused operation. -/
inductive Fault where
  | notPermitted
  | noEntry
  | noDevice
  | argumentsTooLong
  | execFormat
  | badDescriptor
  | noChild
  | denied
  | busy
  | exists
  | notDirectory
  | isDirectory
  | invalid
  | noSpace
  | notSeekable
  | brokenPipe
  | nameTooLong
  | notEmpty
  | tooManyLinks
  /-- A path holds a character that no path can hold. -/
  | nulInPath
  /-- An argument holds a character that no argument can hold. -/
  | nulInArgument
  /-- The bytes of a text are no text. -/
  | notText
  /-- Not even the start of a path could be made. -/
  | wholeTree
  /-- A fault at a path. -/
  | located (cause : Fault) (path : String)
  deriving DecidableEq, Repr, Inhabited

namespace Fault

/-- The number of a fault and its words, for those that have a number. -/
def numbered? : Fault → Option (Nat × String)
  | notPermitted => some (1, "Operation not permitted")
  | noEntry => some (2, "No such file or directory")
  | noDevice => some (6, "No such device or address")
  | argumentsTooLong => some (7, "Argument list too long")
  | execFormat => some (8, "Exec format error")
  | badDescriptor => some (9, "Bad file descriptor")
  | noChild => some (10, "No child processes")
  | denied => some (13, "Permission denied")
  | busy => some (16, "Device or resource busy")
  | .exists => some (17, "File exists")
  | notDirectory => some (20, "Not a directory")
  | isDirectory => some (21, "Is a directory")
  | invalid => some (22, "Invalid argument")
  | noSpace => some (28, "No space left on device")
  | notSeekable => some (29, "Illegal seek")
  | brokenPipe => some (32, "Broken pipe")
  | nameTooLong => some (36, "File name too long")
  | notEmpty => some (39, "Directory not empty")
  | tooManyLinks => some (40, "Too many levels of symbolic links")
  | _ => none

def words (f : Fault) : String :=
  match f.numbered?, f with
  | some (_, text), _ => text
  | none, nulInPath => "file name contained an unexpected NUL byte"
  | none, nulInArgument => "nul byte found in provided data"
  | none, notText => "stream did not contain valid UTF-8"
  | none, wholeTree => "failed to create whole tree"
  | none, _ => ""

/-- A character in a quoted path. -/
def quoteChar (c : Char) : String :=
  if c = '\x00' then "\\0"
  else if c = '\t' then "\\t"
  else if c = '\r' then "\\r"
  else if c = '\n' then "\\n"
  else if c = '"' then "\\\""
  else if c = '\\' then "\\\\"
  else if Text.isShown c then c.toString
  else "\\u\x7b" ++ String.ofList (Nat.toDigits 16 c.toNat) ++ "\x7d"

def quotePath (path : String) : String :=
  "\"" ++ String.join (path.toList.map quoteChar) ++ "\""

def message : Fault → String
  | located cause path => cause.message ++ " at path " ++ quotePath path
  | f =>
    match f.numbered? with
    | some (number, text) => text ++ " (os error " ++ toString number ++ ")"
    | none => f.words

end Fault

end Formulary
