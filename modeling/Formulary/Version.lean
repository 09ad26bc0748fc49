import Formulary.Text.Search

/-!
# Versions

Versions inferred from the address of an archive, and versions in semantic form.
-/

namespace Formulary.Version

/-! ### Inference -/

/-- The endings an archive's name may have, in the order in which they are tried. -/
def archiveExtensions : List String :=
  [".tar.gz", ".tgz", ".tar.xz", ".txz", ".tar.bz2", ".tbz2", ".tar.zst", ".tar", ".zip"]

/-- A name without the first of the archive endings it has. -/
def stem (name : List Char) : List Char :=
  (archiveExtensions.findSome? fun ending => Text.beforeMark? ending.toList name).getD name

def opensVersion (c : Char) : Bool := c = '-' || c = '_' || c = 'v' || c = 'V'

/-- The rest of a text from its first digit that stands at the start or after an opening
character; `opened` tells whether the text itself stands at such a place. -/
def candidate? (opened : Bool) : List Char → Option (List Char)
  | [] => none
  | c :: rest =>
    if opened && c.isDigit then some (c :: rest) else candidate? (opensVersion c) rest

/-- A character a version may hold. -/
def isVersionChar (c : Char) : Bool :=
  c.isAlphanum || c = '.' || c = '-' || c = '_' || c = '+'

def infer? (url : String) : Option String :=
  match candidate? true (stem (Text.afterLast '/' url.toList)) with
  | some version => if version.all isVersionChar then some (String.ofList version) else none
  | none => none

/-! ### Semantic form -/

/-- A number without needless zeros that fits 64 bits. -/
def isNumber (digits : List Char) : Bool :=
  !digits.isEmpty && digits.all Char.isDigit &&
    (digits.length == 1 || digits.head? != some '0') &&
    (String.ofList digits).toNat?.any (· < Nat.pow 2 64)

/-- A part of a label: letters, digits and hyphens. -/
def isIdentifier (part : List Char) : Bool :=
  !part.isEmpty && part.all fun c => c.isAlphanum || c = '-'

/-- A part of a label before a release: a number among them has no needless zeros. -/
def isPreIdentifier (part : List Char) : Bool :=
  isIdentifier part &&
    (!part.all Char.isDigit || part.length == 1 || part.head? != some '0')

/-- Three numbers, then an optional label after a hyphen, then an optional label after a plus. -/
def isSemantic (text : String) : Bool :=
  let s := text.toList
  let (front, build) := match Text.cut? ['+'] s with
    | some (front, label) => (front, some label)
    | none => (s, none)
  let (core, pre) := match Text.cut? ['-'] front with
    | some (core, label) => (core, some label)
    | none => (front, none)
  let numbers := Text.splitAt '.' core
  numbers.length == 3 && numbers.all isNumber &&
    pre.all (fun label => (Text.splitAt '.' label).all isPreIdentifier) &&
    build.all (fun label => (Text.splitAt '.' label).all isIdentifier)

end Formulary.Version
