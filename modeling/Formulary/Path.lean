import Formulary.Text.Search

/-!
# Paths

A path is text whose parts stand between slashes. A part that is empty or a single dot says
nothing, except for a dot at the very start of a relative path.
-/

namespace Formulary

/-- A path, as it is written. -/
structure Path where
  text : String
  deriving DecidableEq, Repr, Inhabited

namespace Path

instance : Coe String Path := ⟨Path.mk⟩

/-- The path starts at the root. -/
def isAbsolute (p : Path) : Bool := p.text.toList.head? = some '/'

/-- All parts between slashes, also those that say nothing. -/
def rawParts (p : Path) : List String := (Text.splitAt '/' p.text.toList).map String.ofList

/-- The parts that say something, without the root. -/
def parts (p : Path) : List String := p.rawParts.filter fun part => part ≠ "" && part ≠ "."

/-- `p` followed by `q`, which stands alone if it is absolute. -/
def join (p : Path) (q : String) : Path :=
  if Path.isAbsolute ⟨q⟩ then ⟨q⟩
  else if p.text.isEmpty || p.text.toList.getLast? = some '/' then ⟨p.text ++ q⟩
  else ⟨p.text ++ "/" ++ q⟩

/-- A relative path that starts with a dot of its own. -/
def startsWithDot (p : Path) : Bool := p.rawParts.head? = some "."

def ofParts (absolute : Bool) (parts : List String) : Path :=
  ⟨(if absolute then "/" else "") ++ "/".intercalate parts⟩

/-- The path without its last part; the root and the empty path have none. -/
def parent? (p : Path) : Option Path :=
  let parts := if p.startsWithDot then "." :: p.parts else p.parts
  if parts.isEmpty then none else some (ofParts p.isAbsolute parts.dropLast)

/-- The last part, if it names something. -/
def fileName? (p : Path) : Option String :=
  match p.parts.getLast? with
  | some ".." => none
  | name => name

/-- The last part without what follows its last dot; a dot at its start does not count. -/
def fileStem? (p : Path) : Option String :=
  p.fileName?.map fun name =>
    match name.toList.reverse.span (· ≠ '.') with
    | (_, _ :: stem) => if stem.isEmpty then name else String.ofList stem.reverse
    | (_, []) => name

/-- The path from the root, for a relative one from the directory `cwd`. Parts that say nothing are
dropped, except for a slash at the end; `..` stays. The empty path has no such form and stays. -/
def absolute (p cwd : Path) : Path :=
  if p.text.isEmpty then p
  else
    let s := p.text.toList
    let start : Path :=
      if p.isAbsolute then
        if (s.takeWhile (· = '/')).length = 2 then ⟨"//"⟩ else ⟨"/"⟩
      else cwd
    let whole := p.parts.foldl join start
    if s.getLast? = some '/' then whole.join "" else whole

end Path

end Formulary
