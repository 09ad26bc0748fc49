/-!
# Tools: texts in quotes

How complaints show names and other texts: in a form that a shell would read back, or between plain
quotes with escapes. Bytes that cannot be shown stand as octal numbers.
-/

namespace Formulary.Host.Tool

/-- The letter of an escape for a character that cannot be shown. -/
def escapeLetter? (c : Char) : Option Char :=
  [('\x07', 'a'), ('\x08', 'b'), ('\x0c', 'f'), ('\n', 'n'), ('\r', 'r'), ('\t', 't'),
    ('\x0b', 'v')].lookup c

def octalDigits (n : Nat) : String :=
  String.ofList ([n / 64, n / 8 % 8, n % 8].map Nat.digitChar)

/-- A character of a byte can be shown. -/
def canShow (c : Char) : Bool := 0x20 ≤ c.toNat && c.toNat < 0x7F

/-- The escape of a character that cannot be shown. -/
def escaped (c : Char) : String :=
  match escapeLetter? c with
  | some letter => "\\" ++ letter.toString
  | none => "\\" ++ octalDigits c.toNat

/-- A character that means nothing to a shell. -/
def isPlain (c : Char) : Bool := c.isAlphanum || "%+,-./:@]_".toList.contains c

/-- A text that means itself to a shell. -/
def isPlainText (s : List Char) : Bool :=
  match s with
  | [] => false
  | ['\x7b'] | ['\x7d'] => false
  | c :: rest =>
    (isPlain c || "\x7b\x7d".toList.contains c) &&
      rest.all fun c => isPlain c || "#~\x7b\x7d".toList.contains c

/-- The characters of a text behind an opening quote of a shell, and the closing one; the flag tells
whether the quotes are those of escapes. -/
def shellPieces : Bool → List Char → String
  | _, [] => "'"
  | inEscapes, c :: rest =>
    if canShow c then
      (if inEscapes then "''" else "") ++ (if c = '\'' then "'\\''" else c.toString) ++
        shellPieces false rest
    else (if inEscapes then "" else "'$'") ++ escaped c ++ shellPieces true rest

/-- A text in a form that a shell reads back, always in quotes if so asked. -/
def shellQuoted (always : Bool) (s : String) : String :=
  let cs := s.toList
  if !always && isPlainText cs then s
  else if cs.contains '\'' && cs.all fun c => isPlain c || c = ' ' || c = '\'' then
    "\"" ++ s ++ "\""
  else "'" ++ shellPieces false cs

def shown (s : String) : String := shellQuoted false s

/-- A name as complaints show it where it is always in quotes. -/
def named (s : String) : String := shellQuoted true s

def quoted (s : String) : String :=
  "'" ++ String.join (s.toList.map fun c =>
    if c = '\'' then "\\'" else if c = '\\' then "\\\\" else if canShow c then c.toString
    else escaped c) ++ "'"

end Formulary.Host.Tool
