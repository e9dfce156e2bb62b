import Menu.Text.Printable

/-!
# Quoted texts

A quoted text shows a text between single quotes on one line of printable characters.  The quotes are
double if the text has a single quote and no double quote in it; the quote in use, the backslash, line
feed, carriage return and tab are written with a backslash, and a character that is not printable by its
number in hexadecimal: `\xNN`, `\uNNNN` or `\UNNNNNNNN`, the shortest that holds it.

A quoted list shows its members between brackets, parted by a comma and a space.
-/

namespace Menu.Text

/-- The quote that a text is shown in. -/
def quoteFor (cs : List Char) : Char :=
  if '\'' ∈ cs ∧ '"' ∉ cs then '"' else '\''

/-- A number in hexadecimal with small letters, filled with zeros to a width. -/
def hexPadded (width n : Nat) : List Char :=
  let digits := Nat.toDigits 16 n
  List.replicate (width - digits.length) '0' ++ digits

/-- A character as it stands between the quotes `q`. -/
def escapeChar (q c : Char) : List Char :=
  if c = q ∨ c = '\\' then ['\\', c]
  else if c = '\n' then ['\\', 'n']
  else if c = '\r' then ['\\', 'r']
  else if c = '\t' then ['\\', 't']
  else if isPrintable c then [c]
  else if c.toNat ≤ 0xff then ['\\', 'x'] ++ hexPadded 2 c.toNat
  else if c.toNat ≤ 0xffff then ['\\', 'u'] ++ hexPadded 4 c.toNat
  else ['\\', 'U'] ++ hexPadded 8 c.toNat

/-- A text between quotes. -/
def quoted (s : String) : String :=
  let q := quoteFor s.toList
  String.ofList (q :: s.toList.flatMap (escapeChar q) ++ [q])

/-- A list of texts, each between quotes. -/
def quotedList (ss : List String) : String :=
  "[" ++ String.intercalate ", " (ss.map quoted) ++ "]"

example : quoted "a'b" = "\"a'b\"" ∧ quoted "both'\"" = "'both\\'\"'" := by decide +kernel

example : quoted "\t\n" = "'\\t\\n'" ∧ quoted (String.ofList [Char.ofNat 0x200b]) = "'\\u200b'" := by
  decide +kernel

end Menu.Text
