import Menu.Number.Binary64
import Menu.Text.Blank
import Menu.Text.Digit

/-!
# Number literals

The texts that count as a number, with white space around them.  `integer?` reads a whole number: an
optional sign, and decimal digits of any script in groups joined by single underscores, at most 4300 of
them.  `interval?` reads a double: an optional sign, and ASCII digits with an optional point and exponent,
or one of the words for infinity and for no number in any case; underscores may join digits if there is
nothing around the literal.
-/

namespace Menu.Number

open Menu.Text

/-- White space around a literal; other than for a blank, the four separators U+001C to U+001F are no
white space. -/
def isSpace (c : Char) : Bool :=
  isBlank c && !(0x1c ≤ c.toNat && c.toNat ≤ 0x1f)

/-- A literal without the white space around it. -/
def trimSpace (cs : List Char) : List Char :=
  ((cs.dropWhile isSpace).reverse.dropWhile isSpace).reverse

/-- The values of the digits of a literal in which single underscores may stand between two digits. -/
def groupedDigits? (digit? : Char → Option Nat) : List Char → Option (List Nat)
  | [] => none
  | [c] => (digit? c).map ([·])
  | c :: '_' :: rest => do
    let d ← digit? c
    let ds ← groupedDigits? digit? rest
    pure (d :: ds)
  | c :: rest => do
    let d ← digit? c
    let ds ← groupedDigits? digit? rest
    pure (d :: ds)

/-- The number that decimal digits stand for, first digit first. -/
def ofDigits (ds : List Nat) : Nat :=
  ds.foldl (fun n d => 10 * n + d) 0

/-- An optional sign in front of a literal: whether it is a minus, and the rest. -/
def splitSign : List Char → Bool × List Char
  | '-' :: rest => (true, rest)
  | '+' :: rest => (false, rest)
  | cs => (false, cs)

/-- The most digits that a whole number may have. -/
def maxDigits : Nat := 4300

/-- The whole number that a text stands for. -/
def integer? (s : String) : Option Int := do
  let (negative, body) := splitSign (trimSpace s.toList)
  let ds ← groupedDigits? digit? body
  if maxDigits < ds.length then none
  else if negative then pure (-(ofDigits ds : Int)) else pure (ofDigits ds)

/-- The digits that a list of characters starts with, and the rest. -/
def spanDigits (cs : List Char) : List Nat × List Char :=
  ((cs.takeWhile fun c => (asciiDigit? c).isSome).filterMap asciiDigit?,
    cs.dropWhile fun c => (asciiDigit? c).isSome)

/-- The exponent that ends a literal; nothing stands for zero. -/
def exponent? : List Char → Option Int
  | [] => some 0
  | c :: rest =>
    if c = 'e' ∨ c = 'E' then
      let (negative, body) := splitSign rest
      let (ds, tail) := spanDigits body
      if ds = [] ∨ tail ≠ [] then none
      else if negative then some (-(ofDigits ds : Int)) else some (ofDigits ds)
    else none

/-- The double that a list of characters stands for. -/
def binary64? (cs : List Char) : Option Binary64 :=
  let (negative, body) := splitSign cs
  let word := String.ofList (body.map Char.toLower)
  if word = "inf" ∨ word = "infinity" then some (.infinite negative)
  else if word = "nan" then some .nan
  else
    let (whole, rest) := spanDigits body
    let (fraction, rest) := match rest with
      | '.' :: rest => spanDigits rest
      | _ => ([], rest)
    if whole = [] ∧ fraction = [] then none
    else (exponent? rest).map fun e =>
      .ofDecimal negative (ofDigits (whole ++ fraction)) (e - fraction.length)

/-- Whether underscores occur, and only one at a time between other characters. -/
def hasJoints (cs : List Char) : Bool :=
  cs.contains '_' && cs.head? != some '_' && cs.getLast? != some '_' &&
    (cs.zip cs.tail).all fun (c, d) => c != '_' || d != '_'

/-- The double that a text stands for. -/
def interval? (s : String) : Option Binary64 :=
  let cs := s.toList
  match binary64? (trimSpace cs) with
  | some x => some x
  | none => if hasJoints cs then binary64? (cs.filter (· != '_')) else none

example : integer? " +1_0 " = some 10 ∧ integer? "1.0" = none ∧ integer? "" = none ∧
    integer? "-٣" = some (-3) ∧ integer? "\x1c1" = none := by
  decide +kernel

example : (interval? "  3.5 ").map Binary64.text = some "3.5" ∧ interval? "1,5" = none ∧
    (interval? ".5e1").map Binary64.text = some "5.0" ∧ interval? "" = none := by
  decide +kernel

end Menu.Number
