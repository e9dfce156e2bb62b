import Menu.Text.Surrogate
import Menu.Text.Utf8

/-!
# Text encodings

The encodings a document may be stored in, the names they go by, and how bytes are read in each.  A
name is matched without regard to case, and any run of characters other than letters, digits and dots
counts as one underscore.  Bytes that encode nothing become U+FFFD.

Escapes may give the number of a surrogate.  The last characters of the last plane, which are for private
use, stand for these in a text that was read from escapes.
-/

namespace Menu.Text

/-- How the characters of a document are stored as bytes. -/
inductive Encoding
  | utf8
  /-- UTF-8 that may start with a byte order mark, which is no part of the text, not even if the text ends
  within the mark. -/
  | utf8Signed
  | ascii
  | latin1
  /-- Sixteen-bit units, low byte first. -/
  | utf16Low
  /-- Latin-1 with `\uNNNN` and `\UNNNNNNNN` for characters by their numbers. -/
  | escapes
deriving DecidableEq, Repr

namespace Encoding

/-- The pieces of a name in small letters, joined by single underscores. -/
def normalize (name : String) : String :=
  let step (acc : List Char × Bool) (c : Char) : List Char × Bool :=
    if c.isAlphanum || c == '.' then
      (if acc.2 && !acc.1.isEmpty then c.toLower :: '_' :: acc.1 else c.toLower :: acc.1, false)
    else (acc.1, true)
  String.ofList (name.toList.foldl step ([], false)).1.reverse

/-- The encodings under their own names. -/
def ownNames : List (String × Encoding) :=
  [("utf_8", utf8), ("utf_8_sig", utf8Signed), ("ascii", ascii), ("latin_1", latin1),
   ("utf_16_le", utf16Low), ("raw_unicode_escape", escapes)]

/-- The other names that they go by. -/
def otherNames : List (String × Encoding) :=
  [("utf8", utf8), ("u8", utf8), ("utf", utf8), ("utf8_ucs2", utf8), ("utf8_ucs4", utf8),
   ("cp65001", utf8),
   ("646", ascii), ("ansi_x3.4_1968", ascii), ("ansi_x3_4_1968", ascii), ("ansi_x3.4_1986", ascii),
   ("cp367", ascii), ("csascii", ascii), ("ibm367", ascii), ("iso646_us", ascii),
   ("iso_646.irv_1991", ascii), ("iso_ir_6", ascii), ("us", ascii), ("us_ascii", ascii),
   ("latin1", latin1), ("latin", latin1), ("l1", latin1), ("8859", latin1), ("iso8859", latin1),
   ("iso8859_1", latin1), ("iso_8859_1", latin1), ("iso_8859_1_1987", latin1),
   ("iso_ir_100", latin1), ("cp819", latin1), ("csisolatin1", latin1), ("ibm819", latin1),
   ("utf_16le", utf16Low), ("unicodelittleunmarked", utf16Low)]

/-- A name with underscores for its dots. -/
def withoutDots (name : String) : String :=
  String.ofList (name.toList.map fun c => if c = '.' then '_' else c)

/-- The encoding that a name stands for: one of the other names, in which underscores may be written as
dots, or an encoding's own. -/
def ofName? (name : String) : Option Encoding :=
  let name := normalize name
  match otherNames.lookup name, otherNames.lookup (withoutDots name) with
  | some e, _ => some e
  | none, some e => some e
  | none, none => ownNames.lookup name

/-- Decode sixteen-bit units, low byte first.  A half of a pair without the other half, and a byte that
is left over, become U+FFFD; at the end of the text both together become one. -/
def decodeUtf16Low : List UInt8 → List Char
  | [] => []
  | [_] => [replacement]
  | lo :: hi :: rest =>
    let u := lo.toNat + 256 * hi.toNat
    if u < 0xd800 ∨ 0xe000 ≤ u then Char.ofNat u :: decodeUtf16Low rest
    else if 0xdc00 ≤ u then replacement :: decodeUtf16Low rest
    else match rest with
      | [] => [replacement]
      | [_] => [replacement]
      | lo' :: hi' :: rest' =>
        let v := lo'.toNat + 256 * hi'.toNat
        if 0xdc00 ≤ v ∧ v < 0xe000 then
          Char.ofNat (0x10000 + (u - 0xd800) * 0x400 + (v - 0xdc00)) :: decodeUtf16Low rest'
        else replacement :: decodeUtf16Low (lo' :: hi' :: rest')

/-- The first character that stands for a surrogate. -/
def firstStandIn : Nat := 0x10f800

/-- The number of digits of an escape whose letter is `b`. -/
def escapeDigits? (b : UInt8) : Option Nat :=
  if b = 0x75 then some 4 else if b = 0x55 then some 8 else none

/-- The value of a byte as a digit in hexadecimal. -/
def hexValue? (b : UInt8) : Option Nat :=
  let n := b.toNat
  if 0x30 ≤ n ∧ n ≤ 0x39 then some (n - 0x30)
  else if 0x61 ≤ n ∧ n ≤ 0x66 then some (n - 0x57)
  else if 0x41 ≤ n ∧ n ≤ 0x46 then some (n - 0x37)
  else none

/-- The character of an escape by its number; too large a number is no character. -/
def ofNumber (n : Nat) : Char :=
  if 0xd800 ≤ n ∧ n < 0xe000 then Char.ofNat (firstStandIn + (n - 0xd800))
  else if 0x110000 ≤ n then replacement
  else Char.ofNat n

/-- An escape that has begun: its backslash, or its number so far with the digits that are to come. -/
inductive Escape
  | slash
  | number (missing n : Nat)

/-- Decode the rest of a text; `begun` is the escape that its first byte may continue.  A backslash in front of
any other letter is one, and an escape that breaks off is replaced. -/
def decodeEscapesFrom (begun : Option Escape) : List UInt8 → List Char
  | [] =>
    match begun with
    | none => []
    | some .slash => ['\\']
    | some (.number missing n) => [if missing = 0 then ofNumber n else replacement]
  | b :: rest =>
    let fresh (_ : Unit) : List Char :=
      if b = 0x5c then decodeEscapesFrom (some .slash) rest
      else Char.ofNat b.toNat :: decodeEscapesFrom none rest
    match begun with
    | none => fresh ()
    | some .slash =>
      match escapeDigits? b with
      | some count => decodeEscapesFrom (some (.number count 0)) rest
      | none => '\\' :: Char.ofNat b.toNat :: decodeEscapesFrom none rest
    | some (.number 0 n) => ofNumber n :: fresh ()
    | some (.number (missing + 1) n) =>
      match hexValue? b with
      | some digit => decodeEscapesFrom (some (.number missing (16 * n + digit))) rest
      | none => replacement :: fresh ()

/-- The surrogates that the characters of a text stand for. -/
def surrogate? : Encoding → Text.Surrogates
  | escapes, c =>
    if firstStandIn ≤ c.toNat then some (c.toNat - firstStandIn + 0xd800) else none
  | _, _ => none

/-- The surrogates that texts in the encoding of a name may have. -/
def surrogatesOf (name : String) : Text.Surrogates :=
  match ofName? name with
  | some e => e.surrogate?
  | none => fun _ => none

/-- The text that bytes stand for in an encoding. -/
def decode : Encoding → List UInt8 → List Char
  | utf8, bytes => decodeUtf8 bytes
  | utf8Signed, bytes =>
    match bytes with
    | 0xef :: 0xbb :: 0xbf :: rest => decodeUtf8 rest
    | [0xef, 0xbb] => []
    | [0xef] => []
    | _ => decodeUtf8 bytes
  | ascii, bytes => bytes.map fun b => if b < 0x80 then Char.ofNat b.toNat else replacement
  | latin1, bytes => bytes.map fun b => Char.ofNat b.toNat
  | utf16Low, bytes => decodeUtf16Low bytes
  | escapes, bytes => decodeEscapesFrom none bytes

end Encoding

example : Encoding.ofName? "UTF-8" = some .utf8 ∧ Encoding.ofName? "Latin-1" = some .latin1 ∧
    Encoding.ofName? "ISO.8859.1" = some .latin1 ∧ Encoding.ofName? "utf.8" = none := by
  decide +kernel

end Menu.Text
