/-!
# UTF-8 with replacement

Bytes are read as UTF-8, and what is ill formed is replaced: each longest start of a sequence that the
encoding allows, and each byte that starts none, becomes one U+FFFD.  The state between two bytes is
what is still to come of a sequence, `Pending`; the first continuation byte has a narrower range after
E0, ED, F0 and F4, so that overlong forms, surrogates and numbers above U+10FFFF are refused at the
first byte that betrays them.
-/

namespace Menu.Text

/-- The character that stands for bytes that encode none. -/
def replacement : Char := Char.ofNat 0xfffd

/-- A sequence that has begun: the bits so far, how many bytes are to come, and the range of the next
one. -/
structure Pending where
  bits : Nat
  missing : Nat
  lo : Nat
  hi : Nat

/-- What a byte outside of any sequence does: a character of its own, the start of a sequence, or
neither. -/
inductive Lead
  | char (c : Char)
  | start (p : Pending)
  | stray

/-- The role of a byte at the start of a sequence. -/
def lead (b : Nat) : Lead :=
  if b < 0x80 then .char (Char.ofNat b)
  else if b < 0xc2 then .stray
  else if b < 0xe0 then .start ⟨b - 0xc0, 1, 0x80, 0xbf⟩
  else if b < 0xf0 then
    .start ⟨b - 0xe0, 2, if b = 0xe0 then 0xa0 else 0x80, if b = 0xed then 0x9f else 0xbf⟩
  else if b < 0xf5 then
    .start ⟨b - 0xf0, 3, if b = 0xf0 then 0x90 else 0x80, if b = 0xf4 then 0x8f else 0xbf⟩
  else .stray

/-- Decode the rest of a text; `pending` is the sequence that its first byte may continue. -/
def decodeUtf8From (pending : Option Pending) : List UInt8 → List Char
  | [] => if pending.isSome then [replacement] else []
  | byte :: rest =>
    let b := byte.toNat
    let fresh (_ : Unit) : List Char :=
      match lead b with
      | .char c => c :: decodeUtf8From none rest
      | .start p => decodeUtf8From (some p) rest
      | .stray => replacement :: decodeUtf8From none rest
    match pending with
    | none => fresh ()
    | some p =>
      if p.lo ≤ b ∧ b ≤ p.hi then
        let bits := p.bits * 64 + (b - 0x80)
        if p.missing = 1 then Char.ofNat bits :: decodeUtf8From none rest
        else decodeUtf8From (some ⟨bits, p.missing - 1, 0x80, 0xbf⟩) rest
      else replacement :: fresh ()

/-- Decode UTF-8, with one U+FFFD for each ill-formed part. -/
def decodeUtf8 (bytes : List UInt8) : List Char :=
  decodeUtf8From none bytes

example : decodeUtf8 [0xc3, 0xa9, 0x41] = ['é', 'A'] := by decide

example : decodeUtf8 [0xed, 0xa0, 0x80] = [replacement, replacement, replacement] := by decide

example : decodeUtf8 [0xf0, 0x9f, 0x92, 0x41] = [replacement, 'A'] := by decide

end Menu.Text
