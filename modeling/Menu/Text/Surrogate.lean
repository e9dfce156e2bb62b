import Menu.Text.Quoted

/-!
# Lone surrogates

A surrogate is half of a pair of numbers that encode one character, and no character of its own.  Some
texts hold one without the other half all the same.  A character that such a text has no other use for
stands for it here: `Surrogates` says which characters do, and for which numbers.

UTF-8 has no bytes for a surrogate, so that a text with one has no bytes; `Lack` is what is missing.  In
the name of a file the surrogates from `\udc80` to `\udcff` are let through: each of them is a byte that is
no UTF-8.
-/

namespace Menu.Text

/-- The numbers of the surrogates that characters stand for. -/
abbrev Surrogates := Char → Option Nat

/-- Whether a surrogate is a byte of the name of a file. -/
def isByte (n : Nat) : Bool :=
  0xdc80 ≤ n && n ≤ 0xdcff

/-- Whether there are no bytes for a character, if some surrogates are let through. -/
def lacks (surrogate? : Surrogates) (pass : Nat → Bool) (c : Char) : Bool :=
  (surrogate? c).any fun n => !pass n

/-- Surrogates next to each other in a text that has no bytes for the first of them. -/
structure Lack where
  /-- Where in the text the first one stands. -/
  position : Nat
  numbers : List Nat
deriving DecidableEq, Repr

/-- What has no bytes in a text: the first surrogate that is not let through, and all that follow on it. -/
def lackIn (surrogate? : Surrogates) (pass : Nat → Bool) (cs : List Char) : Lack :=
  let (before, rest) := cs.span fun c => !lacks surrogate? pass c
  { position := before.length
    numbers := (rest.takeWhile fun c => (surrogate? c).isSome).filterMap surrogate? }

/-- What has no bytes, in words. -/
def Lack.text (l : Lack) : String :=
  let which := match l.numbers with
    | [n] => " '\\u" ++ String.ofList (hexPadded 4 n) ++ "' in position " ++ toString l.position
    | ns =>
      "s in position " ++ toString l.position ++ "-" ++ toString (l.position + ns.length - 1)
  "'utf-8' codec can't encode character" ++ which ++ ": surrogates not allowed"

example : (lackIn (fun c => if c = 'x' then some 0xd800 else none) isByte "/ax".toList).text =
    "'utf-8' codec can't encode character '\\ud800' in position 2: surrogates not allowed" := by
  decide +kernel

end Menu.Text
