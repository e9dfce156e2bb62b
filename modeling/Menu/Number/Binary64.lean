/-!
# Binary floating point

A `Binary64` is a double: a sign and `m * 2 ^ e` with `m < 2 ^ 53`, an infinity, or no number.
`ofDecimal` rounds an exact decimal to the nearest double, a tie to the even one.  `text` writes the
fewest decimal digits that read back as the same double, and of those the nearest: positionally from
0.0001 up to below 10 ^ 16, always with a decimal point, and with an exponent of at least two digits
otherwise.

Both directions are exact arithmetic on natural numbers.  A double and the two ends of the interval of
reals that round to it are multiples of a power of two, and so, after a power of five, of a power of
ten: `shortest` compares them as such.
-/

namespace Menu.Number

/-- A double. -/
inductive Binary64
  /-- `m * 2 ^ e`, with `2 ^ 52 ≤ m < 2 ^ 53`, or with `m < 2 ^ 53` and the least exponent -1074. -/
  | finite (negative : Bool) (m : Nat) (e : Int)
  | infinite (negative : Bool)
  | nan
deriving DecidableEq, Repr

/-- The quotient of two natural numbers, rounded to the nearest and at a tie to the even one. -/
def roundDiv (n d : Nat) : Nat :=
  let q := n / d
  let r := 2 * (n % d)
  if r < d then q else if d < r then q + 1 else q + q % 2

namespace Binary64

/-- The fraction `n / d` of natural numbers as `n' / d'` in units of `2 ^ e`. -/
def inUnits (n d : Nat) (e : Int) : Nat × Nat :=
  if 0 ≤ e then (n, d * Nat.pow 2 e.toNat) else (n * Nat.pow 2 (-e).toNat, d)

/-- The double nearest to `n / d`. -/
def ofRatio (negative : Bool) (n d : Nat) : Binary64 :=
  if n = 0 then finite negative 0 (-1074)
  else
    let low := max (-1074) ((n.log2 : Int) - d.log2 - 53)
    let scaled := inUnits n d low
    let e := if Nat.pow 2 53 * scaled.2 ≤ scaled.1 then low + 1 else low
    let unit := inUnits n d e
    let m := roundDiv unit.1 unit.2
    let (m, e) := if m = Nat.pow 2 53 then (Nat.pow 2 52, e + 1) else (m, e)
    if 971 < e then infinite negative else finite negative m e

/-- The double nearest to `digits * 10 ^ exponent`.  A number that is far beyond either end of the range
is not computed. -/
def ofDecimal (negative : Bool) (digits : Nat) (exponent : Int) : Binary64 :=
  let size := (Nat.toDigits 10 digits).length + exponent
  if digits = 0 ∨ size < -400 then finite negative 0 (-1074)
  else if 400 < size then infinite negative
  else if 0 ≤ exponent then ofRatio negative (digits * Nat.pow 10 exponent.toNat) 1
  else ofRatio negative digits (Nat.pow 10 (-exponent).toNat)

/-- `n * 2 ^ e` as a multiple of a power of ten: the factor, for the exponent `min e 0`. -/
def tenfold (n : Nat) (e : Int) : Nat :=
  if 0 ≤ e then n * Nat.pow 2 e.toNat else n * Nat.pow 5 (-e).toNat

/-- The fewest digits that read back as `m * 2 ^ e`, and of those the nearest: `digits` and `exponent`
for `digits * 10 ^ exponent`. -/
def shortest (m : Nat) (e : Int) : Nat × Int :=
  let quarter := e - 2
  let value := tenfold (4 * m) quarter
  let lo := tenfold (if m = Nat.pow 2 52 ∧ -1074 < e then 4 * m - 1 else 4 * m - 2) quarter
  let hi := tenfold (4 * m + 2) quarter
  let size := (Nat.toDigits 10 value).length
  let within (n : Nat) : Bool :=
    if m % 2 = 0 then lo ≤ n && n ≤ hi else lo < n && n < hi
  let onGrid (count : Nat) : Option (Nat × Int) :=
    let shift := size - count
    let unit := Nat.pow 10 shift
    let below := value / unit
    let down := within (below * unit)
    let up := within ((below + 1) * unit)
    let exponent := (shift : Int) + min quarter 0
    let carry (n : Nat) : Nat × Int :=
      if n = Nat.pow 10 count then (1, exponent + count) else (n, exponent)
    if down && up then some (carry (roundDiv value unit))
    else if down then some (below, exponent)
    else if up then some (carry (below + 1))
    else none
  ((List.range' 1 17).findSome? onGrid).getD (value, min quarter 0)

/-- Decimal digits with a point after the first `point` of them; the digits are filled up with zeros on
the side where the point lies outside of them. -/
def positional (digits : String) (point : Int) : String :=
  if point ≤ 0 then "0." ++ String.ofList (List.replicate (-point).toNat '0') ++ digits
  else if (digits.length : Int) ≤ point then
    digits ++ String.ofList (List.replicate (point.toNat - digits.length) '0') ++ ".0"
  else
    String.ofList (digits.toList.take point.toNat) ++ "." ++
      String.ofList (digits.toList.drop point.toNat)

/-- Decimal digits with a point after the first one and an exponent. -/
def scientific (digits : String) (point : Int) : String :=
  let fraction := String.ofList (digits.toList.drop 1)
  let power := (point - 1).natAbs
  String.ofList (digits.toList.take 1) ++ (if fraction = "" then "" else "." ++ fraction) ++
    (if point < 1 then "e-" else "e+") ++ (if power < 10 then "0" else "") ++ toString power

/-- The text of a double. -/
def text : Binary64 → String
  | nan => "nan"
  | infinite negative => if negative then "-inf" else "inf"
  | finite negative m e =>
    let sign := if negative then "-" else ""
    if m = 0 then sign ++ "0.0"
    else
      let (n, exponent) := shortest m e
      let digits := toString n
      let point := digits.length + exponent
      sign ++ (if -4 < point ∧ point ≤ 16 then positional digits point else scientific digits point)

example : (ofDecimal false 3 (-1)).text = "0.3" ∧ (ofDecimal false 1 3).text = "1000.0" ∧
    (ofDecimal true 125 (-2)).text = "-1.25" ∧ (ofDecimal false 1 (-7)).text = "1e-07" := by
  decide +kernel

example : (ofDecimal false 5 (-324)).text = "5e-324" ∧ (ofDecimal false 1 16).text = "1e+16" ∧
    (ofDecimal false 9007199254740993 0).text = "9007199254740992.0" := by
  decide +kernel

end Binary64

end Menu.Number
