import Manuscript.Number.Double

/-!
# The shortest decimal of a double

Of all decimals that round to a double, `shortest` gives one with the fewest digits,
and of these the one nearest to the double. All arithmetic is on whole numbers.

`written` lays the digits out: positionally when the point falls between four
places before the digits and sixteen places into them, otherwise with an exponent of
at least two digits. A whole number keeps a zero after its point.
-/

namespace Manuscript.Number

/-- The decimal `value * 10 ^ exponent`. -/
structure Scaled where
  /-- The decimal digits, read as one number. -/
  value : Nat
  /-- The power of ten they are scaled by. -/
  exponent : Int
  deriving DecidableEq, Repr

/-- A nonnegative fraction and the open or closed interval around it that rounds to
    the same double. -/
structure Rounding where
  /-- The lower end, over `unit`. -/
  low : Nat
  /-- The number itself, over `unit`. -/
  mid : Nat
  /-- The upper end, over `unit`. -/
  high : Nat
  /-- The common denominator. -/
  unit : Nat
  /-- Whether the ends round to the double too. -/
  closed : Bool

namespace Rounding

/-- The interval of a double with the given significand and exponent. -/
def ofParts (mantissa : Nat) (exponent : Int) : Rounding :=
  let gapBelow := if mantissa == Nat.pow 2 52 && exponent > -1074 then 1 else 2
  let scale := exponent - 2
  let up := if scale < 0 then 1 else Nat.pow 2 scale.natAbs
  let down := if scale < 0 then Nat.pow 2 scale.natAbs else 1
  ⟨(4 * mantissa - gapBelow) * up, 4 * mantissa * up, (4 * mantissa + 2) * up, down,
    mantissa % 2 == 0⟩

/-- Whether `n * 10 ^ e` lies in the interval. -/
def holds (r : Rounding) (n : Nat) (e : Int) : Bool :=
  let num := if e < 0 then n else n * Nat.pow 10 e.natAbs
  let den := if e < 0 then Nat.pow 10 e.natAbs else 1
  if r.closed then r.low * den ≤ num * r.unit && num * r.unit ≤ r.high * den
  else r.low * den < num * r.unit && num * r.unit < r.high * den

/-- The whole part of the number over `10 ^ e`. -/
def quotient (r : Rounding) (e : Int) : Nat :=
  if e < 0 then r.mid * Nat.pow 10 e.natAbs / r.unit else r.mid / (r.unit * Nat.pow 10 e.natAbs)

/-- Whether the number is nearer to `n * 10 ^ e` than to `(n + 1) * 10 ^ e`, a tie
    going to the even one. -/
def nearerBelow (r : Rounding) (n : Nat) (e : Int) : Bool :=
  let num := if e < 0 then r.mid * Nat.pow 10 e.natAbs else r.mid
  let den := if e < 0 then r.unit else r.unit * Nat.pow 10 e.natAbs
  let twice := 2 * num
  let middle := (2 * n + 1) * den
  twice < middle || (twice == middle && n % 2 == 0)

/-- A decimal on the grid of `10 ^ e` that rounds to the double. -/
def onGrid? (r : Rounding) (e : Int) : Option Nat :=
  let n := r.quotient e
  match r.holds n e, r.holds (n + 1) e with
  | true, true => some (if r.nearerBelow n e then n else n + 1)
  | true, false => some n
  | false, true => some (n + 1)
  | false, false => none

end Rounding

/-- The number of digits before the point of `r`, found by trying exponents from
    `e` up. -/
def magnitude (r : Rounding) : Nat → Int → Int
  | 0, e => e
  | fuel + 1, e => if r.quotient e == 0 then e else magnitude r fuel (e + 1)

/-- The decimal with the fewest digits that rounds to the double, on the first of the
    grids `10 ^ e`, `10 ^ (e - 1)`, … that holds one. -/
def shortestFrom (r : Rounding) : Nat → Int → Scaled
  | 0, e => ⟨r.quotient e, e⟩
  | left + 1, e =>
    match r.onGrid? e with
    | some n => ⟨n, e⟩
    | none => shortestFrom r left (e - 1)

/-- The decimal with the fewest digits that rounds to the positive double with these
    parts. -/
def shortest (mantissa : Nat) (exponent : Int) : Scaled :=
  let r := Rounding.ofParts mantissa exponent
  shortestFrom r 17 (magnitude r 700 (-330) - 1)

/-- The text of a decimal: digits with a point, or with an exponent when the point
    would fall far from them. -/
def Scaled.written (d : Scaled) : String :=
  let all := Nat.toDigits 10 d.value
  let point := (all.length : Int) + d.exponent
  let digits := (all.reverse.dropWhile (· == '0')).reverse
  let size : Int := digits.length
  if point ≤ -4 || point > 16 then
    let e := point - 1
    let power := Nat.toDigits 10 e.natAbs
    let padded := if power.length < 2 then '0' :: power else power
    let tail := digits.drop 1
    String.ofList (digits.take 1 ++ (if tail.isEmpty then [] else '.' :: tail)
      ++ 'e' :: (if e < 0 then '-' else '+') :: padded)
  else if point ≤ 0 then
    String.ofList ('0' :: '.' :: List.replicate point.natAbs '0' ++ digits)
  else if point ≥ size then
    String.ofList (digits ++ List.replicate (point - size).natAbs '0' ++ ['.', '0'])
  else
    String.ofList (digits.take point.natAbs ++ '.' :: digits.drop point.natAbs)

/-- The text of a double: the shortest decimal that reads back as it. -/
def written (x : Float) : String :=
  match Double.parts x with
  | none => if x.isNaN then "nan" else if x < 0.0 then "-inf" else "inf"
  | some p =>
    (if p.negative then "-" else "")
      ++ if p.mantissa == 0 then "0.0" else (shortest p.mantissa p.exponent).written

end Manuscript.Number
