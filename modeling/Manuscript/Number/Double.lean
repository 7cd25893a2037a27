/-!
# Doubles

A finite double is a whole number times a power of two. `Double.parts` takes the
number apart, `Double.truncate` rounds toward zero in exact arithmetic and
`Double.ofDecimal` reads a decimal, rounding once.
-/

namespace Manuscript.Number

namespace Double

/-- A finite double as `± mantissa * 2 ^ exponent`. -/
structure Parts where
  /-- Whether the sign bit is set. -/
  negative : Bool
  /-- The significand as a whole number. -/
  mantissa : Nat
  /-- The power of two it is scaled by. -/
  exponent : Int
  deriving DecidableEq, Repr

/-- The parts of a double, unless it is infinite or no number. -/
def parts (x : Float) : Option Parts :=
  let bits : Nat := x.toBits.toNat
  let field : Nat := bits / Nat.pow 2 52 % Nat.pow 2 11
  let fraction : Nat := bits % Nat.pow 2 52
  let negative : Bool := bits / Nat.pow 2 63 == 1
  if field == 2047 then none
  else if field == 0 then some ⟨negative, fraction, -1074⟩
  else some ⟨negative, fraction + Nat.pow 2 52, (field : Int) - 1075⟩

/-- The significand with its sign. -/
def Parts.signed (p : Parts) : Int :=
  if p.negative then -(p.mantissa : Int) else (p.mantissa : Int)

/-- The whole number next to a finite double on the side of zero. -/
def truncate (x : Float) : Option Int :=
  (parts x).map fun p =>
    let scale : Int := Int.pow 2 p.exponent.natAbs
    if p.exponent < 0 then p.signed.tdiv scale else p.signed * scale

/-- Whether a double is exactly the whole number `n`. -/
def isInt (x : Float) (n : Int) : Bool :=
  match parts x with
  | none => false
  | some p =>
    let scale : Int := Int.pow 2 p.exponent.natAbs
    if p.exponent < 0 then p.signed == n * scale else p.signed * scale == n

/-- The double nearest to a whole number; none when that lies beyond the finite
    doubles. -/
def ofInt? (n : Int) : Option Float :=
  if n.natAbs ≥ Nat.pow 2 1024 then none
  else
    let x := Float.ofNat n.natAbs
    if x.isInf then none else some (if n < 0 then -x else x)

/-- The double nearest to `digits * 10 ^ exponent`. Far outside the range of doubles
    the answer is zero or infinity. -/
def ofDecimal (digits : Nat) (exponent : Int) : Float :=
  let size := (Nat.toDigits 10 digits).length
  if digits == 0 then 0.0
  else if (size : Int) + exponent > 400 then 1.0 / 0.0
  else if (size : Int) + exponent < -400 then 0.0
  else Float.ofScientific digits (exponent < 0) exponent.natAbs

/-- The whole number nearest to a finite double, a tie going to the even one. -/
def roundEven (x : Float) : Option Int :=
  (parts x).map fun p =>
    let scale : Nat := Nat.pow 2 p.exponent.natAbs
    if p.exponent < 0 then
      let q := p.mantissa / scale
      let twice := 2 * (p.mantissa % scale)
      let n := if twice > scale || (twice == scale && q % 2 == 1) then q + 1 else q
      if p.negative then -(n : Int) else n
    else p.signed * scale

/-- The double nearest to a whole number, infinite if there is none. -/
def ofInt (n : Int) : Float :=
  let x := Float.ofNat n.natAbs
  if n < 0 then -x else x

end Double

end Manuscript.Number
