import Manuscript.Text.Digits
import Manuscript.Value.Basic

/-!
# Measures

Lengths are counted in units of which 635 make a twentieth of a point. A value of a
style stands for a length if it is a number, which may have a fraction. The package
shows lengths in twentieths of a point, and sizes of type in half points.

* `length?`: the length of so many of some unit;
* `twentieths`, `halfPoints`: how lengths are shown.
-/

namespace Manuscript.Package

open Manuscript.Number Manuscript.Text

/-- Units of length in a twentieth of a point. -/
def perTwentieth : Nat := 635

/-- Units of length in a point. -/
def perPoint : Nat := 12700

/-- The number that a text reads as when it is written so many times in a row. -/
def readRepeated? (times : Nat) (cs : List Char) : Option Int :=
  if digitCount cs * times > maxDigits then none
  else readInt? (List.replicate times cs).flatten

/-- The length that stands for so many of a unit, cut to a whole number. -/
def length? (unit : Nat) : Value → Option Int
  | .int n => some (n * unit)
  | .bool b => some (if b then unit else 0)
  | .float x => Double.truncate (x * Float.ofNat unit)
  | .text s => readRepeated? unit s.toList
  | .bytes bs => readRepeated? unit (bs.map fun b => Char.ofNat b.toNat)
  | _ => none

/-- The length of a line of text that is so many 240ths high. -/
def lineLength? (v : Value) : Option Int :=
  let scaled (x : Float) := Double.truncate (x / 240.0 * 152400.0)
  match v with
  | .int n => scaled (Double.ofInt n)
  | .bool b => scaled (if b then 1.0 else 0.0)
  | .float x => scaled x
  | _ => none

/-- A length that an attribute without a sign can show, in 64 bits. -/
def unsigned? (n : Int) : Option Int := if 0 ≤ n && n < 0x10000000000000000 then some n else none

/-- A number that an attribute with a sign can show, in 32 bits. -/
def signed? (n : Int) : Option Int := if -0x80000000 ≤ n && n < 0x80000000 then some n else none

/-- A length in twentieths of a point, to the nearest. -/
def twentieths (length : Int) : Int :=
  (Double.roundEven (Double.ofInt length / 635.0)).getD 0

/-- A length in half points, cut to a whole number. -/
def halfPoints (length : Int) : Int :=
  (Double.truncate (Double.ofInt length / 12700.0 * 2.0)).getD 0

end Manuscript.Package
