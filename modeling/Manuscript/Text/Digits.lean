import Manuscript.Text.Blank

/-!
# Whole numbers in text

Every script has its ten decimal digits in a row, from its zero on; `digit?` reads
them all. `readInt?` reads a whole number with blanks around it, an optional sign,
and single underscores between digits.
-/

namespace Manuscript.Text

/-- The most digits of a whole number in text. -/
def maxDigits : Nat := 4300

/-- The zeros of all scripts. -/
def zeros : List Nat :=
  [0x30, 0x660, 0x6f0, 0x7c0, 0x966, 0x9e6, 0xa66, 0xae6, 0xb66, 0xbe6, 0xc66, 0xce6, 0xd66, 0xde6,
   0xe50, 0xed0, 0xf20, 0x1040, 0x1090, 0x17e0, 0x1810, 0x1946, 0x19d0, 0x1a80, 0x1a90, 0x1b50,
   0x1bb0, 0x1c40, 0x1c50, 0xa620, 0xa8d0, 0xa900, 0xa9d0, 0xa9f0, 0xaa50, 0xabf0, 0xff10, 0x104a0,
   0x10d30, 0x11066, 0x110f0, 0x11136, 0x111d0, 0x112f0, 0x11450, 0x114d0, 0x11650, 0x116c0,
   0x11730, 0x118e0, 0x11950, 0x11c50, 0x11d50, 0x11da0, 0x16a60, 0x16ac0, 0x16b50, 0x1d7ce,
   0x1d7d8, 0x1d7e2, 0x1d7ec, 0x1d7f6, 0x1e140, 0x1e2f0, 0x1e950, 0x1fbf0]

/-- The value of a decimal digit of any script. -/
def digit? (c : Char) : Option Nat :=
  (zeros.find? fun z => z ≤ c.toNat && c.toNat ≤ z + 9).map (c.toNat - ·)

/-- How many digits a text has. -/
def digitCount (cs : List Char) : Nat := (cs.filter fun c => (digit? c).isSome).length

/-- Reads digits with single underscores between them, after the digits read so
    far. -/
def readDigits : List Char → Nat → Option Nat
  | [], n => some n
  | '_' :: c :: cs, n => (digit? c).bind fun d => readDigits cs (10 * n + d)
  | c :: cs, n => (digit? c).bind fun d => readDigits cs (10 * n + d)

/-- Reads a number without a sign. -/
def readNat? : List Char → Option Nat
  | [] => none
  | c :: cs => (digit? c).bind (readDigits cs)

/-- Reads a whole number; blanks around it do not matter. -/
def readInt? (cs : List Char) : Option Int :=
  match trim cs with
  | '-' :: ds => (readNat? ds).map fun n => -(n : Int)
  | '+' :: ds => (readNat? ds).map fun n => (n : Int)
  | ds => (readNat? ds).map fun n => (n : Int)

/-- What is said of a number that has too many digits to be shown. -/
def tooLongToShow : String :=
  "Exceeds the limit (4300 digits) for integer string conversion; "
    ++ "use sys.set_int_max_str_digits() to increase the limit"

/-- What is said of a text that has too many digits to be read. -/
def tooLongToRead (digits : Nat) : String :=
  "Exceeds the limit (4300 digits) for integer string conversion: value has "
    ++ toString digits ++ " digits; use sys.set_int_max_str_digits() to increase the limit"

end Manuscript.Text
