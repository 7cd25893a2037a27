import Manuscript.Text.Printable

/-!
# Quoted text

How a text is shown in messages: between single quotes, or between double quotes
when it holds single ones and no double ones. The quote in use and the backslash are
escaped, breaks and tabs have letters, and other characters that do not print are
written in hexadecimal of two, four or eight digits.
-/

namespace Manuscript.Text

/-- The lower-case hexadecimal digits of a number, with zeros before them to fill
    `width` places. -/
def hexDigits (width n : Nat) : List Char :=
  let digits := Nat.toDigits 16 n
  List.replicate (width - digits.length) '0' ++ digits

/-- A character inside a text quoted with `quote`. -/
def escaped (quote c : Char) : List Char :=
  if c = quote || c = '\x5c' then ['\x5c', c]
  else if c = '\n' then ['\x5c', 'n']
  else if c = '\r' then ['\x5c', 'r']
  else if c = '\t' then ['\x5c', 't']
  else if isPrintable c then [c]
  else if c.toNat < 0x100 then '\x5c' :: 'x' :: hexDigits 2 c.toNat
  else if c.toNat < 0x10000 then '\x5c' :: 'u' :: hexDigits 4 c.toNat
  else '\x5c' :: 'U' :: hexDigits 8 c.toNat

/-- The quote that a text is shown between. -/
def quoteFor (cs : List Char) : Char :=
  if cs.contains '\x27' && !cs.contains '\x22' then '\x22' else '\x27'

/-- A text between quotes. -/
def quoted (s : String) : String :=
  let quote := quoteFor s.toList
  String.ofList (quote :: s.toList.flatMap (escaped quote) ++ [quote])

end Manuscript.Text
