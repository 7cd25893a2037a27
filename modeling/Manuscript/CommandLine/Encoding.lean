import Manuscript.Text.Lines

/-!
# Text in files

Files hold text in the encoding of eight-bit units. Line ends are unified on reading.
A mark at the start that only shows the order of bytes is no part of a source text, and neither
is a mark that the end of the file cuts off.
-/

namespace Manuscript.CommandLine

open Manuscript.Text

/-- The text that bytes encode, with unified line ends. -/
def decode? (bytes : List UInt8) : Option (List Char) :=
  (String.fromUTF8? ⟨bytes.toArray⟩).map fun s => unifyBreaks s.toList

/-- The bytes of the mark at the start of a source text. -/
def byteOrderMark : List UInt8 := [0xef, 0xbb, 0xbf]

/-- The text that bytes encode, without the mark at its start. Bytes that end inside the mark hold
no text. -/
def readSource? (bytes : List UInt8) : Option (List Char) :=
  if bytes.isPrefixOf byteOrderMark then some []
  else if byteOrderMark.isPrefixOf bytes then decode? (bytes.drop byteOrderMark.length)
  else decode? bytes

end Manuscript.CommandLine
