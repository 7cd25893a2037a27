/-!
# Reading positions

A *cursor* is a place in a YAML text: what is left of it, with the number of
characters read, the line and the column. Line feeds, next-line characters and the
Unicode line and paragraph separators end a line, as do carriage returns, alone or
before a line feed. A byte order mark takes no column.
-/

namespace Manuscript.Yaml

/-- Why a text has no value. -/
inductive Fault where
  /-- The text, or a tag in it, is not understood. -/
  | malformed
  /-- An escape names a character beyond the last one. -/
  | noSuchCharacter
  /-- An escape names a number of more than 31 bits. -/
  | hugeCharacter
  /-- A scalar tagged as a number is none. -/
  | notANumber
  /-- A scalar tagged as a number is empty. -/
  | emptyNumber
  /-- A scalar tagged as a truth value is none. -/
  | notATruthValue
  /-- A scalar tagged as a point in time has not its form. -/
  | notATime
  /-- A mapping tagged as a point in time has no form of its own. -/
  | formless
  /-- A point in time that is on no calendar. -/
  | noSuchTime
  /-- A number is too large for a double. -/
  | hugeNumber
  /-- Collections lie too deep inside each other, or a scalar is sought in itself. -/
  | tooDeep
  deriving DecidableEq, Repr

/-- A place in a text. -/
structure Cursor where
  /-- The text from here on. -/
  rest : List Char
  /-- The number of characters before. -/
  index : Nat
  /-- The number of lines before. -/
  line : Nat
  /-- The number of characters before on this line. -/
  column : Nat

namespace Cursor

/-- The start of a text. -/
def ofText (cs : List Char) : Cursor := ⟨cs, 0, 0, 0⟩

/-- The character `k` places on. -/
def peek (c : Cursor) (k : Nat) : Option Char := c.rest[k]?

/-- The place after the next character. -/
def next (c : Cursor) : Cursor :=
  match c.rest with
  | [] => c
  | ch :: rest =>
    let ends := ch == '\n' || ch == '\u0085' || ch == '\u2028' || ch == '\u2029'
      || (ch == '\r' && rest.head? != some '\n')
    if ends then ⟨rest, c.index + 1, c.line + 1, 0⟩
    else ⟨rest, c.index + 1, c.line, if ch == '\ufeff' then c.column else c.column + 1⟩

/-- The place after the next `n` characters. -/
def advance (c : Cursor) : Nat → Cursor
  | 0 => c
  | n + 1 => c.next.advance n

/-- The longest run of characters from here that satisfy `p`, and the place after
    it. -/
def run (c : Cursor) (p : Char → Bool) : List Char × Cursor :=
  let taken := c.rest.takeWhile p
  (taken, c.advance taken.length)

/-- The place after the longest run of characters that satisfy `p`. -/
def skip (c : Cursor) (p : Char → Bool) : Cursor := (c.run p).2

end Cursor

/-! ## Character classes -/

/-- A character that ends a line. -/
def isLineEnd (c : Char) : Bool :=
  c == '\r' || c == '\n' || c == '\u0085' || c == '\u2028' || c == '\u2029'

/-- The end of the text or of a line. -/
def endsLine : Option Char → Bool
  | none => true
  | some c => isLineEnd c

/-- The end of the text or of a line, or a space. -/
def endsLineOrSpace (o : Option Char) : Bool := endsLine o || o == some ' '

/-- The end of the text or of a line, a space or a tab. -/
def endsWord (o : Option Char) : Bool := endsLineOrSpace o || o == some '\t'

/-- A character of a name: a letter or digit of ASCII, a hyphen or an underscore. -/
def isNameChar (c : Char) : Bool := c.isAlphanum || c == '-' || c == '_'

/-- A character that may stand in a tag. -/
def isTagChar (c : Char) : Bool :=
  c.isAlphanum || "-;/?:@&=+$,_.!~*'()[]%".toList.contains c

/-- A hexadecimal digit. -/
def isHexDigit (c : Char) : Bool :=
  c.isDigit || ('a' ≤ c && c ≤ 'f') || ('A' ≤ c && c ≤ 'F')

/-- The value of a hexadecimal digit. -/
def hexValue (c : Char) : Nat :=
  if c.isDigit then c.toNat - 48 else if 'a' ≤ c then c.toNat - 87 else c.toNat - 55

/-- The number that hexadecimal digits write. -/
def hexNumber (cs : List Char) : Nat := cs.foldl (fun n c => 16 * n + hexValue c) 0

/-- A character that a YAML text may hold. -/
def isAllowed (c : Char) : Bool :=
  let n := c.toNat
  n == 9 || n == 10 || n == 13 || (0x20 ≤ n && n ≤ 0x7e) || n == 0x85
    || (0xa0 ≤ n && n ≤ 0xd7ff) || (0xe000 ≤ n && n ≤ 0xfffd) || 0x10000 ≤ n

namespace Cursor

/-- Takes the end of a line, if one is here: the character that stands for it, and
    the place after it. -/
def lineEnd (c : Cursor) : Option Char × Cursor :=
  match c.peek 0 with
  | none => (none, c)
  | some '\r' => (some '\n', if c.peek 1 == some '\n' then c.advance 2 else c.next)
  | some ch =>
    if ch == '\n' || ch == '\u0085' then (some '\n', c.next)
    else if ch == '\u2028' || ch == '\u2029' then (some ch, c.next)
    else (none, c)

/-- Whether a line of three given characters, and nothing more of a word, is here. -/
def atMarker (c : Cursor) (mark : Char) : Bool :=
  c.peek 0 == some mark && c.peek 1 == some mark && c.peek 2 == some mark
    && endsWord (c.peek 3)

/-- Whether a document starts or ends here, if this is the start of a line. -/
def atDocumentMarker (c : Cursor) : Bool := c.atMarker '-' || c.atMarker '.'

end Cursor

end Manuscript.Yaml
