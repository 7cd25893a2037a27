import Manuscript.Markdown.Line
import Manuscript.Text.Blank

/-!
# Link reference definitions

A definition is a label in brackets, a colon, a destination and possibly a title. It
shows nothing, so all that matters is whether one stands at the start of some lines,
and how many of them it takes.

A destination must not run a program or read a file, unless it holds an image itself.
Its characters may be escaped with a backslash or written as entities; of the named
entities only those count that stand for ASCII characters or for space, since no
others can make a destination dangerous.
-/

namespace Manuscript.Markdown

open Manuscript.Text

/-! ## Destinations -/

/-- The characters that named entities stand for, ASCII and space only. -/
def entityChars : List (String × List Char) :=
  [("Tab", ['\t']), ("NewLine", ['\n']), ("excl", ['!']), ("quot", ['\x22']), ("QUOT", ['\x22']),
    ("num", ['#']), ("dollar", ['$']), ("percnt", ['%']), ("amp", ['&']), ("AMP", ['&']),
    ("apos", ['\x27']), ("lpar", ['(']), ("rpar", [')']), ("ast", ['*']), ("midast", ['*']),
    ("plus", ['+']), ("comma", [',']), ("period", ['.']), ("sol", ['/']), ("colon", [':']),
    ("semi", [';']), ("lt", ['<']), ("LT", ['<']), ("equals", ['=']), ("gt", ['>']), ("GT", ['>']),
    ("quest", ['?']), ("commat", ['@']), ("lsqb", ['[']), ("lbrack", ['[']), ("bsol", ['\x5c']),
    ("rsqb", [']']), ("rbrack", [']']), ("Hat", ['^']), ("lowbar", ['_']), ("UnderBar", ['_']),
    ("grave", ['\x60']), ("DiacriticalGrave", ['\x60']), ("lcub", ['\x7b']), ("lbrace", ['\x7b']),
    ("verbar", ['|']), ("vert", ['|']), ("VerticalLine", ['|']), ("rcub", ['\x7d']),
    ("rbrace", ['\x7d']), ("fjlig", ['f', 'j']), ("nbsp", ['\u00a0']),
    ("NonBreakingSpace", ['\u00a0']), ("ensp", ['\u2002']), ("emsp", ['\u2003']),
    ("emsp13", ['\u2004']), ("emsp14", ['\u2005']), ("numsp", ['\u2007']), ("puncsp", ['\u2008']),
    ("thinsp", ['\u2009']), ("ThinSpace", ['\u2009']), ("hairsp", ['\u200a']),
    ("VeryThinSpace", ['\u200a']), ("MediumSpace", ['\u205f']),
    ("ThickSpace", ['\u205f', '\u200a'])]

/-- A hexadecimal digit's value. -/
def hexDigit? (c : Char) : Option Nat :=
  if c.isDigit then some (c.toNat - 48)
  else if 'a' ≤ c && c ≤ 'f' then some (c.toNat - 87)
  else if 'A' ≤ c && c ≤ 'F' then some (c.toNat - 55)
  else none

/-- The character with a number, where an entity may name it. -/
def entityCode (n : Nat) : Option (List Char) :=
  let forbidden := (0xd800 ≤ n && n ≤ 0xdfff) || (0xfdd0 ≤ n && n ≤ 0xfdef)
    || n % 0x10000 == 0xffff || n % 0x10000 == 0xfffe || n ≤ 8 || n == 0x0b
    || (0x0e ≤ n && n ≤ 0x1f) || (0x7f ≤ n && n ≤ 0x9f) || n > 0x10ffff
  if forbidden then none else some [Char.ofNat n]

/-- What an entity stands for, given what stands between `&` and `;`. -/
def entity? (name : List Char) : Option (List Char) :=
  match name with
  | '#' :: x :: ds =>
    if x == 'x' || x == 'X' then
      let digits := ds.filterMap hexDigit?
      if ds.isEmpty || ds.length > 8 || digits.length != ds.length then none
      else entityCode (digits.foldl (fun n d => 16 * n + d) 0)
    else
      let ds := x :: ds
      if ds.length > 8 || !ds.all Char.isDigit then none
      else entityCode (ds.foldl (fun n d => 10 * n + (d.toNat - 48)) 0)
  | _ => (entityChars.find? fun e => e.1 == String.ofList name).map (·.2)

/-- A character that a backslash may stand before. -/
def isPunctuation (c : Char) : Bool :=
  let n := c.toNat
  (33 ≤ n && n ≤ 47) || (58 ≤ n && n ≤ 64) || (91 ≤ n && n ≤ 96) || (123 ≤ n && n ≤ 126)

/-- The text with its escapes and entities replaced. -/
def unescape : Nat → List Char → List Char
  | 0, cs => cs
  | _, [] => []
  | fuel + 1, '\x5c' :: c :: cs =>
    if isPunctuation c then c :: unescape fuel cs else '\x5c' :: unescape fuel (c :: cs)
  | fuel + 1, '&' :: cs =>
    let name := cs.takeWhile (· != ';')
    match cs.dropWhile (· != ';'), entity? name with
    | _ :: rest, some stands => stands ++ unescape fuel rest
    | _, _ => '&' :: unescape fuel cs
  | fuel + 1, c :: cs => c :: unescape fuel cs

/-- Whether a destination may be used: it does not run a program or read a file, and
    holds data only of an image. -/
def isSafe (destination : List Char) : Bool :=
  let plain := (trimSpacing (unescape destination.length destination)).map Char.toLower
  let starts (s : String) : Bool := s.toList.isPrefixOf plain
  if starts "vbscript:" || starts "javascript:" || starts "file:" || starts "data:" then
    starts "data:image/gif;" || starts "data:image/png;" || starts "data:image/jpeg;"
      || starts "data:image/webp;"
  else true

/-- Reads a destination between angle brackets, after the first. -/
def bracketed : List Char → Option (List Char × List Char)
  | [] => none
  | '\x5c' :: c :: cs => (bracketed cs).map fun (d, rest) => ('\x5c' :: c :: d, rest)
  | c :: cs =>
    if c = '\n' || c = '<' then none
    else if c = '>' then some ([], cs)
    else (bracketed cs).map fun (d, rest) => (c :: d, rest)

/-- Reads a destination without brackets, `open` parentheses deep: it ends at a space
    or a control character; parentheses must match. -/
def unbracketed : List Char → (depth : Nat) → Option (List Char × List Char)
  | [], depth => if depth == 0 then some ([], []) else none
  | '\x5c' :: c :: cs, depth =>
    if c = ' ' then
      if depth == 0 then some ([], '\x5c' :: c :: cs) else none
    else (unbracketed cs depth).map fun (d, rest) => ('\x5c' :: c :: d, rest)
  | c :: cs, depth =>
    if c.toNat ≤ 32 || c.toNat == 127 then
      if depth == 0 then some ([], c :: cs) else none
    else if c = '(' then
      if depth ≥ 32 then none
      else (unbracketed cs (depth + 1)).map fun (d, rest) => (c :: d, rest)
    else if c = ')' then
      if depth == 0 then some ([], c :: cs)
      else (unbracketed cs (depth - 1)).map fun (d, rest) => (c :: d, rest)
    else (unbracketed cs depth).map fun (d, rest) => (c :: d, rest)

/-- Reads a destination, which is not empty unless it stands between brackets. -/
def destination? (cs : List Char) : Option (List Char × List Char) :=
  match cs with
  | '<' :: rest => bracketed rest
  | _ => (unbracketed cs 0).filter fun (d, _) => !d.isEmpty

/-! ## The parts of a definition -/

/-- What is left of the lines of a definition: the rest of the line, the lines after
    it, and how many of those have been taken. -/
structure Lines where
  /-- The rest of the line, with its end. -/
  here : List Char
  /-- The lines after it. -/
  more : List (List Char)
  /-- The number of further lines taken. -/
  taken : Nat

namespace Lines

/-- What is left after the end of a line: the next line, if there is one. -/
def pastEnd (l : Lines) (rest : List Char) : Lines :=
  match rest, l.more with
  | [], next :: more => ⟨next, more, l.taken + 1⟩
  | _, _ => { l with here := rest }

/-- Reads a label after its bracket: whether it holds ink, and what follows it. -/
def label : Nat → Lines → Bool → Option (Bool × Lines)
  | 0, _, _ => none
  | fuel + 1, l, ink =>
    match l.here with
    | [] => none
    | '[' :: _ => none
    | ']' :: rest => some (ink, { l with here := rest })
    | '\x5c' :: c :: rest =>
      label fuel (if c = '\n' then l.pastEnd rest else { l with here := rest }) true
    | c :: rest =>
      label fuel (if c = '\n' then l.pastEnd rest else { l with here := rest })
        (ink || !isSpacing c)

/-- Skips spaces and ends of lines. -/
def skipSpace : Nat → Lines → Lines
  | 0, l => l
  | fuel + 1, l =>
    match l.here with
    | [] => l
    | c :: rest =>
      if c = '\n' then skipSpace fuel (l.pastEnd rest)
      else if isSpace c then skipSpace fuel { l with here := rest }
      else l

/-- Reads a title up to its closing mark: whether it is empty, and what follows it. -/
def title (mark : Char) : Nat → Lines → Bool → Option (Bool × Lines)
  | 0, _, _ => none
  | fuel + 1, l, empty =>
    match l.here, l.more with
    | [], [] => none
    | [], next :: more => title mark fuel ⟨next, more, l.taken + 1⟩ empty
    | c :: rest, _ =>
      if c = mark then some (empty, { l with here := rest })
      else if c = '(' && mark = ')' then none
      else if c = '\x5c' then title mark fuel { l with here := rest.drop 1 } false
      else title mark fuel { l with here := rest } false

/-- Whether nothing but space is left on the line. -/
def restIsSpace (l : Lines) : Bool :=
  match l.here.dropWhile isSpace with
  | [] => true
  | c :: _ => c == '\n'

end Lines

/-- Whether a definition starts with a line, given the lines that may belong to it:
    the number of these that it takes. A title on one line stands apart from the
    destination. One that is not complete, or that other text follows, is none, and
    then the definition must end with its destination. -/
def definition? (first : List Char) (more : List (List Char)) : Option Nat := do
  let start ← match first with
    | '[' :: rest => some rest
    | _ => none
  let fuel := first.length + more.foldr (fun l n => l.length + 1 + n) 0 + 2
  let (ink, labelled) ← Lines.label fuel ⟨start, more, 0⟩ false
  let afterColon ← match labelled.here with
    | ':' :: rest => some rest
    | _ => none
  let before := Lines.skipSpace fuel { labelled with here := afterColon }
  let (target, rest) ← destination? before.here
  if !isSafe target then none
  else
    let ended : Lines := { before with here := rest }
    let spaced := Lines.skipSpace fuel ended
    let moved := spaced.taken != ended.taken || spaced.here.length != ended.here.length
    let read : Option (Bool × Lines) :=
      match spaced.here with
      | c :: body =>
        if c = '\x22' || c = '\x27' then Lines.title c fuel { spaced with here := body } true
        else if c = '(' then Lines.title ')' fuel { spaced with here := body } true
        else none
      | [] => none
    let titled := read.filter fun (_, after) => moved || after.taken != spaced.taken
    let last ←
      match titled with
      | some (empty, after) =>
        if after.restIsSpace then some after
        else if empty then none
        else if ended.restIsSpace then some ended else none
      | none => if ended.restIsSpace then some ended else none
    if ink then some last.taken else none

end Manuscript.Markdown
