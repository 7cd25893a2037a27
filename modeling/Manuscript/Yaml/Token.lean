import Manuscript.Text.Digits
import Manuscript.Yaml.Cursor

/-!
# Tokens of YAML

`tokens` cuts a text into the tokens that the grammar of YAML is stated over:
directives and document markers, the starts and ends of block and flow collections,
entries, keys and values, anchors, aliases, tags and scalars. Block collections have
no characters of their own for their starts and ends; indentation decides them. A
*simple key* is found out late, by the colon after it, so its token, and that of the
mapping it may start, is put in before tokens already read.

Where the text cannot be cut further, a token for the fault stands in the place of
the rest. It stands before a token that may still turn out to be a simple key, because
what that token is cannot be told any more.
-/

namespace Manuscript.Yaml

/-- A token. -/
inductive Token where
  | version (major : Nat)
  | tagHandle (handle start : String)
  | otherDirective
  | documentStart
  | documentEnd
  | blockSequenceStart
  | blockMappingStart
  | blockEnd
  | flowSequenceStart
  | flowSequenceEnd
  | flowMappingStart
  | flowMappingEnd
  | blockEntry
  | flowEntry
  | key
  | value
  | alias (name : String)
  | anchor (name : String)
  | tag (handle : Option String) (suffix : String)
  | scalar (text : String) (plain : Bool)
  | broken (fault : Fault)
  deriving DecidableEq, Repr

/-- A place at which a simple key may have begun. -/
structure SimpleKey where
  /-- The number of tokens before it. -/
  position : Nat
  /-- Whether nothing but a key may stand there. -/
  required : Bool
  /-- Where it begins. -/
  start : Cursor

/-- What has been read of a text, and what the next token depends on. -/
structure Scan where
  /-- The place reached. -/
  cursor : Cursor
  /-- The tokens so far. -/
  tokens : Array Token
  /-- The number of flow collections around this place. -/
  flow : Nat
  /-- The column of the block collection around this place. -/
  indent : Int
  /-- The columns of the block collections around that one. -/
  outer : List Int
  /-- Whether a simple key may begin here. -/
  keyAllowed : Bool
  /-- The simple keys that may have begun, with the depth of flow of each. -/
  keys : List (Nat × SimpleKey)

namespace Scan

/-- The result of a step of reading. -/
abbrev Step := Except Fault Scan

/-- Adds a token. -/
def push (s : Scan) (t : Token) : Scan := { s with tokens := s.tokens.push t }

/-- Inside a flow collection. -/
def inFlow (s : Scan) : Bool := s.flow != 0

/-- Forgets the keys that can be none any more, because their line is over or they
    are too long ago. -/
def dropStale (s : Scan) : Step :=
  let stale (k : SimpleKey) : Bool :=
    k.start.line != s.cursor.line || s.cursor.index - k.start.index > 1024
  if s.keys.any fun k => stale k.2 && k.2.required then .error .malformed
  else .ok { s with keys := s.keys.filter fun k => !stale k.2 }

/-- Forgets the key that may have begun at this depth of flow. -/
def removeKey (s : Scan) : Step :=
  if s.keys.any fun k => k.1 == s.flow && k.2.required then .error .malformed
  else .ok { s with keys := s.keys.filter fun k => k.1 != s.flow }

/-- Notes that a key may begin here. -/
def saveKey (s : Scan) : Step :=
  if s.keyAllowed then
    let required := !s.inFlow && s.indent == s.cursor.column
    (removeKey s).map fun s =>
      { s with keys := s.keys ++ [(s.flow, ⟨s.tokens.size, required, s.cursor⟩)] }
  else .ok s

/-- Ends the block collections that start to the right of a column. -/
def unwind (s : Scan) (column : Int) : Scan :=
  if s.inFlow then s
  else go s s.outer
where
  /-- Ends one block collection after the other. -/
  go (s : Scan) : List Int → Scan
    | [] => s
    | i :: is =>
      if s.indent > column then go { s.push .blockEnd with indent := i, outer := is } is
      else s

/-- Starts a block collection at a column, unless one starts there or further on. -/
def indentTo (s : Scan) (column : Nat) : Option Scan :=
  if s.indent < column then
    some { s with outer := s.indent :: s.outer, indent := column }
  else none

/-- Moves to a place. -/
def moveTo (s : Scan) (c : Cursor) : Scan := { s with cursor := c }

/-! ## Between tokens -/

/-- Skips spaces, comments and empty lines; after the end of a line in block context
    a key may begin. -/
def skipBlanks : Nat → Scan → Scan
  | 0, s => s
  | fuel + 1, s =>
    let spaces := s.cursor.skip (· == ' ')
    let comment :=
      if spaces.peek 0 == some '#' then spaces.skip fun c => !isLineEnd c else spaces
    match comment.lineEnd with
    | (none, _) => s.moveTo comment
    | (some _, after) =>
      skipBlanks fuel { s with cursor := after, keyAllowed := s.keyAllowed || !s.inFlow }

/-! ## Directives -/

/-- Skips what may follow a directive or the head of a block scalar on its line. -/
def restOfLine (c : Cursor) : Except Fault Cursor :=
  let spaces := c.skip (· == ' ')
  let comment :=
    if spaces.peek 0 == some '#' then spaces.skip fun c => !isLineEnd c else spaces
  if endsLine (comment.peek 0) then .ok comment.lineEnd.2 else .error .malformed

/-- Reads a number of a version. -/
def versionNumber (c : Cursor) : Except Fault (Nat × Cursor) :=
  let (digits, after) := c.run Char.isDigit
  if digits.isEmpty then .error .malformed
  else if digits.length > Text.maxDigits then .error .notANumber
  else .ok (digits.foldl (fun n d => 10 * n + (d.toNat - 48)) 0, after)

/-- Reads the handle of a tag, between exclamation marks. -/
def tagHandle (c : Cursor) : Except Fault (String × Cursor) :=
  if c.peek 0 != some '!' then .error .malformed
  else if c.peek 1 == some ' ' then .ok ("!", c.next)
  else
    let (name, after) := c.next.run isNameChar
    if after.peek 0 == some '!' then
      .ok (String.ofList ('!' :: name ++ ['!']), after.next)
    else .error .malformed

/-- Reads escaped bytes, each a percent sign with two hexadecimal digits. -/
def escapedBytes : Nat → Cursor → Except Fault (List UInt8 × Cursor)
  | 0, c => .ok ([], c)
  | fuel + 1, c =>
    if c.peek 0 == some '%' then
      match c.peek 1, c.peek 2 with
      | some a, some b =>
        if isHexDigit a && isHexDigit b then
          (escapedBytes fuel (c.advance 3)).map fun (bs, after) =>
            (UInt8.ofNat (hexNumber [a, b]) :: bs, after)
        else .error .malformed
      | _, _ => .error .malformed
    else .ok ([], c)

/-- Reads the characters of a tag, as far as they go. -/
def tagChars : Nat → Cursor → Except Fault (List Char × Cursor)
  | 0, c => .ok ([], c)
  | fuel + 1, c =>
    match c.peek 0 with
    | some '%' => do
      let (bs, after) ← escapedBytes (c.rest.length + 1) c
      match String.fromUTF8? ⟨bs.toArray⟩ with
      | none => .error .malformed
      | some s =>
        let (more, last) ← tagChars fuel after
        .ok (s.toList ++ more, last)
    | some ch =>
      if isTagChar ch then
        (tagChars fuel c.next).map fun (more, last) => (ch :: more, last)
      else .ok ([], c)
    | none => .ok ([], c)

/-- Reads the text of a tag, which is not empty. -/
def tagText (c : Cursor) : Except Fault (String × Cursor) := do
  let (cs, after) ← tagChars (c.rest.length + 1) c
  if after.index == c.index then .error .malformed else .ok (String.ofList cs, after)

/-- Reads a directive up to the end of its line. -/
def directive (c : Cursor) : Except Fault (Token × Cursor) := do
  let (name, after) := c.next.run isNameChar
  if name.isEmpty || !endsLineOrSpace (after.peek 0) then .error .malformed
  else
    let body := after.skip (· == ' ')
    if name == "YAML".toList then
      let (major, dot) ← versionNumber body
      if dot.peek 0 != some '.' then .error .malformed
      else
        let (_, last) ← versionNumber dot.next
        if endsLineOrSpace (last.peek 0) then
          (restOfLine last).map fun next => (.version major, next)
        else .error .malformed
    else if name == "TAG".toList then
      let (handle, space) ← tagHandle body
      if space.peek 0 != some ' ' then .error .malformed
      else
        let (start, last) ← tagText (space.skip (· == ' '))
        if endsLineOrSpace (last.peek 0) then
          (restOfLine last).map fun next => (.tagHandle handle start, next)
        else .error .malformed
    else
      (restOfLine (after.skip fun c => !isLineEnd c)).map fun next => (.otherDirective, next)

/-! ## Properties of nodes -/

/-- Reads the name of an anchor or an alias, after its mark. -/
def anchorName (c : Cursor) : Except Fault (String × Cursor) :=
  let (name, after) := c.next.run isNameChar
  let closed := endsWord (after.peek 0)
    || (after.peek 0).any fun ch => "?:,]\x7d%@\x60".toList.contains ch
  if name.isEmpty || !closed then .error .malformed
  else .ok (String.ofList name, after)

/-- Reads a tag. -/
def tag (c : Cursor) : Except Fault (Token × Cursor) := do
  let (token, after) ←
    if c.peek 1 == some '<' then do
      let (text, after) ← tagText (c.advance 2)
      if after.peek 0 == some '>' then .ok (Token.tag none text, after.next)
      else .error .malformed
    else if endsWord (c.peek 1) then .ok (Token.tag none "!", c.next)
    else
      let word := c.next.rest.takeWhile fun ch => !(isLineEnd ch || ch == ' ')
      if word.contains '!' then do
        let (handle, place) ← tagHandle c
        let (suffix, after) ← tagText place
        .ok (Token.tag (some handle) suffix, after)
      else do
        let (suffix, after) ← tagText c.next
        .ok (Token.tag (some "!") suffix, after)
  if endsLineOrSpace (after.peek 0) then .ok (token, after) else .error .malformed

/-! ## Block scalars -/

/-- What becomes of the line ends after the last line of a block scalar. -/
inductive Chomp where
  | strip
  | clip
  | keep
  deriving DecidableEq

/-- Reads the indicators of a block scalar: what becomes of its last line ends, and
    its indentation. -/
def indicators (c : Cursor) : Except Fault (Chomp × Option Nat × Cursor) :=
  let chomp (c : Cursor) : Chomp × Cursor :=
    match c.peek 0 with
    | some '+' => (.keep, c.next)
    | some '-' => (.strip, c.next)
    | _ => (.clip, c)
  let width (c : Cursor) : Option Nat × Cursor :=
    match c.peek 0 with
    | some ch => if ch.isDigit then (some (ch.toNat - 48), c.next) else (none, c)
    | none => (none, c)
  let (first, second, after) :=
    match chomp c with
    | (.clip, _) =>
      let (n, after) := width c
      let (k, last) := if n.isSome then chomp after else (.clip, after)
      (k, n, last)
    | (k, after) =>
      let (n, last) := width after
      (k, n, last)
  if second == some 0 || !endsLineOrSpace (after.peek 0) then .error .malformed
  else .ok (first, second, after)

/-- Skips the empty lines at the start of a block scalar: their line ends, the
    greatest column reached, and the place after them. -/
def leadingBreaks : Nat → Cursor → List Char → Nat → List Char × Nat × Cursor
  | 0, c, breaks, widest => (breaks, widest, c)
  | fuel + 1, c, breaks, widest =>
    match c.peek 0, c.lineEnd with
    | some ' ', _ => leadingBreaks fuel c.next breaks (max widest c.next.column)
    | _, (some b, after) => leadingBreaks fuel after (breaks ++ [b]) widest
    | _, _ => (breaks, widest, c)

/-- Skips spaces up to a column. -/
def spacesTo (indent : Nat) (c : Cursor) : Cursor :=
  let spaces := c.rest.takeWhile (· == ' ')
  c.advance (min spaces.length (indent - c.column))

/-- Skips empty lines between the lines of a block scalar. -/
def innerBreaks (indent : Nat) : Nat → Cursor → List Char × Cursor
  | 0, c => ([], c)
  | fuel + 1, c =>
    let c := spacesTo indent c
    match c.lineEnd with
    | (some b, after) =>
      let (more, last) := innerBreaks indent fuel after
      (b :: more, last)
    | (none, _) => ([], c)

/-- Reads the lines of a block scalar: their text, the end of the last line, the
    line ends after it, and the place after all. -/
def blockLines (folded : Bool) (indent : Nat) :
    Nat → Cursor → List Char → List Char × Option Char × List Char × Cursor
  | 0, c, breaks => ([], none, breaks, c)
  | fuel + 1, c, breaks =>
    if c.column != indent || (c.peek 0).isNone then ([], none, breaks, c)
    else
      let startsInk := c.peek 0 != some ' ' && c.peek 0 != some '\t'
      let (line, atEnd) := c.run fun ch => !isLineEnd ch
      let (ended, after) := atEnd.lineEnd
      let (next, last) := innerBreaks indent (after.rest.length + 1) after
      if last.column == indent && (last.peek 0).isSome then
        let inkFollows := last.peek 0 != some ' ' && last.peek 0 != some '\t'
        let joint :=
          if folded && ended == some '\n' && startsInk && inkFollows then
            if next.isEmpty then [' '] else []
          else ended.toList
        let (text, lastEnd, tail, place) := blockLines folded indent fuel last next
        (breaks ++ line ++ joint ++ text, lastEnd, tail, place)
      else (breaks ++ line, ended, next, last)

/-- Reads a block scalar. -/
def blockScalar (s : Scan) (folded : Bool) : Except Fault (Token × Cursor) := do
  let (chomp, width, after) ← indicators s.cursor.next
  let body ← restOfLine after
  let least := (max 1 (s.indent + 1)).toNat
  let fuel := body.rest.length + 1
  let (breaks, indent, first) :=
    match width with
    | none =>
      let (breaks, widest, first) := leadingBreaks fuel body [] 0
      (breaks, max least widest, first)
    | some n =>
      let indent := least + n - 1
      let (breaks, first) := innerBreaks indent fuel body
      (breaks, indent, first)
  let (text, lastEnd, tail, place) := blockLines folded indent fuel first breaks
  let ending :=
    match chomp with
    | .strip => []
    | .clip => lastEnd.toList
    | .keep => lastEnd.toList ++ tail
  .ok (.scalar (String.ofList (text ++ ending)) false, place)

/-! ## Quoted scalars -/

/-- The character that a one-letter escape stands for. -/
def escape? (c : Char) : Option Char :=
  match c with
  | '0' => some '\x00'
  | 'a' => some '\x07'
  | 'b' => some '\x08'
  | 't' | '\t' => some '\t'
  | 'n' => some '\n'
  | 'v' => some '\x0b'
  | 'f' => some '\x0c'
  | 'r' => some '\r'
  | 'e' => some '\x1b'
  | 'N' => some '\u0085'
  | '_' => some '\u00a0'
  | 'L' => some '\u2028'
  | 'P' => some '\u2029'
  | ' ' | '\x22' | '\x5c' | '/' => some c
  | _ => none

/-- The number of digits of an escape in hexadecimal. -/
def escapeWidth? (c : Char) : Option Nat :=
  match c with
  | 'x' => some 2
  | 'u' => some 4
  | 'U' => some 8
  | _ => none

/-- Skips the line ends and the space before the next line of a quoted scalar; a
    document marker may not stand there. -/
def quotedBreaks : Nat → Cursor → Except Fault (List Char × Cursor)
  | 0, c => .ok ([], c)
  | fuel + 1, c =>
    if c.atDocumentMarker then .error .malformed
    else
      let spaces := c.skip fun ch => ch == ' ' || ch == '\t'
      match spaces.lineEnd with
      | (some b, after) =>
        (quotedBreaks fuel after).map fun (more, last) => (b :: more, last)
      | (none, _) => .ok ([], spaces)

/-- Reads a quoted scalar after its opening quote, the closing quote included. A line
    end is folded into a space, unless empty lines follow it or a backslash stands
    before it. An escape may name half of a surrogate pair, which is no character: it is
    read as the character with the number zero, which no package takes either. -/
def quotedText (double : Bool) : Nat → Cursor → Except Fault (List Char × Cursor)
  | 0, _ => .error .malformed
  | fuel + 1, c =>
    let quote := if double then '\x22' else '\x27'
    let andThen (text : List Char) (c : Cursor) : Except Fault (List Char × Cursor) :=
      (quotedText double fuel c).map fun (more, last) => (text ++ more, last)
    match c.peek 0 with
    | none => .error .malformed
    | some ch =>
      if ch == quote then
        if !double && c.peek 1 == some quote then andThen [quote] (c.advance 2)
        else .ok ([], c.next)
      else if double && ch == '\x5c' then
        match c.peek 1 with
        | none => .error .malformed
        | some e =>
          match escape? e, escapeWidth? e with
          | some r, _ => andThen [r] (c.advance 2)
          | none, some width =>
            let digits := (c.rest.drop 2).take width
            if digits.length != width || !digits.all isHexDigit then .error .malformed
            else
              let code := hexNumber digits
              if code > 0x7fffffff then .error .hugeCharacter
              else if code > 0x10ffff then .error .noSuchCharacter
              else andThen [Char.ofNat code] (c.advance (2 + width))
          | none, none =>
            if isLineEnd e then do
              let after := c.next.lineEnd.2
              let (breaks, next) ← quotedBreaks (after.rest.length + 1) after
              andThen breaks next
            else .error .malformed
      else if ch == ' ' || ch == '\t' || isLineEnd ch then
        let (spaces, after) := c.run fun ch => ch == ' ' || ch == '\t'
        match after.peek 0, after.lineEnd with
        | none, _ => .error .malformed
        | _, (some b, next) => do
          let (breaks, last) ← quotedBreaks (next.rest.length + 1) next
          let joint := if b != '\n' then [b] else if breaks.isEmpty then [' '] else []
          andThen (joint ++ breaks) last
        | _, (none, _) => andThen spaces after
      else andThen [ch] c.next

/-! ## Plain scalars -/

/-- Whether a plain scalar goes on with the next character. -/
def plainGoesOn (inFlow : Bool) (c : Cursor) : Bool :=
  match c.peek 0 with
  | none => false
  | some ch =>
    let after := c.peek 1
    let colonEnds := endsWord after || (inFlow && after.any fun a => ",[]\x7b\x7d".toList.contains a)
    !(isLineEnd ch || ch == ' ' || ch == '\t' || (ch == ':' && colonEnds)
      || (inFlow && ",?[]\x7b\x7d".toList.contains ch))

/-- Reads a word of a plain scalar. -/
def plainWord (inFlow : Bool) : Nat → Cursor → List Char × Cursor
  | 0, c => ([], c)
  | fuel + 1, c =>
    match c.peek 0 with
    | some ch =>
      if plainGoesOn inFlow c then
        let (more, last) := plainWord inFlow fuel c.next
        (ch :: more, last)
      else ([], c)
    | none => ([], c)

/-- Skips the empty lines inside a plain scalar; none if a document marker stands
    after one. -/
def plainBreaks : Nat → Cursor → Option (List Char) × Cursor
  | 0, c => (some [], c)
  | fuel + 1, c =>
    let c := c.skip (· == ' ')
    match c.lineEnd with
    | (some b, after) =>
      if after.atDocumentMarker then (none, after)
      else
        let (more, last) := plainBreaks fuel after
        (more.map (b :: ·), last)
    | (none, _) => (some [], c)

/-- Reads the space between words of a plain scalar, folding line ends: the space,
    whether a line ended, and the place after it. No space ends the scalar. -/
def plainSpace (c : Cursor) : List Char × Bool × Cursor :=
  let (spaces, after) := c.run (· == ' ')
  match after.lineEnd with
  | (none, _) => (spaces, false, after)
  | (some b, next) =>
    if next.atDocumentMarker then ([], true, next)
    else
      match plainBreaks (next.rest.length + 1) next with
      | (none, last) => ([], true, last)
      | (some breaks, last) =>
        ((if b != '\n' then [b] else if breaks.isEmpty then [' '] else []) ++ breaks, true, last)

/-- Reads the words of a plain scalar after the space before them: the text, whether
    a line ended after the last word, and the place reached. -/
def plainText (inFlow : Bool) (indent : Int) :
    Nat → Cursor → List Char → Bool → List Char × Bool × Cursor
  | 0, c, _, ended => ([], ended, c)
  | fuel + 1, c, space, ended =>
    if c.peek 0 == some '#' then ([], ended, c)
    else
      let (word, after) := plainWord inFlow (c.rest.length + 1) c
      if word.isEmpty then ([], ended, c)
      else
        let (next, lineEnded, last) := plainSpace after
        if next.isEmpty || last.peek 0 == some '#'
            || (!inFlow && (last.column : Int) < indent) then
          (space ++ word, lineEnded, last)
        else
          let (more, finallyEnded, place) := plainText inFlow indent fuel last next lineEnded
          (space ++ word ++ more, finallyEnded, place)

/-! ## One token -/

/-- Adds a token that may be, or start, a simple key. -/
def keyToken (s : Scan) (read : Except Fault (Token × Cursor)) : Step := do
  let s ← s.saveKey
  let (t, after) ← read
  .ok ({ s with keyAllowed := false, cursor := after }.push t)

/-- A document marker ends all collections. -/
def documentMarker (s : Scan) (t : Token) : Step := do
  let s ← (s.unwind (-1)).removeKey
  .ok ({ s with keyAllowed := false, cursor := s.cursor.advance 3 }.push t)

/-- The start of a flow collection. -/
def flowStart (s : Scan) (t : Token) : Step := do
  let s ← s.saveKey
  .ok ({ s with flow := s.flow + 1, keyAllowed := true, cursor := s.cursor.next }.push t)

/-- The end of a flow collection. -/
def flowEnd (s : Scan) (t : Token) : Step := do
  let s ← s.removeKey
  .ok ({ s with flow := s.flow - 1, keyAllowed := false, cursor := s.cursor.next }.push t)

/-- An entry of a flow collection. -/
def flowEntry (s : Scan) : Step := do
  let s ← { s with keyAllowed := true }.removeKey
  .ok (s.moveTo s.cursor.next |>.push .flowEntry)

/-- In block context, an indicator that is only allowed where a key may begin, and
    starts a collection at its column. -/
def openBlock (s : Scan) (start : Token) : Step :=
  if s.inFlow then .ok s
  else if !s.keyAllowed then .error .malformed
  else
    match s.indentTo s.cursor.column with
    | some s => .ok (s.push start)
    | none => .ok s

/-- An entry of a block sequence. -/
def blockEntry (s : Scan) : Step := do
  let s ← s.openBlock .blockSequenceStart
  let s ← { s with keyAllowed := true }.removeKey
  .ok (s.moveTo s.cursor.next |>.push .blockEntry)

/-- The mark of a key that is not simple. -/
def keyMark (s : Scan) : Step := do
  let s ← s.openBlock .blockMappingStart
  let s ← { s with keyAllowed := !s.inFlow }.removeKey
  .ok (s.moveTo s.cursor.next |>.push .key)

/-- The mark of a value: it makes a simple key of what stands before it, if it can. -/
def valueMark (s : Scan) : Step :=
  match s.keys.find? fun k => k.1 == s.flow with
  | some (_, k) =>
    let s := { s with
      keys := s.keys.filter fun k => k.1 != s.flow
      tokens := s.tokens.insertIdxIfInBounds k.position .key
      keyAllowed := false }
    let s :=
      if s.inFlow then s
      else
        match s.indentTo k.start.column with
        | some s =>
          { s with tokens := s.tokens.insertIdxIfInBounds k.position .blockMappingStart }
        | none => s
    .ok (s.moveTo s.cursor.next |>.push .value)
  | none => do
    let s ← s.openBlock .blockMappingStart
    let s ← { s with keyAllowed := !s.inFlow }.removeKey
    .ok (s.moveTo s.cursor.next |>.push .value)

/-- A block scalar, after which a key may begin. -/
def blockScalarToken (s : Scan) (folded : Bool) : Step := do
  let s ← { s with keyAllowed := true }.removeKey
  let (t, after) ← s.blockScalar folded
  .ok (s.moveTo after |>.push t)

/-- A plain scalar; after a line end a key may begin. -/
def plainToken (s : Scan) : Step := do
  let s ← s.saveKey
  let (text, ended, after) :=
    plainText s.inFlow (s.indent + 1) (s.cursor.rest.length + 1) s.cursor [] false
  .ok ({ s with keyAllowed := ended, cursor := after }.push
    (.scalar (String.ofList text) true))

/-- Whether a plain scalar may start with the next character. -/
def startsPlain (s : Scan) (ch : Char) : Bool :=
  let indicator := isLineEnd ch || " \t-?:,[]\x7b\x7d#&*!|>\x27\x22%@\x60".toList.contains ch
  !indicator || (!endsWord (s.cursor.peek 1)
    && (ch == '-' || (!s.inFlow && (ch == '?' || ch == ':'))))

/-- Reads the token at the place reached, whose first character is `ch`. -/
def token (s : Scan) (ch : Char) : Step :=
  let c := s.cursor
  let wordEnds := endsWord (c.peek 1)
  if ch == '%' && c.column == 0 then do
    let s ← (s.unwind (-1)).removeKey
    let (t, after) ← directive c
    .ok ({ s with keyAllowed := false, cursor := after }.push t)
  else if c.column == 0 && c.atMarker '-' then s.documentMarker .documentStart
  else if c.column == 0 && c.atMarker '.' then s.documentMarker .documentEnd
  else if ch == '[' then s.flowStart .flowSequenceStart
  else if ch == '\x7b' then s.flowStart .flowMappingStart
  else if ch == ']' then s.flowEnd .flowSequenceEnd
  else if ch == '\x7d' then s.flowEnd .flowMappingEnd
  else if ch == ',' then s.flowEntry
  else if ch == '-' && wordEnds then s.blockEntry
  else if ch == '?' && (s.inFlow || wordEnds) then s.keyMark
  else if ch == ':' && (s.inFlow || wordEnds) then s.valueMark
  else if ch == '*' then s.keyToken ((anchorName c).map fun (n, after) => (.alias n, after))
  else if ch == '&' then s.keyToken ((anchorName c).map fun (n, after) => (.anchor n, after))
  else if ch == '!' then s.keyToken (tag c)
  else if ch == '|' && !s.inFlow then s.blockScalarToken false
  else if ch == '>' && !s.inFlow then s.blockScalarToken true
  else if ch == '\x27' || ch == '\x22' then
    s.keyToken <| (quotedText (ch == '\x22') (c.rest.length + 1) c.next).map
      fun (text, after) => (.scalar (String.ofList text) false, after)
  else if s.startsPlain ch then s.plainToken
  else .error .malformed

/-- The tokens before the first one that may still turn out to be a simple key, and a
    fault in the place of the others. -/
def breakOff (s : Scan) (fault : Fault) : List Token :=
  let pending :=
    match s.saveKey with
    | .ok s => s.keys
    | .error _ => s.keys
  let first := pending.foldl (fun n k => min n k.2.position) s.tokens.size
  s.tokens.toList.take first ++ [.broken fault]

/-- Reads tokens to the end of the text. -/
def all : Nat → Scan → List Token
  | 0, s => s.breakOff .malformed
  | fuel + 1, s =>
    let s := skipBlanks (s.cursor.rest.length + 1) s
    match s.dropStale with
    | .error fault => s.breakOff fault
    | .ok s =>
      let s := s.unwind s.cursor.column
      match s.cursor.peek 0 with
      | none =>
        match (s.unwind (-1)).removeKey with
        | .ok s => s.tokens.toList
        | .error fault => s.breakOff fault
      | some ch =>
        match s.token ch with
        | .ok s => all fuel s
        | .error fault => s.breakOff fault

end Scan

/-- The tokens of a text. A byte order mark at its start is skipped. -/
def tokens (cs : List Char) : List Token :=
  if !cs.all isAllowed then [.broken .malformed]
  else
    let start := Cursor.ofText cs
    let start := if cs.head? == some '\ufeff' then start.next else start
    Scan.all (2 * cs.length + 2) ⟨start, #[], 0, -1, [], true, []⟩

end Manuscript.Yaml
