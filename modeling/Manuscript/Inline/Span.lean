import Manuscript.Text.Blank

/-!
# Spans

The inline source of a block is cut into *segments*: spans between delimiters and
the plain text between spans. There are five span forms,

    $$c$$   $c$   **c**   *c* or _c_   `c`

where `c` is nonempty and free of `$` in a formula, and free of line feeds and as
short as possible in the others. The scan goes from left to right; at the first
position where a form fits, the first of the forms above that fits is taken. Spans
do not nest.

A span other than a formula whose content is blank is plain text with its
delimiters, and segments that are blank altogether are dropped.

* `segments`: the cut of a text, in order and without loss;
* `splitRuns`: the segments worth showing.
-/

namespace Manuscript.Inline

open Manuscript.Text

/-- What a segment of inline source is. -/
inductive Kind where
  | plain
  | bold
  | italic
  | code
  | inlineMath
  | displayMath
  deriving DecidableEq, Repr, Inhabited

namespace Kind

/-- A formula, on its line or on its own. -/
def isMath : Kind → Bool
  | inlineMath | displayMath => true
  | _ => false

/-- The number of characters that a delimiter of the kind takes. -/
def delimiterWidth : Kind → Nat
  | plain => 0
  | displayMath | bold => 2
  | inlineMath | italic | code => 1

/-- The name of the kind in listings. -/
def name : Kind → String
  | plain => "plain"
  | bold => "bold"
  | italic => "italic"
  | code => "code"
  | inlineMath => "inline_math"
  | displayMath => "display_math"

end Kind

/-- A segment: its kind and its source, delimiters included. -/
structure Segment where
  /-- What the segment is. -/
  kind : Kind
  /-- The source of the segment, with its delimiters. -/
  raw : List Char
  deriving DecidableEq, Repr

/-- The source of a segment without the delimiters of its kind. -/
def Segment.inner (s : Segment) : List Char :=
  let width := s.kind.delimiterWidth
  (s.raw.drop width).take (s.raw.length - width - width)

/-! ## The span forms -/

/-- Takes a given text off the front. -/
def strip? : List Char → List Char → Option (List Char)
  | [], cs => some cs
  | d :: ds, c :: cs => if d = c then strip? ds cs else none
  | _ :: _, [] => none

/-- The content of a formula that ends in `mark`, and what follows the mark: the
    content is not empty and has no dollar sign. -/
def mathBody (mark : List Char) (cs : List Char) : Option (List Char × List Char) :=
  let body := cs.takeWhile (· != '$')
  if body.isEmpty then none
  else (strip? mark (cs.dropWhile (· != '$'))).map (body, ·)

/-- The shortest content, on one line, that `mark` ends, and what follows the
    mark. -/
def shortBody (mark : List Char) : List Char → Option (List Char × List Char)
  | [] => (strip? mark []).map ([], ·)
  | c :: tail =>
    match strip? mark (c :: tail) with
    | some rest => some ([], rest)
    | none =>
      if c = '\n' then none
      else (shortBody mark tail).map fun (body, rest) => (c :: body, rest)

/-- A span form: its kind, its delimiter and the rule for its content. -/
structure Form where
  /-- The kind of the span. -/
  kind : Kind
  /-- The delimiter on either side. -/
  mark : List Char
  /-- Reads the content and the closing delimiter. -/
  body : List Char → Option (List Char × List Char)

/-- The span forms, the ones that win first. -/
def forms : List Form :=
  [⟨.displayMath, ['$', '$'], mathBody ['$', '$']⟩,
   ⟨.inlineMath, ['$'], mathBody ['$']⟩,
   ⟨.bold, ['*', '*'], shortBody ['*', '*']⟩,
   ⟨.italic, ['*'], shortBody ['*']⟩,
   ⟨.italic, ['_'], shortBody ['_']⟩,
   ⟨.code, ['\x60'], shortBody ['\x60']⟩]

/-- The span of a form at the start of a text, and the text after it. -/
def Form.match? (f : Form) (cs : List Char) : Option (Segment × List Char) :=
  (strip? f.mark cs).bind fun opened =>
    (f.body opened).map fun (body, rest) => (⟨f.kind, f.mark ++ body ++ f.mark⟩, rest)

/-- The span at the start of a text, by the first form that fits. -/
def span? (cs : List Char) : Option (Segment × List Char) :=
  forms.findSome? (Form.match? · cs)

/-! ## The cut -/

/-- Puts a character that belongs to no span before the segments that follow it. -/
def consPlain (c : Char) : List Segment → List Segment
  | ⟨.plain, raw⟩ :: rest => ⟨.plain, c :: raw⟩ :: rest
  | rest => ⟨.plain, [c]⟩ :: rest

/-- The cut of a text of at most `fuel` characters. -/
def segmentsWithin : Nat → List Char → List Segment
  | 0, _ => []
  | _, [] => []
  | fuel + 1, c :: cs =>
    match span? (c :: cs) with
    | some (s, rest) => s :: segmentsWithin fuel rest
    | none => consPlain c (segmentsWithin fuel cs)

/-- The cut of a text into spans and the plain text between them. -/
def segments (cs : List Char) : List Segment := segmentsWithin cs.length cs

/-- A span other than a formula whose content is blank counts as plain text. -/
def Segment.demoted (s : Segment) : Segment :=
  if !s.kind.isMath && allBlank s.inner then ⟨.plain, s.raw⟩ else s

/-- The segments of a text that are not blank. -/
def splitRuns (text : List Char) : List Segment :=
  ((segments text).map Segment.demoted).filter fun s => !allBlank s.raw

end Manuscript.Inline
