import Manuscript.Markdown.Reading
import Manuscript.Markdown.Structure
import Manuscript.Yaml.Load

/-!
# The tokens of a text

`tokenize` gives the tokens of a Markdown text and the data of its front matter.
Between two blocks with blank lines above the second stands a token for these lines,
unless the first is a heading or a thematic break. Blank lines are counted among the
lines that a display shows.
-/

namespace Manuscript.Markdown

open Manuscript.Document Manuscript.Log Manuscript.Text

/-! ## Front matter -/

/-- Why a text has no tokens. -/
inductive Failure where
  /-- The front matter is not understood. -/
  | notYaml
  /-- The front matter is not a mapping. -/
  | notMapping
  /-- A scalar of the front matter has no value. -/
  | noValue (fault : Yaml.Fault)
  /-- A key of the front matter cannot be shown. -/
  | unwritableKey
  deriving DecidableEq, Repr

/-- A value as the data of a text: nothing, and what is empty, gives no data. -/
def dataOf (v : Value) : Except Failure Value.Entries :=
  match v with
  | .map entries =>
    if entries.all fun e => e.1.isWritable then .ok entries else .error .unwritableKey
  | v => if v.isTruthy then .error .notMapping else .ok []

/-- The data that front matter writes. -/
def readFrontMatter (text : String) : Except Failure Value.Entries :=
  match Yaml.load? text with
  | .ok v => dataOf v
  | .error .malformed => .error .notYaml
  | .error fault => .error (.noValue fault)

/-- The text of the front matter at the start of a stream. -/
def frontMatterOf : List Event → Option String
  | .frontMatter text :: _ => some text
  | _ => none

/-! ## Tokens -/

/-- The tokens of a text and the data of its front matter. -/
structure Stream where
  /-- The tokens, from top to bottom. -/
  tokens : List Token
  /-- The data of the front matter, none if there is none. -/
  metadata : Value.Entries

/-- The tokens of a stream of events with the given source lines; events of blocks can
    always be read. -/
def tokensOf (lines : List (List Char)) (events : List Event) : List Token × List Notice :=
  match Reading.stream events.toArray (some lines) with
  | some p => (p.value, p.said)
  | none => ([], [])

/-- The tokens of a text, with the notices on the way. -/
def tokenize (text : List Char) : Except Failure Stream × List Notice :=
  let events := Event.ofBlocks (Block.ofText text)
  let (tokens, said) := tokensOf (visualLines text) events
  match frontMatterOf events with
  | none => (.ok ⟨tokens, []⟩, said)
  | some data =>
    match readFrontMatter data with
    | .ok entries =>
      (.ok ⟨tokens, entries⟩, .frontMatterKeys (entries.map fun e => e.1.written) :: said)
    | .error e => (.error e, [])

end Manuscript.Markdown
