import Manuscript.Document.Compose
import Manuscript.Markdown.Tokens
import Manuscript.Package.Assembly

/-!
# Converting a text

A text becomes a document, and a document a package. Formulas need a bridge that is
ready; it is asked to be only when the text has a dollar sign, and before anything else
is done.

* `build`: the document of a text;
* `convert`: the package of a text.
-/

namespace Manuscript.Convert

open Manuscript.Document Manuscript.Formula Manuscript.Log Manuscript.Style

/-- Why a text has no package. -/
inductive Fault where
  /-- The front matter is not understood. -/
  | notYaml
  /-- The front matter is not a mapping. -/
  | notMapping
  /-- A scalar of the front matter has no value. -/
  | noValue
  /-- The tokens have no blocks. -/
  | composition (fault : Document.Fault)
  /-- The bridge is not ready. -/
  | bridge (fault : Formula.Fault)
  /-- The blocks make no package. -/
  | assembly (fault : Package.Fault)
  deriving DecidableEq, Repr, Inhabited

/-- Whether a fault of a formula is one that the program knows of. -/
def knowsFormulaFault : Formula.Fault → Bool
  | .rejected _ _ | .notStarted _ => true
  | .escaped _ => false

/-- Whether a fault is one that the program knows of: a document that fails so fails
    alone. -/
def Fault.isKnown : Fault → Bool
  | notYaml | notMapping | noValue | assembly _ | composition .headless => true
  | composition .unknownToken => false
  | composition (.formula f) | bridge f => knowsFormulaFault f

/-- A fault in words. -/
def Fault.message : Fault → String
  | notYaml => "Front matter is not valid YAML"
  | notMapping => "Front matter root must be a mapping."
  | noValue => "Markdown could not be tokenized"
  | composition .headless => "Table has no header cells."
  | composition .unknownToken => "Unsupported token: Token"
  | composition (.formula f) | bridge f => f.message
  | assembly f => f.message

/-- The fault of a text without tokens. -/
def Fault.ofTokens : Markdown.Failure → Fault
  | .notYaml => notYaml
  | .notMapping => notMapping
  | .noValue _ | .unwritableKey => noValue

variable {σ : Type}

/-- A composition from its start to its end. -/
def composition {α : Type} (w : Work (Composition σ) Document.Fault α) : Work σ Fault α := fun s =>
  let o := w { bridge := s }
  ⟨o.result.mapError .composition, o.notices, o.state.bridge⟩

section

variable (bridge : Bridge σ) (config : Config)

/-- The tokens of a text. -/
def tokens (text : List Char) : Work σ Fault Markdown.Stream := fun s =>
  let (result, said) := Markdown.tokenize text
  ⟨result.mapError .ofTokens, said, s⟩

/-- The document of a text. -/
def build (text : List Char) : Work σ Fault Document := do
  let stream ← tokens text
  Work.tell (.parsed stream.tokens.length)
  if !stream.tokens.isEmpty then
    Work.tell (.firstKinds ((stream.tokens.take 5).map Token.kind))
  let blocks ← composition (compose bridge config stream.tokens)
  return ⟨blocks, stream.metadata⟩

/-- The package of a document. -/
def render (document : Document) : Work σ Fault Package := do
  let result := Package.assemble config document
  Work.tell (Package.assemblyNotice document result)
  Work.ofExcept (result.mapError .assembly)

/-- Whether a text may have formulas. -/
def needsBridge (text : List Char) : Bool := text.contains '$'

/-- The notice that a text is about to be converted. -/
def inputNotice (text : List Char) : Notice :=
  .input text.length (String.ofList (text.take 200))

/-- The package of a text, once the bridge is ready. -/
def convertReady (text : List Char) : Work σ Fault Package := do
  let document ← build bridge config text
  render config document

/-- The package of a text that has been announced. -/
def convertAnnounced (text : List Char) : Work σ Fault Package := do
  if needsBridge text then Work.mapFault .bridge bridge.ready
  convertReady bridge config text

/-- The package of a text. -/
def convert (text : List Char) : Work σ Fault Package := do
  Work.tell (inputNotice text)
  convertAnnounced bridge config text

end

end Manuscript.Convert
