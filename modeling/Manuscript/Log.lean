import Manuscript.Document.Kind
import Manuscript.Text.Quoted

/-!
# Log records

Everything worth a record is a `Notice`. A notice knows how serious it is, which part
of the program reports it, and the words it is reported in; `Notice.line` is the line
of the log.
-/

namespace Manuscript.Log

/-- How serious a record is. -/
inductive Level where
  | debug
  | info
  | warning
  | error
  deriving DecidableEq, Repr

namespace Level

/-- The name of a level. -/
def name : Level → String
  | debug => "DEBUG"
  | info => "INFO"
  | warning => "WARNING"
  | error => "ERROR"

/-- The order of levels. -/
def rank : Level → Nat
  | debug => 10
  | info => 20
  | warning => 30
  | error => 40

end Level

/-- The part of the program that reports. -/
inductive Source where
  | parser
  | formatter
  | composer
  | bridge
  | converter
  | renderer
  | root
  deriving DecidableEq, Repr

/-- The name of a part in the log. -/
def Source.name : Source → String
  | parser => "Md2Doc.markdown_parser"
  | formatter => "Md2Doc.inline_formatter"
  | composer => "Md2Doc.block_translator"
  | bridge => "Md2Doc.math_bridge"
  | converter => "Md2Doc.converter"
  | renderer => "Md2Doc.renderer_docx"
  | root => "root"

/-- What is worth a record. -/
inductive Notice where
  /-- The keys of the front matter. -/
  | frontMatterKeys (keys : List String)
  /-- Code inside a list item, kept as text. -/
  | codeInItem
  /-- A block quote inside a list item, of which the text is kept. -/
  | quoteInItem
  /-- A part of a list item that is left out. -/
  | leftOutOfItem (type : String)
  /-- A token whose turn it is. -/
  | composing (kind : Document.Kind)
  /-- A heading with a depth out of range. -/
  | clamped (depth level : Int)
  /-- A row of a table with the wrong number of cells; rows count from one. -/
  | ragged (row cells expected : Nat)
  /-- A token inside a block quote that is left out. -/
  | leftOutOfQuote (kind : Document.Kind)
  /-- A token without a place in the document. -/
  | unhandled (type : String)
  /-- A formula about to be converted. -/
  | formula (display : Bool) (latex : String)
  /-- A formula that stays as it is written, and why. -/
  | fallback (display : Bool) (latex reason : String)
  /-- A formula that has been converted. -/
  | converted (display : Bool)
  /-- Text in a formula has been replaced by upright letters. -/
  | textReplaced
  /-- The formula engine has started. -/
  | engineStarted
  /-- The number of tokens of a text. -/
  | parsed (count : Nat)
  /-- The kinds of the first tokens of a text. -/
  | firstKinds (kinds : List Document.Kind)
  /-- A text about to be converted: its length and its start. -/
  | input (chars : Nat) (sample : String)
  /-- A document of a batch that failed, and how. -/
  | documentFailed (number : Nat) (failure : String)
  /-- A document that could not be put together. -/
  | assemblyFailed
  /-- A document that has been put together, and its number of blocks. -/
  | generated (blocks : Nat)
  /-- A file about to be read. -/
  | reading (path : String)
  /-- The length of the text read. -/
  | length (chars : Nat)
  /-- The conversion of the text read is about to start. -/
  | converting
  /-- The conversion failed, and how. -/
  | failed (failure : String)
  /-- The document has been written to a file. -/
  | saved (path : String)
  deriving DecidableEq, Repr

namespace Notice

/-- How serious a notice is. -/
def level : Notice → Level
  | frontMatterKeys _ | composing _ | leftOutOfQuote _ | converted _ | firstKinds _
  | length _ => .debug
  | codeInItem | quoteInItem | leftOutOfItem _ | unhandled _ | formula _ _ | textReplaced
  | engineStarted | parsed _ | input _ _ | generated _ | reading _ | converting | saved _ => .info
  | clamped _ _ | ragged _ _ _ => .warning
  | fallback _ _ _ | documentFailed _ _ | assemblyFailed | failed _ => .error

/-- The part of the program that gives a notice. -/
def source : Notice → Source
  | frontMatterKeys _ | codeInItem | quoteInItem | leftOutOfItem _ => .parser
  | composing _ | clamped _ _ | ragged _ _ _ | leftOutOfQuote _ | unhandled _ => .composer
  | formula _ _ | fallback _ _ _ | converted _ => .formatter
  | textReplaced | engineStarted => .bridge
  | parsed _ | firstKinds _ | input _ _ | documentFailed _ _ => .converter
  | assemblyFailed | generated _ => .renderer
  | reading _ | length _ | converting | failed _ | saved _ => .root

/-- The word for how a formula is set. -/
def label (display : Bool) : String := if display then "display" else "inline"

/-- The words of a notice. -/
def message : Notice → String
  | frontMatterKeys keys => "Front matter keys: " ++ ", ".intercalate keys
  | codeInItem => "Code block inside list item kept as item text"
  | quoteInItem => "Blockquote inside list item flattened into item text"
  | leftOutOfItem type => "Unhandled token type inside list item: " ++ type
  | composing kind => "Processing token type: " ++ kind.name
  | clamped depth level =>
    "Heading depth " ++ toString depth ++ " clamped to " ++ toString level
  | ragged row cells expected =>
    "Table row " ++ toString row ++ " has " ++ toString cells ++ " cells, expected "
      ++ toString expected
  | leftOutOfQuote kind => "Ignoring " ++ kind.name ++ " inside blockquote"
  | unhandled type => "Unhandled token type: " ++ type
  | formula display latex =>
    "Processing " ++ label display ++ " math formula: " ++ String.ofList (latex.toList.take 50)
  | fallback display latex reason =>
    "Failed to convert " ++ label display ++ " math formula, using fallback: "
      ++ Text.quoted latex ++ " (" ++ reason ++ ")"
  | converted display => (if display then "Display" else "Inline") ++ " formula converted"
  | textReplaced => "Replaced \\text\x7b\x7d with \\mathrm\x7b\x7d for conversion"
  | engineStarted => "Math engine initialized"
  | parsed count => "Parsed " ++ toString count ++ " markdown tokens"
  | firstKinds kinds =>
    "First token types: [" ++ ", ".intercalate (kinds.map fun k => Text.quoted k.name) ++ "]"
  | input chars sample =>
    "Input markdown: " ++ toString chars ++ " chars, sample " ++ Text.quoted sample
  | documentFailed number failure => "Document " ++ toString number ++ " failed: " ++ failure
  | assemblyFailed => "Error converting markdown to docx"
  | generated blocks => "Generated DOCX with " ++ toString blocks ++ " blocks"
  | reading path => "Reading " ++ path
  | length chars => "Markdown length: " ++ toString chars ++ " chars"
  | converting => "Converting to DOCX..."
  | failed failure => "Conversion failed: " ++ failure
  | saved path => "Done. Saved to " ++ path

/-- The line of the log. -/
def line (n : Notice) : String :=
  n.level.name ++ " " ++ n.source.name ++ ": " ++ n.message

end Notice

end Manuscript.Log
