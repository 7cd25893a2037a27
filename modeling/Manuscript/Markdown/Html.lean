import Manuscript.Text.Pattern

/-!
# Markup blocks

A block of HTML starts in one of seven ways and ends with the line that holds a given
mark, or before an empty line.
-/

namespace Manuscript.Markdown

open Manuscript.Text Manuscript.Text.Pattern

/-- How a block of HTML starts. -/
inductive HtmlStart where
  /-- With an element whose content is not marked up. -/
  | rawElement
  /-- With a comment. -/
  | comment
  /-- With a processing instruction. -/
  | instruction
  /-- With a declaration. -/
  | declaration
  /-- With a character data section. -/
  | characterData
  /-- With a tag of an element that makes a block. -/
  | blockElement
  /-- With a line that is one tag. -/
  | anyTag
  deriving DecidableEq, Repr

namespace HtmlStart

/-- The elements whose content is not marked up. -/
def rawNames : List String := ["script", "pre", "style", "textarea"]

/-- The elements that make blocks. -/
def blockNames : List String :=
  ["address", "article", "aside", "base", "basefont", "blockquote", "body", "caption", "center",
    "col", "colgroup", "dd", "details", "dialog", "dir", "div", "dl", "dt", "fieldset",
    "figcaption", "figure", "footer", "form", "frame", "frameset", "h1", "h2", "h3", "h4", "h5",
    "h6", "head", "header", "hr", "html", "iframe", "legend", "li", "link", "main", "menu",
    "menuitem", "nav", "noframes", "ol", "optgroup", "option", "p", "param", "search", "section",
    "summary", "table", "tbody", "td", "tfoot", "th", "thead", "title", "tr", "track", "ul"]

/-- A blank. -/
def blank : Pattern := one .blank

/-- A letter of ASCII. -/
def letter : Pattern := range [('a', 'z'), ('A', 'Z')]

/-- The name of an element. -/
def elementName : Pattern :=
  all [letter, star (range [('a', 'z'), ('A', 'Z'), ('0', '9'), ('-', '-')])]

/-- The value of an attribute. -/
def attributeValue : Pattern :=
  any [some (one (.outside [('\x00', ' '), ('\x22', '\x22'), ('\x27', '\x27'), ('=', '='),
      ('<', '<'), ('>', '>'), ('\x60', '\x60')])),
    all [oneOf ['\x27'], star (one (.outside [('\x27', '\x27')])), oneOf ['\x27']],
    all [oneOf ['\x22'], star (one (.outside [('\x22', '\x22')])), oneOf ['\x22']]]

/-- An attribute with the blanks before it. -/
def attr : Pattern :=
  all [some blank, range [('a', 'z'), ('A', 'Z'), ('_', '_'), (':', ':')],
    star (range [('a', 'z'), ('A', 'Z'), ('0', '9'), ('_', '_'), (':', ':'), ('.', '.'), ('-', '-')]),
    optional (all [star blank, oneOf ['='], star blank, attributeValue])]

/-- A whole tag that opens an element, or closes one, and blanks after it. -/
def tagLine : Pattern :=
  all [orElse
      (all [oneOf ['<'], elementName, star attr, star blank, optional (oneOf ['/']), oneOf ['>']])
      (all [literal "</", elementName, star blank, oneOf ['>']]),
    star blank]

/-- Whether a line starts with a tag of one of some elements: after the name the line
    ends, or a blank or an end of a tag stands. -/
def startsWith (opening : Pattern) (names : List String) (ending : Pattern) (cs : List Char) : Bool :=
  let tag := opening.andThen (any (names.map anyCase))
  tag.fits cs || (tag.andThen ending).fitsStart cs

/-- How a block of HTML starts with some ink, if one does. -/
def ofInk? (cs : List Char) : Option HtmlStart :=
  if cs.head? != Option.some '<' then none
  else if startsWith (literal "<") rawNames (orElse blank (oneOf ['>'])) cs then
    Option.some rawElement
  else if (literal "<!--").fitsStart cs then Option.some comment
  else if (literal "<?").fitsStart cs then Option.some instruction
  else if ((literal "<!").andThen letter).fitsStart cs then Option.some declaration
  else if (literal "<![CDATA[").fitsStart cs then Option.some characterData
  else if startsWith ((literal "<").andThen (optional (oneOf ['/']))) blockNames
      (orElse blank ((optional (oneOf ['/'])).andThen (oneOf ['>']))) cs then
    Option.some blockElement
  else if tagLine.fits cs then Option.some anyTag
  else none

/-- Whether the pattern stands anywhere in a text. -/
def standsIn (p : Pattern) : List Char → Bool
  | [] => p.nullable
  | c :: cs => p.fitsStart (c :: cs) || standsIn p cs

/-- Whether a line with some ink is the last one of the block. -/
def endsAt (start : HtmlStart) (cs : List Char) : Bool :=
  match start with
  | rawElement =>
    standsIn (all [literal "</", any (rawNames.map anyCase), oneOf ['>']]) cs
  | comment => standsIn (literal "-->") cs
  | instruction => standsIn (literal "?>") cs
  | declaration => standsIn (literal ">") cs
  | characterData => standsIn (literal "]]>") cs
  | blockElement | anyTag => cs.isEmpty

/-- Whether the start may end a paragraph. -/
def interrupts (start : HtmlStart) : Bool := start != anyTag

end HtmlStart

end Manuscript.Markdown
