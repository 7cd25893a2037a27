import Manuscript.Text.Blank

/-!
# Markup trees

An element has a name, attributes and content; its content is elements, text and
remarks. `Tree.written` writes a tree on one line: attributes in the order of their
names, an element without content as one tag.

* A name is written with the customary prefix of its namespace.
* `isLegal`: the characters that may stand in markup.
-/

namespace Manuscript.Xml

/-- A part of a markup document. -/
inductive Tree where
  /-- An element: its name, its attributes and its content. -/
  | element (name : String) (attributes : List (String × String)) (content : List Tree)
  /-- Text. -/
  | text (s : String)
  /-- A remark or an instruction, which is no content of the document. -/
  | remark (s : String)
  deriving Inhabited, Repr

/-- A character that may stand in markup. -/
def isLegal (c : Char) : Bool :=
  let n := c.toNat
  n == 9 || n == 10 || n == 13 || (32 ≤ n && n != 0xfffe && n != 0xffff)

/-- Whether a text may stand in markup. -/
def isLegalText (s : String) : Bool := s.toList.all isLegal

/-- A character of a text. -/
def escapedInText : Char → List Char
  | '&' => ['&', 'a', 'm', 'p', ';']
  | '<' => ['&', 'l', 't', ';']
  | '>' => ['&', 'g', 't', ';']
  | c => [c]

/-- A character of the value of an attribute. -/
def escapedInValue : Char → List Char
  | '\x22' => ['&', 'q', 'u', 'o', 't', ';']
  | c => escapedInText c

/-- A text with its special characters written as references. -/
def escapedText (s : String) : String := String.ofList (s.toList.flatMap escapedInText)

/-- The value of an attribute with its special characters written as references. -/
def escapedValue (s : String) : String := String.ofList (s.toList.flatMap escapedInValue)

namespace Tree

/-- The name of an element. -/
def name? : Tree → Option String
  | element name _ _ => some name
  | _ => none

/-- Whether a tree is an element. -/
def isElement (t : Tree) : Bool := t.name?.isSome

/-- Whether a tree is text. -/
def isText : Tree → Bool
  | text _ => true
  | _ => false

/-- The attributes of an element. -/
def attributes : Tree → List (String × String)
  | element _ attributes _ => attributes
  | _ => []

/-- The content of an element. -/
def content : Tree → List Tree
  | element _ _ content => content
  | _ => []

/-- An element without content. -/
def leaf (name : String) (attributes : List (String × String)) : Tree :=
  element name attributes []

/-- An element with one attribute and no content. -/
def valued (name key value : String) : Tree := element name [(key, value)] []

/-! ## Writing -/

/-- An attribute in a tag. -/
def attributeWritten (a : String × String) : String :=
  " " ++ a.1 ++ "=\x22" ++ escapedValue a.2 ++ "\x22"

/-- The attributes in a tag, in the order of their names. -/
def attributesWritten (attributes : List (String × String)) : String :=
  String.join ((attributes.mergeSort fun a b => a.1 ≤ b.1).map attributeWritten)

mutual

/-- A tree on one line. -/
def written : Tree → String
  | element name attributes content =>
    let tag := name ++ attributesWritten attributes
    if content.isEmpty then "<" ++ tag ++ "/>"
    else "<" ++ tag ++ ">" ++ writtenAll content ++ "</" ++ name ++ ">"
  | text s => escapedText s
  | remark s => "<!--" ++ s ++ "-->"

/-- Trees one after the other. -/
def writtenAll : List Tree → String
  | [] => ""
  | t :: rest => t.written ++ writtenAll rest

end

end Tree

end Manuscript.Xml
