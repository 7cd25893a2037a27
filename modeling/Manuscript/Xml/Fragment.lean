import Manuscript.Xml.Namespace

/-!
# Fragments of markup

`fragment?` reads a text that stands inside an element which declares some prefixes:
its content, with the customary prefixes of namespaces in names. Tags must pair,
prefixes must be declared, and no element has an attribute twice.

* The five entities that every text of markup knows are the only ones.
* Space between elements is dropped where it is no text: not as an element's only
  content, not beside text, not where an element asks to keep it.
* Text is looked at in pieces: a carriage return ends one, and a piece that is nothing but
  space may be dropped on its own.
-/

namespace Manuscript.Xml

/-! ## Flaws -/

/-- What is wrong with a fragment. -/
inductive FragmentFlaw where
  /-- An element that is opened in a line is closed by another name. -/
  | mismatch (opened : String) (line : Nat) (closed : String)
  /-- There is no entity of this name. -/
  | unknownEntity (name : String)
  /-- A reference names nothing. -/
  | namelessReference
  /-- A reference has no semicolon after it. -/
  | openReference
  /-- A reference gives no number. -/
  | badNumber (isHex : Bool)
  /-- A reference gives the number of no character. -/
  | badCharacter (n : Nat)
  /-- A tag has no name. -/
  | namelessElement
  /-- An attribute has no name. -/
  | namelessAttribute
  /-- An attribute has no value. -/
  | noValue (name : String)
  /-- A value has no quotes. -/
  | unquotedValue
  /-- A value does not end. -/
  | openValue
  /-- A tag opens in a value. -/
  | tagInValue
  /-- No space stands between two attributes. -/
  | noSpace
  /-- A tag of an element in a line does not end. -/
  | openTag (name : String) (line : Nat)
  /-- A closing tag does not end. -/
  | openClosing
  /-- An attribute is given twice. -/
  | doubledAttribute (name : String)
  /-- The prefix of an element is not declared. -/
  | unboundElement (mark name : String)
  /-- The prefix of an attribute is not declared. -/
  | unboundAttribute (mark name element : String)
  /-- A prefix may not be declared so. -/
  | badDeclaration (mark uri : String)
  /-- The end of a literal section stands in text. -/
  | sectionEnd
  /-- A literal section does not end. -/
  | openSection
  /-- A remark does not end. -/
  | openRemark
  /-- Two hyphens stand in a remark. -/
  | hyphens
  /-- An instruction has no name, does not end, or has a name that it may not have. -/
  | badInstruction
  /-- A character may not stand in text. -/
  | badText (c : Char)
  /-- Elements lie too deep inside each other. -/
  | tooDeep
  /-- Something follows the end of what is around the fragment. -/
  | trailing
  deriving DecidableEq, Repr

/-- What is said of a flaw. -/
def FragmentFlaw.message : FragmentFlaw → String
  | mismatch opened line closed =>
    "Opening and ending tag mismatch: " ++ opened ++ " line " ++ toString line ++ " and " ++ closed
  | unknownEntity name => "Entity '" ++ name ++ "' not defined"
  | namelessReference => "xmlParseEntityRef: no name"
  | openReference => "EntityRef: expecting ';'"
  | badNumber isHex =>
    if isHex then "xmlParseCharRef: invalid hexadecimal value" else "xmlParseCharRef: invalid decimal value"
  | badCharacter n => "xmlParseCharRef: invalid xmlChar value " ++ toString n
  | namelessElement => "StartTag: invalid element name"
  | namelessAttribute => "error parsing attribute name"
  | noValue name => "Specification mandates value for attribute " ++ name
  | unquotedValue => "AttValue: \x22 or ' expected"
  | openValue => "AttValue: ' expected"
  | tagInValue => "Unescaped '<' not allowed in attributes values"
  | noSpace => "attributes construct error"
  | openTag name line =>
    "Couldn't find end of Start Tag " ++ name ++ " line " ++ toString line
  | openClosing => "expected '>'"
  | doubledAttribute name => "Attribute " ++ name ++ " redefined"
  | unboundElement mark name => "Namespace prefix " ++ mark ++ " on " ++ name ++ " is not defined"
  | unboundAttribute mark name element =>
    "Namespace prefix " ++ mark ++ " for " ++ name ++ " on " ++ element ++ " is not defined"
  | badDeclaration mark uri =>
    if mark.isEmpty then "xmlns: '" ++ uri ++ "' is not a valid URI"
    else "xmlns:" ++ mark ++ ": '" ++ uri ++ "' is not a valid URI"
  | sectionEnd => "Sequence ']]>' not allowed in content"
  | openSection => "CData section not finished"
  | openRemark => "Comment not terminated"
  | hyphens => "Double hyphen within comment"
  | badInstruction => "xmlParsePI : no target name"
  | badText c => "PCDATA invalid Char value " ++ toString c.toNat
  | tooDeep => "Excessive depth in document: 256 use XML_PARSE_HUGE option"
  | trailing => "Extra content at the end of the document"

/-- A flaw, and the text from its place on. -/
structure Snag where
  /-- What is wrong. -/
  flaw : FragmentFlaw
  /-- The text from there on. -/
  rest : List Char

/-- A flaw of a fragment and its place, both counted from one. -/
structure FragmentFault where
  /-- What is wrong. -/
  flaw : FragmentFlaw
  /-- The line. -/
  line : Nat
  /-- The column. -/
  column : Nat
  deriving DecidableEq, Repr

/-- What is said of a fault. -/
def FragmentFault.message (f : FragmentFault) : String :=
  f.flaw.message ++ ", line " ++ toString f.line ++ ", column " ++ toString f.column
    ++ " (<string>, line " ++ toString f.line ++ ")"

/-! ## References -/

/-- The character that a reference stands for, after its `&`, and the text after it. -/
def reference? (cs : List Char) : Except Snag (Char × List Char) :=
  let number (base : Nat) (cs : List Char) : Except Snag (Char × List Char) :=
    let isDigit (c : Char) : Bool := (hexValue? c).any (· < base)
    match number? base (cs.takeWhile isDigit), cs.dropWhile isDigit with
    | some n, ';' :: rest =>
      match character? n with
      | some c => .ok (c, rest)
      | none => .error ⟨.badCharacter n, rest⟩
    | _, rest => .error ⟨.badNumber (base == 16), rest⟩
  match cs with
  | '#' :: 'x' :: digits => number 16 digits
  | '#' :: digits => number 10 digits
  | _ =>
    match simpleName? cs with
    | none => .error ⟨.namelessReference, cs⟩
    | some (name, ';' :: rest) =>
      match standardEntity? name with
      | some c => .ok (c, rest)
      | none => .error ⟨.unknownEntity (String.ofList name), rest⟩
    | some (_, rest) => .error ⟨.openReference, rest⟩

/-! ## Tags -/

/-- The value of an attribute up to its quote: breaks are spaces, `<` may not
    stand. -/
def value? (quote : Char) : (fuel : Nat) → List Char → Except Snag (List Char × List Char)
  | 0, cs => .error ⟨.openValue, cs⟩
  | _, [] => .error ⟨.openValue, []⟩
  | fuel + 1, c :: cs =>
    if c = quote then .ok ([], cs)
    else if c = '<' then .error ⟨.tagInValue, c :: cs⟩
    else if !isLegal c then .error ⟨.openValue, c :: cs⟩
    else if c = '&' then do
      let (r, rest) ← reference? cs
      let (value, rest) ← value? quote fuel rest
      .ok (r :: value, rest)
    else
      let after :=
        match c, cs with
        | '\r', '\n' :: rest => rest
        | _, _ => cs
      do
        let (value, rest) ← value? quote fuel after
        .ok ((if isSpace c then ' ' else c) :: value, rest)

/-- The attributes of a tag up to its end, and what follows them. -/
def attributes? : (fuel : Nat) → List Char → Except Snag (List (String × String) × List Char)
  | 0, cs => .error ⟨.namelessAttribute, cs⟩
  | fuel + 1, cs =>
    let isEnd : List Char → Bool
      | '>' :: _ | '/' :: '>' :: _ | [] => true
      | _ => false
    let inside := cs.dropWhile isSpace
    if isEnd inside then .ok ([], inside)
    else if !cs.head?.any isSpace then .error ⟨.noSpace, inside⟩
    else
      match name? inside with
      | none => .error ⟨.namelessAttribute, inside⟩
      | some (name, rest) =>
        match rest.dropWhile isSpace with
        | '=' :: rest =>
          match rest.dropWhile isSpace with
          | quote :: rest =>
            if quote != '\x22' && quote != '\x27' then .error ⟨.unquotedValue, quote :: rest⟩
            else do
              let (value, rest) ← value? quote (rest.length + 1) rest
              let (more, rest) ← attributes? fuel rest
              .ok ((name, String.ofList value) :: more, rest)
          | [] => .error ⟨.unquotedValue, []⟩
        | rest => .error ⟨.noValue name, rest⟩

/-! ## Elements -/

/-- What is known of space in an element. -/
inductive Spacing where
  /-- Nothing: the content decides. -/
  | undecided
  /-- There is text in the element, so space is text too. -/
  | mixed
  /-- The element asks for nothing special. -/
  | standard
  /-- The element asks to keep space. -/
  | kept
  deriving DecidableEq, Repr

/-- An element that is not closed yet. -/
structure Frame where
  /-- The name in its tag. -/
  tag : String
  /-- The text from its tag on. -/
  place : List Char
  /-- The name with its customary prefix. -/
  name : String
  /-- The attributes, with customary prefixes. -/
  attributes : List (String × String)
  /-- The prefixes declared in it and around it. -/
  scope : Scope
  /-- What is known of space in it. -/
  spacing : Spacing
  /-- Its content so far, the last part first. -/
  content : List Tree

/-- Adds a part to the content; text joins text. -/
def Frame.add (f : Frame) (t : Tree) : Frame :=
  match t, f.content with
  | .text s, .text r :: rest => { f with content := .text (r ++ s) :: rest }
  | .text s, rest => if s.isEmpty then f else { f with content := .text s :: rest }
  | t, rest => { f with content := t :: rest }

/-- Adds text to the content. -/
def Frame.addText (f : Frame) (cs : List Char) : Frame := f.add (.text (String.ofList cs))

/-- The element. -/
def Frame.tree (f : Frame) : Tree := .element f.name f.attributes f.content.reverse

/-- Whether nothing is wrong with what a prefix is declared to stand for. -/
def mayStandFor (mark uri : String) : Bool :=
  if mark == "xmlns" then false
  else if mark == "xml" then uri == markupNamespace
  else if uri == markupNamespace || uri == declarationNamespace then false
  else (mark.isEmpty || !uri.isEmpty) && isReference uri

/-- A name with the customary prefix of its namespace. Without a prefix an attribute is in
    no namespace. -/
def Scope.resolve? (scope : Scope) (name : String) (isAttribute : Bool) : Option String :=
  let (mark, localName) := splitName name
  if mark.isEmpty && isAttribute then some name
  else
    match scope.namespace? mark with
    | none => if mark.isEmpty then some name else none
    | some uri =>
      match customary.find? fun e => e.2 == uri with
      | some e => some (joined e.1 localName)
      | none => some name

/-- The first member of a list that stands in it twice. -/
def doubled? {α : Type} [BEq α] : List α → Option α
  | [] => none
  | a :: rest => if rest.contains a then some a else doubled? rest

/-- Opens an element at the start of a text; the text after its attributes is given. -/
def Frame.enter? (outer : Frame) (tag : String) (place : List Char)
    (attributes : List (String × String)) (rest : List Char) : Except Snag Frame := do
  let declarations := attributes.filterMap fun a => (declared? a.1).map (·, a.2)
  let others := attributes.filter fun a => (declared? a.1).isNone
  match declarations.find? fun d => !mayStandFor d.1 d.2 with
  | some d => throw ⟨.badDeclaration d.1 d.2, rest⟩
  | none => pure ()
  match doubled? (attributes.map (·.1)) with
  | some name => throw ⟨.doubledAttribute name, rest⟩
  | none => pure ()
  let scope : Scope := declarations ++ outer.scope
  let (mark, localName) := splitName tag
  let named ← others.mapM fun a =>
    match scope.resolve? a.1 true with
    | some name => .ok (name, a.2)
    | none =>
      let (mark, attributeName) := splitName a.1
      .error ⟨.unboundAttribute mark attributeName localName, rest⟩
  let expanded := others.map fun a =>
    let (mark, attributeName) := splitName a.1
    (if mark.isEmpty then none else scope.namespace? mark, attributeName)
  match doubled? expanded with
  | some name => throw ⟨.doubledAttribute name.2, rest⟩
  | none => pure ()
  match scope.resolve? tag false with
  | none => throw ⟨.unboundElement mark localName, rest⟩
  | some name =>
    let inherited := if outer.spacing == .mixed then .undecided else outer.spacing
    let spacing :=
      match named.find? fun a => a.1 == "xml:space" with
      | some (_, "preserve") => .kept
      | some (_, "default") => .standard
      | _ => inherited
    return ⟨tag, place, name, named, scope, spacing, []⟩

/-! ## Text -/

/-- Whether a piece of text that is nothing but space, before some other text, is
    dropped. -/
def Frame.drops (f : Frame) (rest : List Char) : Bool :=
  let closes :=
    match rest with
    | '<' :: '/' :: _ => true
    | _ => false
  (f.spacing == .undecided || f.spacing == .standard)
    && (rest.head? == some '<' || rest.head? == some '\r')
    && !(f.content.isEmpty && closes)
    && !(f.content.head?.any Tree.isText) && !(f.content.getLast?.any Tree.isText)

/-- Takes in a piece of text before some other text, unless it is dropped. After a piece
    that could have been dropped, the element has text. -/
def Frame.takePiece (f : Frame) (piece rest : List Char) : Frame :=
  if piece.isEmpty then f
  else if piece.all isSpace && f.drops rest then f
  else
    let f := f.addText piece
    if f.spacing == .undecided then { f with spacing := .mixed } else f

/-- A character of ASCII that may stand in a piece of text without more ado. -/
def isSimple (c : Char) : Bool :=
  c == '\t' || c == '\n' || (32 ≤ c.toNat && c.toNat < 128 && c != '<' && c != '&' && c != ']')

/-- The number of bytes after which a piece of text ends in any case. -/
def maxPiece : Nat := 300

/-- Takes in text of any characters up to the next tag or reference. -/
def Frame.takeAnyText : (fuel : Nat) → Frame → (piece : List Char) → (size : Nat) → List Char →
    Except Snag (Frame × List Char)
  | 0, f, _, _, cs => .ok (f, cs)
  | fuel + 1, f, piece, size, cs =>
    if size ≥ maxPiece then Frame.takeAnyText fuel (f.takePiece piece.reverse cs) [] 0 cs
    else
      match cs with
      | ']' :: ']' :: '>' :: _ => .error ⟨.sectionEnd, cs⟩
      | '\r' :: '\n' :: rest | '\r' :: rest => Frame.takeAnyText fuel f ('\n' :: piece) (size + 1) rest
      | c :: rest =>
        if c == '<' || c == '&' then .ok (f.takePiece piece.reverse cs, cs)
        else if !isLegal c then .error ⟨.badText c, cs⟩
        else Frame.takeAnyText fuel f (c :: piece) (size + c.utf8Size) rest
      | [] => .ok (f.takePiece piece.reverse [], [])

/-- The longest run of simple characters, and of brackets that end no section. -/
def simpleText : List Char → List Char × List Char
  | [] => ([], [])
  | ']' :: ']' :: '>' :: rest => ([], ']' :: ']' :: '>' :: rest)
  | c :: cs =>
    if isSimple c || c == ']' then
      let (text, rest) := simpleText cs
      (c :: text, rest)
    else ([], c :: cs)

/-- Takes in text up to the next tag or reference: pieces of simple characters that end
    at line ends with a carriage return, and from the first other character on text of any
    characters. `ahead` is a line feed that is left of such a line end. -/
def Frame.takeText : (fuel : Nat) → Frame → (ahead : List Char) → List Char →
    Except Snag (Frame × List Char)
  | 0, f, _, cs => .ok (f, cs)
  | fuel + 1, f, ahead, cs =>
    let (text, rest) := simpleText cs
    let piece := ahead ++ text
    let startsBlank := piece.head?.any isSpace
    match rest with
    | ']' :: _ => .error ⟨.sectionEnd, rest⟩
    | _ =>
      let f := if startsBlank then f.takePiece piece rest else f.addText piece
      match rest with
      | '\r' :: '\n' :: '\r' :: _ => Frame.takeAnyText (rest.length + 2) f [] 0 rest
      | '\r' :: '\n' :: after =>
        if after.head?.any fun c => c.toNat < 128 && isLegal c then Frame.takeText fuel f ['\n'] after
        else Frame.takeAnyText (rest.length + 2) f [] 0 rest
      | '<' :: _ | '&' :: _ | [] => .ok (f, rest)
      | _ => Frame.takeAnyText (rest.length + 2) f [] 0 rest

/-! ## Content -/

/-- The text up to a mark that ends it, and what follows the mark. -/
def upTo? (mark : List Char) : List Char → Option (List Char × List Char)
  | [] => none
  | c :: cs =>
    if mark.isPrefixOf (c :: cs) then some ([], (c :: cs).drop mark.length)
    else (upTo? mark cs).map fun (text, rest) => (c :: text, rest)

/-- A comment after its opening: no two hyphens stand in it. -/
def comment? (cs : List Char) : Except Snag (Tree × List Char) :=
  match upTo? ['-', '-'] cs with
  | some (text, '>' :: rest) =>
    if text.all isLegal then .ok (.remark (String.ofList (unifyEnds text)), rest)
    else .error ⟨.openRemark, rest⟩
  | some (_, rest) => .error ⟨.hyphens, rest⟩
  | none => .error ⟨.openRemark, []⟩

/-- An instruction after its opening; its name is not that of the declaration. -/
def instruction? (cs : List Char) : Except Snag (Tree × List Char) :=
  match simpleName? cs with
  | none => .error ⟨.badInstruction, cs⟩
  | some (target, rest) =>
    if (String.ofList target).toLower == "xml" then .error ⟨.badInstruction, rest⟩
    else
      match upTo? ['?', '>'] rest with
      | some (text, tail) =>
        if (text.isEmpty || text.head?.any isSpace) && text.all isLegal then
          .ok (.remark (String.ofList (target ++ unifyEnds text)), tail)
        else .error ⟨.badInstruction, rest⟩
      | none => .error ⟨.badInstruction, []⟩

/-- The number of elements that may lie inside each other. -/
def maxNesting : Nat := 256

/-- The line of a place in a text, of which the rest is given. -/
def lineAt (text rest : List Char) : Nat :=
  1 + (unifyEnds (text.take (text.length - rest.length))).count '\n'

/-- Reads a text into the open elements, the innermost first. The text ends with the
    closing tag of the outermost but one. -/
def contentOf? (text : List Char) : (fuel : Nat) → Frame → List Frame → List Char → Except Snag Frame
  | 0, _, _, cs => .error ⟨.trailing, cs⟩
  | fuel + 1, f, outer, cs =>
    let mismatch (closed : String) (rest : List Char) : Snag :=
      ⟨.mismatch (splitName f.tag).2 (lineAt text f.place) closed, rest⟩
    match cs with
    | [] =>
      match outer with
      | [] => .ok f
      | _ :: _ => .error (mismatch "" [])
    | '<' :: '/' :: rest =>
      match name? rest with
      | none => .error (mismatch "unparsable" rest)
      | some (name, rest) =>
        match rest.dropWhile isSpace with
        | '>' :: rest =>
          if name != f.tag then
            .error (mismatch (if (splitName f.tag).1.isEmpty then name else (splitName name).2) rest)
          else
            match outer with
            | [] => .error ⟨.trailing, rest⟩
            | [g] => if rest.isEmpty then .ok (g.add f.tree) else .error ⟨.trailing, rest⟩
            | g :: outer => contentOf? text fuel (g.add f.tree) outer rest
        | rest => .error ⟨.openClosing, rest⟩
    | '<' :: '!' :: '-' :: '-' :: rest => do
      let (t, rest) ← comment? rest
      contentOf? text fuel (f.add t) outer rest
    | '<' :: '?' :: rest => do
      let (t, rest) ← instruction? rest
      contentOf? text fuel (f.add t) outer rest
    | '<' :: '!' :: '[' :: 'C' :: 'D' :: 'A' :: 'T' :: 'A' :: '[' :: rest =>
      match upTo? [']', ']', '>'] rest with
      | some (section_, rest) =>
        match section_.find? fun c => !isLegal c with
        | some _ => .error ⟨.openSection, rest⟩
        | none => contentOf? text fuel (f.addText (unifyEnds section_)) outer rest
      | none => .error ⟨.openSection, []⟩
    | '<' :: rest =>
      match name? rest with
      | none => .error ⟨.namelessElement, rest⟩
      | some (tag, after) => do
        if outer.length + 1 > maxNesting then throw ⟨.tooDeep, rest⟩
        let (attributes, after) ← attributes? (after.length + 1) after
        let inner ← f.enter? tag cs attributes after
        match after with
        | '/' :: '>' :: rest => contentOf? text fuel (f.add inner.tree) outer rest
        | '>' :: rest => contentOf? text fuel inner (f :: outer) rest
        | rest => .error ⟨.openTag (splitName tag).2 (lineAt text cs), rest⟩
    | '&' :: rest => do
      let (c, rest) ← reference? rest
      contentOf? text fuel (f.addText [c]) outer rest
    | _ => do
      let (f, rest) ← f.takeText (cs.length + 1) [] cs
      contentOf? text fuel f outer rest

/-- The content of a text inside an element that declares some prefixes. The closing tag of
    that element is read with the text, so that what is open at its end is told. -/
def fragment? (outermost : String) (scope : Scope) (text : String) :
    Except FragmentFault (List Tree) :=
  let opening := scope.foldl (fun s d => s ++ " xmlns:" ++ d.1 ++ "=\x22" ++ d.2 ++ "\x22")
    ("<" ++ outermost)
  let whole := text.toList ++ ("</" ++ outermost ++ ">").toList
  let place (s : Snag) : FragmentFault :=
    let before := unifyEnds (whole.take (whole.length - s.rest.length))
    let line := 1 + before.count '\n'
    let last := (before.reverse.takeWhile (· != '\n')).length
    ⟨s.flaw, line, if line == 1 then opening.length + 2 + last else 1 + last⟩
  let outside : Frame := ⟨"", whole, "", [], [], .undecided, []⟩
  let element : Frame :=
    ⟨outermost, whole, outermost, [], scope ++ [("xml", markupNamespace)], .undecided, []⟩
  match contentOf? whole (whole.length + 1) element [outside] whole with
  | .error snag => .error (place snag)
  | .ok f => .ok (f.content.flatMap Tree.content)

end Manuscript.Xml
