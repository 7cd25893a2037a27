import Manuscript.Xml.Character
import Manuscript.Xml.Fault
import Manuscript.Xml.Letter

/-!
# Parts of a document

The parts that the text of a markup document is cut into, from its first tag on: tags,
text, references, literal sections, remarks and instructions. `part?` cuts off the first
one. Where that fails, `Gap` says at which character, or that the text ends too early.
-/

namespace Manuscript.Xml

/-- Why no part can be cut off. -/
inductive Gap where
  /-- What starts here may not stand here. -/
  | wrong (place : List Char)
  /-- The text ends inside the part. -/
  | short

/-- An attribute as it is written. -/
structure RawAttribute where
  /-- The name. -/
  name : List Char
  /-- The text between the quotes. -/
  value : List Char
  /-- The document from the name on. -/
  nameRest : List Char
  /-- The document from the value on. -/
  valueRest : List Char

/-- A part of a document. -/
inductive Part where
  /-- An opening tag, and whether it closes its element at once. -/
  | opening (name : List Char) (attributes : List RawAttribute) (closed : Bool)
  /-- A closing tag. -/
  | closing (name : List Char)
  /-- Literal text. -/
  | text (cs : List Char)
  /-- A reference to a character by its number; none if no character has it. -/
  | character (c : Option Char)
  /-- A reference to an entity. -/
  | entity (name : List Char)
  /-- The opening of a literal section. -/
  | section
  /-- A remark or an instruction. -/
  | remark
  /-- A declaration of markup, with the text in it. -/
  | declaration (said : List Char)

/-! ## Names and references -/

/-- A character that may not stand anywhere. -/
def isForbidden (c : Char) : Bool := !isLegal c

/-- A name without a colon. -/
def plainName? : List Char → Except Gap (List Char × List Char)
  | [] => .error .short
  | c :: cs =>
    if startsName c then .ok (c :: cs.takeWhile continuesName, cs.dropWhile continuesName)
    else .error (.wrong (c :: cs))

/-- A name, which may have one colon between two parts. -/
def pairedName? (cs : List Char) : Except Gap (List Char × List Char) := do
  let (first, rest) ← plainName? cs
  match rest with
  | ':' :: tail =>
    let (second, rest) ← plainName? tail
    .ok (first ++ ':' :: second, rest)
  | _ => .ok (first, rest)

/-- The digits of a reference up to the semicolon. -/
def digitsOfReference? (isDigit : Char → Bool) : List Char → Except Gap (List Char × List Char)
  | [] => .error .short
  | c :: cs =>
    if !isDigit c then .error (.wrong (c :: cs))
    else
      match cs.dropWhile isDigit with
      | [] => .error .short
      | ';' :: rest => .ok (c :: cs.takeWhile isDigit, rest)
      | rest => .error (.wrong rest)

/-- A reference after its `&`. -/
def anyReference? : List Char → Except Gap (Part × List Char)
  | '#' :: 'x' :: cs => do
    let (digits, rest) ← digitsOfReference? (fun c => (hexValue? c).isSome) cs
    .ok (.character ((number? 16 digits).bind character?), rest)
  | '#' :: cs => do
    let (digits, rest) ← digitsOfReference? Char.isDigit cs
    .ok (.character ((number? 10 digits).bind character?), rest)
  | cs => do
    let (name, rest) ← plainName? cs
    match rest with
    | ';' :: rest => .ok (.entity name, rest)
    | [] => .error .short
    | rest => .error (.wrong rest)

/-! ## Tags -/

/-- The text of a value up to its quote, with references as they are written. -/
def rawValue? (quote : Char) : (fuel : Nat) → List Char → Except Gap (List Char × List Char)
  | 0, _ | _, [] => .error .short
  | fuel + 1, c :: cs =>
    if c == quote then .ok ([], cs)
    else if isForbidden c || c == '<' then .error (.wrong (c :: cs))
    else if c == '&' then do
      let (_, rest) ← anyReference? cs
      let (value, last) ← rawValue? quote fuel rest
      .ok ((c :: cs.take (cs.length - rest.length)) ++ value, last)
    else do
      let (value, last) ← rawValue? quote fuel cs
      .ok (c :: value, last)

/-- Skips space before a character that must be one of two. -/
def sought? (a b : Char) (cs : List Char) : Except Gap (Char × List Char) :=
  match cs.dropWhile isSpace with
  | [] => .error .short
  | c :: rest => if c == a || c == b then .ok (c, rest) else .error (.wrong (c :: rest))

/-- The end of a tag, and whether it closes its element. -/
def tagEnd? : List Char → Except Gap (Bool × List Char)
  | '>' :: rest => .ok (false, rest)
  | '/' :: '>' :: rest => .ok (true, rest)
  | [] | ['/'] => .error .short
  | '/' :: rest => .error (.wrong rest)
  | cs => .error (.wrong cs)

/-- The attributes of a tag up to its end, and whether it closes its element. Space
    stands before each of them. -/
def rawAttributes? : (fuel : Nat) → List Char → Except Gap ((List RawAttribute × Bool) × List Char)
  | 0, _ => .error .short
  | fuel + 1, cs => do
    let inside := cs.dropWhile isSpace
    if cs.head?.any isSpace && inside.head?.any startsName then
      let (name, rest) ← pairedName? inside
      let (_, rest) ← sought? '=' '=' rest
      let (quote, opened) ← sought? '\x22' '\x27' rest
      let (value, rest) ← rawValue? quote (opened.length + 1) opened
      let ((more, closed), last) ← rawAttributes? fuel rest
      .ok ((⟨name, value, inside, opened⟩ :: more, closed), last)
    else
      let (closed, rest) ← tagEnd? inside
      .ok (([], closed), rest)

/-- The name of a closing tag, which may have several colons, and its end. -/
def closingTag? (cs : List Char) : Except Gap (Part × List Char) := do
  let (first, rest) ← plainName? cs
  let isRest (c : Char) : Bool := continuesName c || c == ':'
  let name := first ++ rest.takeWhile isRest
  let (_, last) ← sought? '>' '>' (rest.dropWhile isRest)
  .ok (.closing name, last)

/-! ## Remarks and instructions -/

/-- The text after a remark, after its opening. -/
def afterRemark? : List Char → Except Gap (Part × List Char)
  | [] | ['-'] | ['-', '-'] => .error .short
  | '-' :: '-' :: '>' :: rest => .ok (.remark, rest)
  | '-' :: '-' :: rest => .error (.wrong rest)
  | c :: cs => if isForbidden c then .error (.wrong (c :: cs)) else afterRemark? cs

/-- The text of an instruction up to its end. -/
def instructionText? : List Char → Except Gap (List Char × List Char)
  | [] | ['?'] => .error .short
  | '?' :: '>' :: rest => .ok ([], rest)
  | c :: cs =>
    if isForbidden c then .error (.wrong (c :: cs))
    else do
      let (text, rest) ← instructionText? cs
      .ok (c :: text, rest)

/-- An instruction after its opening. One with the name of the declaration of markup is
    that. -/
def anyInstruction? (cs : List Char) : Except Gap (Part × List Char) := do
  let (target, rest) ← plainName? cs
  let isMarkup := (String.ofList target).toLower == "xml"
  match rest with
  | [] => .error .short
  | c :: tail =>
    if !isSpace c && c != '?' then .error (.wrong rest)
    else if isMarkup && target != "xml".toList then .error (.wrong rest)
    else
      let part (said : List Char) : Part := if isMarkup then .declaration said else .remark
      if isSpace c then
        let (text, last) ← instructionText? tail
        .ok (part (c :: text), last)
      else
        match tail with
        | '>' :: last => .ok (part [], last)
        | [] => .error .short
        | _ => .error (.wrong tail)

/-- What follows `<!` in the content of an element. -/
def section? : List Char → Except Gap (Part × List Char)
  | '-' :: '-' :: rest => afterRemark? rest
  | ['-'] | [] => .error .short
  | '-' :: rest => .error (.wrong rest)
  | '[' :: rest =>
    let word := "CDATA[".toList
    let fits := ((rest.zip word).takeWhile fun (a, b) => a == b).length
    if (String.ofList rest).utf8ByteSize < word.length then .error .short
    else if fits == word.length then .ok (.section, rest.drop fits)
    else .error (.wrong (rest.drop fits))
  | cs => .error (.wrong cs)

/-! ## Parts -/

/-- Literal text up to the next tag or reference. The end of a literal section may not
    stand in it. -/
def literal? : List Char → Except Gap (List Char × List Char)
  | [] => .ok ([], [])
  | ']' :: ']' :: '>' :: rest => .error (.wrong ('>' :: rest))
  | c :: cs =>
    if c == '<' || c == '&' || isForbidden c then .ok ([], c :: cs)
    else do
      let (text, rest) ← literal? cs
      .ok (c :: text, rest)

/-- The first part of the content of an element. -/
def part? : List Char → Except Gap (Part × List Char)
  | '<' :: '!' :: rest => section? rest
  | '<' :: '?' :: rest => anyInstruction? rest
  | '<' :: '/' :: rest => closingTag? rest
  | '<' :: rest => do
    let (name, rest) ← pairedName? rest
    let ((attributes, closed), last) ← rawAttributes? (rest.length + 1) rest
    .ok (.opening name attributes closed, last)
  | '&' :: rest => anyReference? rest
  | cs =>
    if cs.head?.any isForbidden then .error (.wrong cs)
    else (literal? cs).map fun (text, rest) => (.text (unifyEnds text), rest)

/-- The text of a literal section after its opening, up to its end, and where the text
    ends too early, what is left before the end. -/
def sectionText? : List Char → Except Stop (List Char × List Char)
  | [] => .error ⟨.unclosedSection, 0⟩
  | [']'] => .error ⟨.unclosedSection, 1⟩
  | [']', ']'] => .error ⟨.unclosedSection, 2⟩
  | ['\r'] => .error ⟨.unclosedSection, 1⟩
  | ']' :: ']' :: '>' :: rest => .ok ([], rest)
  | c :: cs =>
    if isForbidden c then .error ⟨.badToken, cs.length + 1⟩
    else (sectionText? cs).map fun (text, rest) => (c :: text, rest)

/-- The fault of a part, with the text from its start on. -/
def Gap.stop (start : List Char) : Gap → Stop
  | .wrong place => ⟨.badToken, place.length⟩
  | .short => ⟨.unclosedToken, start.length⟩

end Manuscript.Xml
