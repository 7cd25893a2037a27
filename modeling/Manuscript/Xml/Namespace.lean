import Manuscript.Xml.Character

/-!
# Namespaces

Names in markup may have a prefix, which stands for a namespace. An attribute of the
name `xmlns`, or with that prefix, declares what a prefix stands for in an element, the
empty one for elements without a prefix. A namespace is a reference to a resource, of
which `isReference` knows the form.
-/

namespace Manuscript.Xml

/-- The namespace of markup itself. -/
def markupNamespace : String := "http://www.w3.org/XML/1998/namespace"

/-- The namespace of declarations of prefixes. -/
def declarationNamespace : String := "http://www.w3.org/2000/xmlns/"

/-- Prefixes and the namespaces they stand for, inner ones first. -/
abbrev Scope := List (String × String)

/-- The namespaces that have a customary prefix. -/
def customary : Scope :=
  [("w", "http://schemas.openxmlformats.org/wordprocessingml/2006/main"),
   ("m", "http://schemas.openxmlformats.org/officeDocument/2006/math"),
   ("xml", markupNamespace)]

/-- The parts of a name before and after its colon; without one, the first part is
    empty. -/
def splitName (name : String) : String × String :=
  let cs := name.toList
  match cs.dropWhile (· != ':') with
  | [] => ("", name)
  | _ :: rest => (String.ofList (cs.takeWhile (· != ':')), String.ofList rest)

/-- The prefix and local name joined. -/
def joined (mark localName : String) : String :=
  if mark.isEmpty then localName else mark ++ ":" ++ localName

/-- The namespace of a prefix. -/
def Scope.namespace? (scope : Scope) (mark : String) : Option String :=
  (scope.find? fun e => e.1 == mark).map (·.2)

/-- The prefix that an attribute declares. -/
def declared? (name : String) : Option String :=
  match splitName name with
  | ("", "xmlns") => some ""
  | ("xmlns", localName) => some localName
  | _ => none

/-! ## References to resources -/

/-- A character that stands for itself in every part of a reference, or parts it in a way
    that its part allows. -/
def isResourceChar (c : Char) : Bool :=
  c.isAlphanum || "-._~!$&\x27()*+,;=".toList.contains c

/-- The text after the longest run of characters that a part of a reference allows:
    those of all parts, escaped bytes, and some more. -/
def afterPart (more : List Char) : List Char → List Char
  | '%' :: a :: b :: cs =>
    if (hexValue? a).isSome && (hexValue? b).isSome then afterPart more cs
    else '%' :: a :: b :: cs
  | c :: cs => if isResourceChar c || more.contains c then afterPart more cs else c :: cs
  | [] => []

/-- Whether a text is the name of a host, with a user before it and a port after it. -/
def isAuthority (cs : List Char) : Bool :=
  let host :=
    match afterPart [':'] cs with
    | '@' :: rest => rest
    | _ => cs
  let after :=
    match host with
    | '[' :: rest => (rest.dropWhile (· != ']')).drop 1
    | _ => afterPart [] host
  match after with
  | [] => true
  | ':' :: port => port.all Char.isDigit
  | _ => false

/-- Whether a text may follow the path of a reference: a query and a fragment. -/
def endsReference (cs : List Char) : Bool :=
  let rest :=
    match cs with
    | '?' :: query => afterPart [':', '@', '/', '?'] query
    | _ => cs
  match rest with
  | '#' :: fragment => (afterPart [':', '@', '/', '?', '[', ']'] fragment).isEmpty
  | [] => true
  | _ => false

/-- Whether a text may follow the scheme of a reference. -/
def isHierarchy (cs : List Char) : Bool :=
  match cs with
  | '/' :: '/' :: rest =>
    let isEnd (c : Char) : Bool := c == '/' || c == '?' || c == '#'
    isAuthority (rest.takeWhile fun c => !isEnd c)
      && endsReference (afterPart [':', '@', '/'] (rest.dropWhile fun c => !isEnd c))
  | _ => endsReference (afterPart [':', '@', '/'] cs)

/-- Whether a text has the form of a reference to a resource. The first part of a path
    without a scheme has no colon. -/
def isReference (s : String) : Bool :=
  let cs := s.toList
  let isScheme (c : Char) : Bool := c.isAlphanum || c == '+' || c == '-' || c == '.'
  let hasScheme :=
    cs.head?.any Char.isAlpha
      && match cs.dropWhile isScheme with
        | ':' :: rest => isHierarchy rest
        | _ => false
  hasScheme || (!(cs.takeWhile fun c => c != '/' && c != '?' && c != '#').contains ':' && isHierarchy cs)
    || (match cs with
      | '/' :: '/' :: _ => isHierarchy cs
      | _ => false)

end Manuscript.Xml
