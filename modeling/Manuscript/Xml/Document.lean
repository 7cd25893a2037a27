import Manuscript.Xml.Namespace
import Manuscript.Xml.Prolog

/-!
# Markup documents

`document?` reads a text with one element: what stands before it, its content, and the
remarks after it. Tags must pair, prefixes must be declared, and no element has an
attribute twice. The tree has all names as they are written.

* A reference to an entity stands for the text of the entity, tags in it included, as
  long as they pair.
* Entities may make a document longer, but not without end.
-/

namespace Manuscript.Xml

/-- Why a prefix, empty for elements without one, may not stand for a namespace. -/
def bindingFlaw? (mark uri : String) : Option Flaw :=
  if uri.isEmpty && !mark.isEmpty then some .emptiedPrefix
  else if mark == "xmlns" then some .declarationPrefix
  else if uri.toList.contains '\x7d' then some .badNamespace
  else if mark == "xml" then if uri == markupNamespace then none else some .markupPrefix
  else if uri == markupNamespace || uri == declarationNamespace then some .reservedNamespace
  else none

/-- The attributes of a tag with their values, in the order they are given in, and the
    prefixes in scope after their declarations. -/
def givenAttributes? (d : Declared) (start : List Char) :
    List RawAttribute → (done : List (String × String)) → Scope →
      Except Stop (List (String × String) × Scope)
  | [], done, scope => .ok (done, scope)
  | a :: rest, done, scope => do
    let name := String.ofList a.name
    if done.any fun e => e.1 == name then throw ⟨.duplicateAttribute, a.nameRest.length⟩
    let fuel := 100 * (a.value.length + 1) + 10000
    let value ← valueText? d (some (a.value, a.valueRest)) start fuel [] a.value
    let scope ← declare (declared? name) (String.ofList value) scope
    givenAttributes? d start rest (done ++ [(name, String.ofList value)]) scope
where
  /-- The prefixes in scope after an attribute that may declare one. -/
  declare (mark : Option String) (uri : String) (scope : Scope) : Except Stop Scope :=
    match mark with
    | none => .ok scope
    | some m =>
      match bindingFlaw? m uri with
      | some flaw => .error ⟨flaw, start.length⟩
      | none => .ok ((m, uri) :: scope)

/-- The attributes that an element has without their being given. -/
def impliedAttributes (d : Declared) (element : List Char) (given : List (String × String)) :
    List (String × String) :=
  d.defaults.filterMap fun (e, name, value) =>
    if e == element && !given.any fun a => a.1 == String.ofList name then
      value.map fun v => (String.ofList name, String.ofList v)
    else none

/-- Resolves the prefixes of attributes, of which some have been resolved before. -/
def resolveAttributes? (scope : Scope) (start : List Char) :
    List String → List (String × String) → Except Stop Unit
  | [], _ => .ok ()
  | name :: rest, done =>
    let (mark, localName) := splitName name
    if mark.isEmpty || (declared? name).isSome then resolveAttributes? scope start rest done
    else
      match scope.namespace? mark with
      | none => .error ⟨.unboundPrefix, start.length⟩
      | some uri =>
        if done.contains (uri, localName) then .error ⟨.duplicateAttribute, start.length⟩
        else resolveAttributes? scope start rest ((uri, localName) :: done)

/-- The attributes of an element, and the prefixes in scope inside it, if its tag is in
    order. -/
def scopeInside? (d : Declared) (scope : Scope) (name : List Char)
    (attributes : List RawAttribute) (start : List Char) :
    Except Stop (List (String × String) × Scope) := do
  let (given, inner) ← givenAttributes? d start attributes [] scope
  let implied := impliedAttributes d name given
  let inner ← implied.foldlM
    (fun scope a => givenAttributes?.declare start (declared? a.1) a.2 scope) inner
  resolveAttributes? inner start ((given ++ implied).map (·.1)) []
  let mark := (splitName (String.ofList name)).1
  if mark.isEmpty || (inner.namespace? mark).isSome then .ok (given ++ implied, inner)
  else .error ⟨.unboundPrefix, start.length⟩

/-! ## Content -/

/-- An element that is not closed yet. -/
structure OpenElement where
  /-- The name in its tag. -/
  name : List Char
  /-- Its attributes. -/
  attributes : List (String × String)
  /-- The prefixes declared in it and around it. -/
  scope : Scope
  /-- Its content so far, the last part first. -/
  content : List Tree

/-- Adds a part to the content; text joins text. -/
def OpenElement.add (e : OpenElement) (t : Tree) : OpenElement :=
  match t, e.content with
  | .text s, .text r :: rest => { e with content := .text (r ++ s) :: rest }
  | .text s, rest => if s.isEmpty then e else { e with content := .text s :: rest }
  | t, rest => { e with content := t :: rest }

/-- Adds text to the content. -/
def OpenElement.addText (e : OpenElement) (cs : List Char) : OpenElement :=
  e.add (.text (String.ofList cs))

/-- The element. -/
def OpenElement.tree (e : OpenElement) : Tree :=
  .element (String.ofList e.name) e.attributes e.content.reverse

/-- The most characters that the texts of entities may add to a document. -/
def maxExpansion : Nat := 8 * 1024 * 1024

/-- Reads the content of an element inside of others, and of the elements in it. The text
    is that of the document, which is read up to the end of its element, or that of an
    entity, which is read to the end. `spent` counts the characters that entities have
    added. -/
def content? (d : Declared) : (fuel : Nat) → (entities : List (List Char)) → (spent : Nat) →
    OpenElement → List OpenElement → List Char → Except Stop (OpenElement × Nat × List Char)
  | 0, _, _, _, _, cs => .error ⟨.amplified, cs.length⟩
  | fuel + 1, entities, spent, e, outer, cs =>
    match cs with
    | [] =>
      if entities.isEmpty then .error ⟨.noElement, 0⟩
      else if outer.isEmpty then .ok (e, spent, [])
      else .error ⟨.brokenEntity, 0⟩
    | _ =>
      match part? cs with
      | .error gap => .error (gap.stop cs)
      | .ok (part, rest) =>
        match part with
        | .text text =>
          if rest.isEmpty && entities.isEmpty then
            .error ⟨.noElement, if cs.getLast? == some '\r' then 1 else 0⟩
          else content? d fuel entities spent (e.addText text) outer rest
        | .character none => .error ⟨.badCharacter, cs.length⟩
        | .character (some c) => content? d fuel entities spent (e.addText [c]) outer rest
        | .remark => content? d fuel entities spent e outer rest
        | .declaration _ => .error ⟨.lateDeclaration, cs.length⟩
        | .section => do
          let (text, rest) ← sectionText? rest
          content? d fuel entities spent (e.addText (unifyEnds text)) outer rest
        | .entity name =>
          match standardEntity? name, d.entity? name with
          | some c, _ => content? d fuel entities spent (e.addText [c]) outer rest
          | none, none =>
            if d.isComplete then .error ⟨.undefinedEntity, cs.length⟩
            else .error ⟨.unknownEntity (String.ofList name), cs.length⟩
          | none, some kind =>
            if entities.contains name then .error ⟨.recursiveEntity, cs.length⟩
            else
              match kind with
              | .binary => .error ⟨.binaryEntity, cs.length⟩
              | .distant => .error ⟨.unknownEntity (String.ofList name), cs.length⟩
              | .literal text =>
                let spent := spent + text.length
                if spent > maxExpansion then .error ⟨.amplified, cs.length⟩
                else
                  match content? d fuel (name :: entities) spent e [] text with
                  | .error stop => .error ⟨stop.flaw, cs.length⟩
                  | .ok (e, spent, _) => content? d fuel entities spent e outer rest
        | .opening name attributes closed => do
          let (attributes, scope) ← scopeInside? d e.scope name attributes cs
          let inner : OpenElement := ⟨name, attributes, scope, []⟩
          if closed then
            if entities.isEmpty && outer.isEmpty then .ok (e.add inner.tree, spent, rest)
            else content? d fuel entities spent (e.add inner.tree) outer rest
          else content? d fuel entities spent inner (e :: outer) rest
        | .closing name =>
          match outer with
          | [] => .error ⟨.brokenEntity, cs.length⟩
          | f :: outer =>
            if name != e.name then .error ⟨.mismatchedTag, cs.length - 2⟩
            else if entities.isEmpty && outer.isEmpty then .ok (f.add e.tree, spent, rest)
            else content? d fuel entities spent (f.add e.tree) outer rest

/-- Reads what stands after the element of a document: space, remarks and
    instructions. -/
def epilog? : (fuel : Nat) → List Char → Except Stop Unit
  | 0, cs => .error ⟨.trailing, cs.length⟩
  | fuel + 1, cs =>
    match piece? cs with
    | .error gap => .error (gap.stop cs)
    | .ok (none, _) => .ok ()
    | .ok (some .space, rest) | .ok (some .remark, rest) => epilog? fuel rest
    | .ok _ => .error ⟨.trailing, cs.length⟩

/-- The element of a document, without a byte order mark before it. -/
def element? (cs : List Char) : Except Stop Tree := do
  let cs :=
    match cs with
    | '\ufeff' :: rest => rest
    | cs => cs
  let (declared, body) ← prolog? (cs.length + 1) {} cs
  let texts := declared.entities.map fun e =>
    match e.2 with
    | .literal text => text.length + 1
    | _ => 0
  let fuel := cs.length + texts.foldr (· + ·) 0 + 2
  let (outermost, _, rest) ← content? declared fuel [] 0 ⟨[], [], [("xml", markupNamespace)], []⟩ [] body
  epilog? (rest.length + 1) rest
  match outermost.content with
  | t :: _ => .ok t
  | [] => .error ⟨.noElement, 0⟩

/-- The element of a markup document. -/
def document? (text : String) : Except Fault Tree :=
  (element? text.toList).mapError (Fault.ofStop text.toList)

namespace Tree

/-- The text of an element before its first child element. -/
def leadingText (t : Tree) : String :=
  String.join (((t.content.takeWhile fun c => !c.isElement)).map fun c =>
    match c with
    | text s => s
    | _ => "")

mutual

/-- An element and the elements in it, in the order of their opening tags. -/
def elements : Tree → List Tree
  | element name attributes content => element name attributes content :: elementsIn content
  | text _ | remark _ => []

/-- The elements in some trees, in the order of their opening tags. -/
def elementsIn : List Tree → List Tree
  | [] => []
  | t :: rest => t.elements ++ elementsIn rest

end

end Tree

end Manuscript.Xml
