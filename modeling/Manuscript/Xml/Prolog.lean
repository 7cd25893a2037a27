import Manuscript.Xml.Lexis

/-!
# Prologs

What may stand before the element of a document: a declaration of markup, remarks,
instructions and the declaration of a document type. The latter may declare entities,
the content of elements, the values that attributes have when they are not given, and
notations. `prolog?` reads a prolog and keeps the entities and the values.

* The first declaration of an entity or a value holds.
* What is declared elsewhere is not looked up. After a reference to it, further
  declarations say nothing, unless the document stands alone.
-/

namespace Manuscript.Xml

/-! ## Tokens -/

/-- What kind of name a word is. -/
inductive WordKind where
  /-- A name without a colon. -/
  | name
  /-- A name with one colon between its parts. -/
  | paired
  /-- Characters of names in any order. -/
  | token
  deriving DecidableEq, Repr

/-- A token of a prolog. -/
inductive Piece where
  | space
  | remark
  /-- A declaration of markup, with the text in it. -/
  | declaration (said : List Char)
  /-- The start of the document's element. -/
  | element
  /-- The start of a declaration, with its word. -/
  | opening (word : List Char)
  /-- The end of a declaration. -/
  | close
  /-- A section that depends on a condition. -/
  | condition
  | percent
  | parameter
  | comma
  | bar
  | openBracket
  | closeBracket
  | openParen
  /-- A closing parenthesis, with a mark of repetition after it. -/
  | closeParen (mark : Option Char)
  /-- A word after a number sign. -/
  | pound (name : List Char)
  /-- A text between quotes, and the prolog from it on. -/
  | literal (cs rest : List Char)
  | word (kind : WordKind) (cs : List Char)
  /-- A name with a mark of repetition after it. -/
  | marked
  deriving DecidableEq, Repr

/-- A character that may stand after a word. -/
def endsPiece (c : Char) : Bool := isSpace c || ">),|[%".toList.contains c

/-- The rest of a word, of which some characters are read. -/
def wordPiece? : (fuel : Nat) → WordKind → List Char → List Char →
    Except Gap (Piece × List Char)
  | 0, _, _, _ => .error .short
  | _, kind, done, [] => .ok (.word kind done.reverse, [])
  | fuel + 1, kind, done, c :: cs =>
    if continuesName c then wordPiece? fuel kind (c :: done) cs
    else if c == ':' then
      match kind, cs with
      | .name, [] => .error .short
      | .name, d :: rest =>
        if continuesName d then wordPiece? fuel .paired (d :: c :: done) rest
        else if 0x80 ≤ d.toNat then .error (.wrong cs)
        else wordPiece? fuel .token (c :: done) cs
      | _, _ => wordPiece? fuel .token (c :: done) cs
    else if endsPiece c then .ok (.word kind done.reverse, c :: cs)
    else if (c == '+' || c == '*' || c == '?') && kind != .token then .ok (.marked, cs)
    else .error (.wrong (c :: cs))

/-- A text between quotes, after the first quote. -/
def literalPiece? (quote : Char) (cs : List Char) : Except Gap (Piece × List Char) :=
  let isText (c : Char) : Bool := c != quote && !isForbidden c
  match cs.dropWhile isText with
  | [] => .error .short
  | c :: rest =>
    if c != quote then .error (.wrong (c :: rest))
    else if rest.head?.all fun d => isSpace d || ">%[".toList.contains d then
      .ok (.literal (cs.takeWhile isText) cs, rest)
    else .error (.wrong rest)

/-- What follows `<!` in a prolog. -/
def declarationPiece? : List Char → Except Gap (Piece × List Char)
  | '-' :: '-' :: rest => (afterRemark? rest).map fun (_, last) => (.remark, last)
  | ['-'] | [] => .error .short
  | '-' :: rest => .error (.wrong rest)
  | '[' :: rest => .ok (.condition, rest)
  | cs =>
    let isLetter (c : Char) : Bool := c.isAlpha || c == '_'
    let word := cs.takeWhile isLetter
    match cs.dropWhile isLetter with
    | [] => .error .short
    | c :: rest =>
      let stops := match rest with
        | [] => false
        | d :: _ => isSpace d || d == '%'
      if word.isEmpty then .error (.wrong (c :: rest))
      else if c == '%' then
        if rest.isEmpty then .error .short
        else if stops then .error (.wrong (c :: rest))
        else .ok (.opening word, c :: rest)
      else if isSpace c then .ok (.opening word, c :: rest)
      else .error (.wrong (c :: rest))

/-- A name up to a semicolon. -/
def parameterPiece? (cs : List Char) : Except Gap (Piece × List Char) := do
  let (_, rest) ← plainName? cs
  match rest with
  | ';' :: rest => .ok (.parameter, rest)
  | [] => .error .short
  | rest => .error (.wrong rest)

/-- The first token of a prolog; none at the end of the text. -/
def piece? : List Char → Except Gap (Option Piece × List Char)
  | [] => .ok (none, [])
  | '<' :: '!' :: rest => (declarationPiece? rest).map fun (p, last) => (some p, last)
  | '<' :: '?' :: rest =>
    (anyInstruction? rest).map fun (part, last) =>
      match part with
      | .declaration said => (some (.declaration said), last)
      | _ => (some .remark, last)
  | '<' :: rest =>
    match rest with
    | [] => .error .short
    | c :: _ =>
      if c.isAlpha || c == '_' || 0x80 ≤ c.toNat then .ok (some .element, '<' :: rest)
      else .error (.wrong rest)
  | '%' :: rest =>
    match rest with
    | [] => .error .short
    | c :: _ =>
      if isSpace c || c == '%' then .ok (some .percent, rest)
      else (parameterPiece? rest).map fun (p, last) => (some p, last)
  | ')' :: rest =>
    match rest with
    | [] => .ok (some (.closeParen none), rest)
    | c :: tail =>
      if c == '*' || c == '?' || c == '+' then .ok (some (.closeParen (some c)), tail)
      else if isSpace c || ">,|)".toList.contains c then .ok (some (.closeParen none), rest)
      else .error (.wrong rest)
  | ']' :: rest =>
    match rest with
    | [']'] => .error .short
    | ']' :: '>' :: last => .ok (some .condition, last)
    | _ => .ok (some .closeBracket, rest)
  | '#' :: rest => do
    let (name, last) ← plainName? rest
    if last.head?.all fun d => isSpace d || ")>%|".toList.contains d then
      .ok (some (.pound name), last)
    else .error (.wrong last)
  | c :: rest =>
    let one (p : Piece) : Except Gap (Option Piece × List Char) := .ok (some p, rest)
    if isSpace c then .ok (some .space, rest.dropWhile isSpace)
    else if c == '\x22' || c == '\x27' then
      (literalPiece? c rest).map fun (p, last) => (some p, last)
    else if c == ',' then one .comma
    else if c == '[' then one .openBracket
    else if c == '(' then one .openParen
    else if c == '|' then one .bar
    else if c == '>' then one .close
    else
      let kind? : Option WordKind :=
        if startsName c then some .name
        else if continuesName c || c == ':' then some .token
        else none
      match kind? with
      | some kind =>
        (wordPiece? (rest.length + 1) kind [c] rest).map fun (p, last) => (some p, last)
      | none => .error (.wrong (c :: rest))

/-! ## Order -/

/-- What has been read of a prolog, so far as it decides what may stand next. -/
inductive Stage where
  /-- Nothing. -/
  | start
  /-- Something before the document type. -/
  | front
  /-- The document type. -/
  | back
  | typeOpened
  | typeNamed
  | typePublic
  | typeSystem
  | typePlaced
  | typeDeclared
  /-- The inside of the declaration of the document type. -/
  | inside
  | entityOpened
  | entityNamed
  | entityPublic
  | entitySystem
  | entityPlaced
  | entityNotation
  | parameterOpened
  | parameterNamed
  | parameterPublic
  | parameterSystem
  | parameterPlaced
  | notationOpened
  | notationNamed
  | notationPublic
  | notationSystem
  | notationPlaced
  | listOpened
  | listItem
  | listKind
  | listChoice
  | listChosen
  | listNotation
  | listNotationChoice
  | listNotationChosen
  | listDefault
  | listFixed
  | elementOpened
  | elementNamed
  | elementGroup
  | mixedStart
  | mixedChoice
  | mixedChosen
  /-- Inside some groups, before a name. A group holds a choice, or else a sequence, as
      soon as it has two members. -/
  | modelItem (groups : List (Option Bool))
  /-- Inside some groups, after a name. -/
  | modelNamed (groups : List (Option Bool))
  /-- All of a declaration but its end. -/
  | declared
  deriving DecidableEq, Repr

/-- The kinds of value that attributes can have. -/
def valueKinds : List String :=
  ["CDATA", "ID", "IDREF", "IDREFS", "ENTITY", "ENTITIES", "NMTOKEN", "NMTOKENS"]

/-- A name with or without a colon. -/
def Piece.isName : Piece → Bool
  | word .name _ | word .paired _ => true
  | _ => false

/-- The text of a name without a colon. -/
def Piece.plain? : Piece → Option String
  | word .name cs => some (String.ofList cs)
  | _ => none

/-- A literal text. -/
def Piece.isLiteral : Piece → Bool
  | literal _ _ => true
  | _ => false

/-- The place in a model of content after a group inside others. -/
def Stage.afterGroup (outer : List (Option Bool)) : Stage :=
  if outer.isEmpty then declared else modelNamed outer

/-- The place in a group after a mark between its members, which is always the same. -/
def Stage.afterMark (isChoice : Bool) : List (Option Bool) → Option Stage
  | [] => none
  | g :: outer => if g == some !isChoice then none else some (modelItem (some isChoice :: outer))

/-- What has been read after one more token, unless it may not stand there. Space may
    stand everywhere. -/
def Stage.next (s : Stage) (p : Piece) : Option Stage :=
  let literalTo (t : Stage) : Option Stage := if p.isLiteral then some t else none
  let nameTo (t : Stage) : Option Stage := if p.isName then some t else none
  let plainTo (t : Stage) : Option Stage := if p.plain?.isSome then some t else none
  let place (system elsewhere : Stage) : Option Stage :=
    match p.plain? with
    | some "SYSTEM" => some system
    | some "PUBLIC" => some elsewhere
    | _ => none
  match p, s with
  | .space, .start => some .front
  | .space, _ => some s
  | .remark, .start | .remark, .front => some .front
  | .remark, .back => some .back
  | .remark, .inside => some .inside
  | .declaration _, .start => some .front
  | .opening word, .start | .opening word, .front =>
    if word == "DOCTYPE".toList then some .typeOpened else none
  | .opening word, .inside =>
    match String.ofList word with
    | "ENTITY" => some .entityOpened
    | "ATTLIST" => some .listOpened
    | "ELEMENT" => some .elementOpened
    | "NOTATION" => some .notationOpened
    | _ => none
  | .parameter, .inside => some .inside
  | .closeBracket, .inside => some .typeDeclared
  | _, .typeOpened => nameTo .typeNamed
  | .openBracket, .typeNamed | .openBracket, .typePlaced => some .inside
  | .close, .typeNamed | .close, .typePlaced | .close, .typeDeclared => some .back
  | _, .typeNamed => place .typeSystem .typePublic
  | _, .typePublic => literalTo .typeSystem
  | _, .typeSystem => literalTo .typePlaced
  | .percent, .entityOpened => some .parameterOpened
  | _, .entityOpened => plainTo .entityNamed
  | .literal _ _, .entityNamed => some .declared
  | _, .entityNamed => place .entitySystem .entityPublic
  | _, .entityPublic => literalTo .entitySystem
  | _, .entitySystem => literalTo .entityPlaced
  | .close, .entityPlaced => some .inside
  | _, .entityPlaced => if p.plain? == some "NDATA" then some .entityNotation else none
  | _, .entityNotation => plainTo .declared
  | _, .parameterOpened => plainTo .parameterNamed
  | .literal _ _, .parameterNamed => some .declared
  | _, .parameterNamed => place .parameterSystem .parameterPublic
  | _, .parameterPublic => literalTo .parameterSystem
  | _, .parameterSystem => literalTo .parameterPlaced
  | .close, .parameterPlaced => some .inside
  | _, .notationOpened => plainTo .notationNamed
  | _, .notationNamed => place .notationSystem .notationPublic
  | _, .notationPublic => literalTo .notationPlaced
  | _, .notationSystem => literalTo .declared
  | .close, .notationPlaced => some .inside
  | _, .notationPlaced => literalTo .declared
  | _, .listOpened => nameTo .listItem
  | .close, .listItem => some .inside
  | _, .listItem => nameTo .listKind
  | .openParen, .listKind => some .listChoice
  | _, .listKind =>
    match p.plain? with
    | some "NOTATION" => some .listNotation
    | some kind => if valueKinds.contains kind then some .listDefault else none
    | none => none
  | .word _ _, .listChoice => some .listChosen
  | .closeParen none, .listChosen | .closeParen none, .listNotationChosen => some .listDefault
  | .bar, .listChosen => some .listChoice
  | .openParen, .listNotation => some .listNotationChoice
  | _, .listNotationChoice => plainTo .listNotationChosen
  | .bar, .listNotationChosen => some .listNotationChoice
  | .pound name, .listDefault =>
    match String.ofList name with
    | "IMPLIED" | "REQUIRED" => some .listItem
    | "FIXED" => some .listFixed
    | _ => none
  | _, .listDefault | _, .listFixed => literalTo .listItem
  | _, .elementOpened => nameTo .elementNamed
  | .openParen, .elementNamed => some .elementGroup
  | _, .elementNamed =>
    match p.plain? with
    | some "EMPTY" | some "ANY" => some .declared
    | _ => none
  | .pound name, .elementGroup => if name == "PCDATA".toList then some .mixedStart else none
  | .openParen, .elementGroup => some (.modelItem [none, none])
  | .marked, .elementGroup => some (.modelNamed [none])
  | _, .elementGroup => nameTo (.modelNamed [none])
  | .closeParen none, .mixedStart | .closeParen (some '*'), .mixedStart
  | .closeParen (some '*'), .mixedChosen => some .declared
  | .bar, .mixedStart | .bar, .mixedChosen => some .mixedChoice
  | _, .mixedChoice => nameTo .mixedChosen
  | .openParen, .modelItem groups => some (.modelItem (none :: groups))
  | .marked, .modelItem groups => some (.modelNamed groups)
  | _, .modelItem groups => nameTo (.modelNamed groups)
  | .closeParen _, .modelNamed groups => some (Stage.afterGroup groups.tail)
  | .comma, .modelNamed groups => Stage.afterMark false groups
  | .bar, .modelNamed groups => Stage.afterMark true groups
  | .close, .declared => some .inside
  | _, _ => none

/-! ## Declarations -/

/-- What an entity is. -/
inductive EntityKind where
  /-- A text. -/
  | literal (cs : List Char)
  /-- A text that stands elsewhere. -/
  | distant
  /-- No text. -/
  | binary
  deriving Repr

/-- What a prolog declares. -/
structure Declared where
  /-- The entities. -/
  entities : List (List Char × EntityKind) := []
  /-- The values that attributes of elements have if they are not given. -/
  defaults : List (List Char × List Char × Option (List Char)) := []
  /-- Whether something may be declared elsewhere. -/
  isOpen : Bool := false
  /-- Whether the document says that it stands alone. -/
  standsAlone : Bool := false
  /-- Whether further declarations say something. -/
  listens : Bool := true

/-- Whether an entity that is not declared must be a mistake. -/
def Declared.isComplete (d : Declared) : Bool := !d.isOpen || d.standsAlone

/-- The entity with a name. -/
def Declared.entity? (d : Declared) (name : List Char) : Option EntityKind :=
  (d.entities.find? fun e => e.1 == name).map (·.2)

/-- The text of the value of an entity: references to characters are those characters,
    and others stay. The text is so many characters longer than it seems. -/
def entityText? (after : Nat) : (fuel : Nat) → List Char → Except Stop (List Char)
  | 0, _ | _, [] => .ok []
  | fuel + 1, c :: cs =>
    let left := cs.length + 1 + after
    let ofGap (g : Gap) : Stop :=
      match g with
      | .wrong place => ⟨.badToken, place.length + after⟩
      | .short => ⟨.badToken, left⟩
    if c == '%' then
      match parameterPiece? cs with
      | .ok _ => .error ⟨.parameterReference, left⟩
      | .error g =>
        if cs.head?.any fun d => isSpace d || d == '%' then .error ⟨.badToken, cs.length + after⟩
        else .error (ofGap g)
    else if c == '&' then
      match anyReference? cs with
      | .error g => .error (ofGap g)
      | .ok (.character none, _) => .error ⟨.badCharacter, left⟩
      | .ok (.character (some d), rest) => (entityText? after fuel rest).map (d :: ·)
      | .ok (_, rest) =>
        (entityText? after fuel rest).map ((c :: cs.take (cs.length - rest.length)) ++ ·)
    else (entityText? after fuel cs).map (c :: ·)

/-- The text of the value of an attribute: references are what they stand for, and
    breaks are spaces. An entity that may be declared elsewhere stands for nothing. `whole`
    is the whole value, and the document from it on. Inside the text of an entity places
    are not told apart, and flaws lie at `start`. -/
def valueText? (d : Declared) (whole : Option (List Char × List Char)) (start : List Char) :
    (fuel : Nat) → List (List Char) → List Char → Except Stop (List Char)
  | 0, _, _ => .error ⟨.amplified, start.length⟩
  | _, _, [] => .ok []
  | fuel + 1, inside, c :: cs =>
    let stop (flaw : Flaw) (rest : List Char) : Except Stop (List Char) :=
      match whole with
      | none => .error ⟨flaw, start.length⟩
      | some (value, document) => .error ⟨flaw, document.length + rest.length - value.length⟩
    if c == '<' then stop .badToken (c :: cs)
    else if c == '&' then
      match anyReference? cs with
      | .error (.wrong rest) => stop .badToken rest
      | .error .short => stop .badToken (c :: cs)
      | .ok (.character none, _) => stop .badCharacter (c :: cs)
      | .ok (.character (some r), rest) => (valueText? d whole start fuel inside rest).map (r :: ·)
      | .ok (.entity name, rest) =>
        match standardEntity? name, d.entity? name with
        | some r, _ => (valueText? d whole start fuel inside rest).map (r :: ·)
        | none, none =>
          if d.isComplete then .error ⟨.undefinedEntity, start.length⟩
          else valueText? d whole start fuel inside rest
        | none, some entity =>
          if inside.contains name then stop .recursiveEntity (c :: cs)
          else
            match entity with
            | .binary => stop .binaryEntity (c :: cs)
            | .distant => stop .distantInValue (c :: cs)
            | .literal text => do
              let here ← valueText? d none start fuel (name :: inside) text
              let more ← valueText? d whole start fuel inside rest
              .ok (here ++ more)
      | .ok _ => stop .badToken (c :: cs)
    else (valueText? d whole start fuel inside cs).map ((if isSpace c then ' ' else c) :: ·)

/-- The first character of a public identifier that may not stand in one, with the
    characters after it. -/
def badInIdentifier? (cs : List Char) : Option (List Char) :=
  let isGood (c : Char) : Bool :=
    c.isAlphanum || " \r\n-'()+,./:=?;!*#@$_%".toList.contains c
  match cs.dropWhile isGood with
  | [] => none
  | rest => some rest

/-- What has been read of a prolog. -/
structure Prolog where
  /-- What may stand next. -/
  stage : Stage := .start
  /-- What is declared. -/
  declared : Declared := {}
  /-- The name of the entity that is being declared. -/
  entity : List Char := []
  /-- The name of the element whose attributes are being declared. -/
  element : List Char := []
  /-- The name of the attribute that is being declared. -/
  key : List Char := []

namespace Prolog

/-- Declares what an entity is, unless it is declared already. -/
def declareEntity (s : Prolog) (kind : EntityKind) : Prolog :=
  let d := s.declared
  if !d.listens || (standardEntity? s.entity).isSome || (d.entity? s.entity).isSome then s
  else { s with declared := { d with entities := (s.entity, kind) :: d.entities } }

/-- Marks an entity that is declared elsewhere as no text. -/
def declareBinary (s : Prolog) : Prolog :=
  let d := s.declared
  let entities := d.entities.map fun e =>
    match e with
    | (name, .distant) => if name == s.entity then (name, EntityKind.binary) else e
    | e => e
  { s with declared := { d with entities } }

/-- Declares the value of an attribute that is not given, unless it is declared
    already. -/
def declareDefault (s : Prolog) (value : Option (List Char)) : Prolog :=
  let d := s.declared
  if d.defaults.any fun e => e.1 == s.element && e.2.1 == s.key then s
  else
    { s with declared := { d with defaults := d.defaults ++ [(s.element, s.key, value)] } }

/-- What a token says, at the start of a text. -/
def hear (s : Prolog) (p : Piece) (start : List Char) : Except Stop Prolog :=
  let d := s.declared
  let identifier (cs after : List Char) : Except Stop Prolog :=
    match badInIdentifier? cs with
    | some rest => .error ⟨.publicIdentifier, after.length - cs.length + rest.length⟩
    | none => .ok s
  match s.stage, p with
  | .inside, .parameter =>
    .ok { s with declared := { d with isOpen := true, listens := d.standsAlone } }
  | .typePublic, .literal cs after | .entityPublic, .literal cs after
  | .parameterPublic, .literal cs after | .notationPublic, .literal cs after =>
    identifier cs after
  | .typeSystem, .literal _ _ => .ok { s with declared := { d with isOpen := true } }
  | .entityOpened, .word _ name => .ok { s with entity := name }
  | .entityNamed, .literal cs after =>
    if !d.listens then .ok s
    else (entityText? (after.length - cs.length) (cs.length + 1) cs).map fun text =>
      s.declareEntity (.literal (unifyEnds text))
  | .parameterNamed, .literal cs after =>
    if !d.listens then .ok s
    else (entityText? (after.length - cs.length) (cs.length + 1) cs).map fun _ => s
  | .entitySystem, .literal _ _ => .ok (s.declareEntity .distant)
  | .entityNotation, .word _ _ => .ok (if d.listens then s.declareBinary else s)
  | .listOpened, .word _ name => .ok { s with element := name }
  | .listItem, .word _ name => .ok { s with key := name }
  | .listDefault, .literal cs after | .listFixed, .literal cs after =>
    if !d.listens then .ok s
    else
      let fuel := 100 * (cs.length + 1) + 10000
      (valueText? d (some (cs, after)) start fuel [] cs).map fun text =>
        s.declareDefault (some text)
  | .listDefault, .pound name =>
    .ok (if d.listens && name != "FIXED".toList then s.declareDefault none else s)
  | _, _ => .ok s

end Prolog

/-! ## Declarations of markup -/

/-- A part of a declaration of markup, if there is one more, and the text after it. The
    fault is the text from its place on. -/
def setting? (cs : List Char) : Except (List Char)
    (Option (List Char × List Char × List Char × List Char) × List Char) :=
  match cs with
  | [] => .ok (none, [])
  | c :: _ =>
    if !isSpace c then .error cs
    else
      match cs.dropWhile isSpace with
      | [] => .ok (none, [])
      | named =>
        let isName (c : Char) : Bool := c.toNat < 128 && c != '=' && !isSpace c
        let name := named.takeWhile isName
        match (named.dropWhile isName).dropWhile isSpace with
        | '=' :: rest =>
          if name.isEmpty then .error ('=' :: rest)
          else
            match rest.dropWhile isSpace with
            | quote :: rest =>
              if quote != '\x22' && quote != '\x27' then .error (quote :: rest)
              else
                let isPlain (c : Char) : Bool := c.isAlphanum || c == '.' || c == '-' || c == '_'
                let value := rest.takeWhile isPlain
                match rest.dropWhile isPlain with
                | [] => .error []
                | c :: last =>
                  if c == quote then .ok (some (name, named, value, rest), last)
                  else .error (c :: last)
            | [] => .error []
        | rest => .error rest

/-- Whether a document with a declaration of markup stands alone. A declaration gives the
    version, and then perhaps the encoding, and whether the document stands alone. The
    fault is the text from its place on. -/
def standsAlone? (cs : List Char) : Except (List Char) Bool := do
  let answer (found : Option (List Char × List Char × List Char × List Char))
      (rest : List Char) : Except (List Char) Bool :=
    match found with
    | none => .ok false
    | some (name, named, value, valued) =>
      if name != "standalone".toList then .error named
      else if value != "yes".toList && value != "no".toList then .error valued
      else if rest.all isSpace then .ok (value == "yes".toList)
      else .error (rest.dropWhile isSpace)
  match ← setting? cs with
  | (none, rest) => .error rest
  | (some (name, named, _, _), rest) =>
    if name != "version".toList then .error named
    else
      let (found, rest) ← setting? rest
      match found with
      | some (name, _, value, valued) =>
        if name == "encoding".toList then
          if value.head?.any Char.isAlpha then
            let (found, rest) ← setting? rest
            answer found rest
          else .error valued
        else answer found rest
      | none => .ok false

/-! ## Reading -/

/-- Reads a prolog up to the document's element: what it declares, and the text from
    there on. -/
def prolog? : (fuel : Nat) → Prolog → List Char → Except Stop (Declared × List Char)
  | 0, _, cs => .error ⟨.noElement, cs.length⟩
  | fuel + 1, s, cs =>
    match piece? cs with
    | .error gap => .error (gap.stop cs)
    | .ok (none, _) => .error ⟨.noElement, 0⟩
    | .ok (some .element, _) =>
      match s.stage with
      | .start | .front | .back => .ok (s.declared, cs)
      | _ => .error ⟨.misplaced, cs.length⟩
    | .ok (some p, rest) =>
      match s.stage.next p, p with
      | none, .parameter => .error ⟨.parameterReference, cs.length⟩
      | none, .declaration _ => .error ⟨.lateDeclaration, cs.length⟩
      | none, _ => .error ⟨.misplaced, cs.length⟩
      | some stage, .declaration said =>
        match standsAlone? said with
        | .error place => .error ⟨.badDeclaration, place.length + 2 + rest.length⟩
        | .ok alone =>
          prolog? fuel { s with stage, declared := { s.declared with standsAlone := alone } } rest
      | some stage, _ =>
        match s.hear p cs with
        | .error stop => .error stop
        | .ok s => prolog? fuel { s with stage } rest

end Manuscript.Xml
