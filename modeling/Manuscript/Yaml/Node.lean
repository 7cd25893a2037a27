import Manuscript.Yaml.Token

/-!
# Nodes of YAML

A document is made of *nodes*: scalars, sequences and mappings, each with the tag it
was given, if any. `document?` reads the one document of a text from its tokens. A node
with an anchor stands apart, under that name, and both the place where it is written
and its aliases refer to it. An alias must come after the anchor, but may stand inside
the node that it names.
-/

namespace Manuscript.Yaml

/-- A node. A tag is kept as it was given, its handle resolved; the tag `!` and no tag
    are both `none`. -/
inductive Node where
  /-- A scalar; `plain` if its text may decide its type. No two scalars of a document
      have one place. -/
  | scalar (tag : Option String) (text : String) (plain : Bool) (place : Nat)
  /-- A sequence. -/
  | sequence (tag : Option String) (items : List Node)
  /-- A mapping, each entry with its key. -/
  | mapping (tag : Option String) (entries : List (Node × Node))
  /-- The node with an anchor. -/
  | named (anchor : String)
  deriving Inhabited

/-- A document: its outermost node, and the nodes with anchors. -/
structure Document where
  /-- The outermost node. -/
  root : Node
  /-- The nodes with anchors, by the anchors. -/
  anchored : List (String × Node)

/-- What a node is read with: the tokens left and the nodes that have anchors. An
    anchor whose node is not complete has none yet. -/
structure Reading where
  /-- The tokens left. -/
  rest : List Token
  /-- The anchors so far. -/
  anchors : List (String × Option Node)
  /-- How many collections this place is inside of. -/
  depth : Nat

/-- The number of collections that may lie inside each other. -/
def maxDepth : Nat := 488

namespace Node

/-- A node that is not written out before some tokens. -/
def absent (rest : List Token) : Node := .scalar none "" true rest.length

/-- Which nodes may stand at a place. -/
inductive Place where
  /-- Inside a flow collection. -/
  | flow
  /-- In a block sequence, or at the root. -/
  | block
  /-- In a block mapping, where a sequence need not be indented. -/
  | mappingBlock
  deriving DecidableEq

/-- The handles that tags may start with, and what each stands for. -/
abbrev Handles := List (String × String)

/-- The handles of a document that gives none. -/
def standardHandles : Handles := [("!", "!"), ("!!", "tag:yaml.org,2002:")]

/-- The fault of tokens that do not fit. -/
def misfit : List Token → Fault
  | .broken fault :: _ => fault
  | _ => .malformed

/-- A tag with its handle resolved, before some tokens. -/
def resolveTag (handles : Handles) (rest : List Token) :
    Option String → String → Except Fault String
  | none, suffix => .ok suffix
  | some h, suffix =>
    match handles.lookup h with
    | some start => .ok (start ++ suffix)
    | none => .error (misfit rest)

/-- Reads the anchor and the tag of a node, in either order. -/
def properties (handles : Handles) :
    List Token → Except Fault (Option String × Option String × List Token)
  | .anchor a :: .tag h s :: rest => do .ok (some a, some (← resolveTag handles rest h s), rest)
  | .tag h s :: .anchor a :: rest => do .ok (some a, some (← resolveTag handles rest h s), rest)
  | .anchor a :: rest => .ok (some a, none, rest)
  | .tag h s :: rest => do .ok (none, some (← resolveTag handles rest h s), rest)
  | rest => .ok (none, none, rest)

/-- Ends an entry of a block mapping. -/
def endsBlockEntry : List Token → Bool
  | .key :: _ | .value :: _ | .blockEnd :: _ => true
  | _ => false

/-- Ends the value of an entry of a flow mapping. -/
def endsFlowValue : List Token → Bool
  | .flowEntry :: _ | .flowMappingEnd :: _ => true
  | _ => false

/-- Ends the value of a single entry inside a flow sequence. -/
def endsFlowItem : List Token → Bool
  | .flowEntry :: _ | .flowSequenceEnd :: _ => true
  | _ => false

/-- The value token stands next. -/
def atValue : List Token → Bool
  | .value :: _ => true
  | _ => false

mutual

/-- Reads a node. -/
def read (handles : Handles) : Nat → Place → Reading → Except Fault (Node × Reading)
  | 0, _, _ => .error .malformed
  | fuel + 1, place, r =>
    match r.rest with
    | .alias name :: rest =>
      if (r.anchors.lookup name).isSome then .ok (.named name, { r with rest })
      else .error .malformed
    | tokens => do
      let (anchor, tag, rest) ← properties handles tokens
      let shown := if tag == some "!" then none else tag
      match anchor with
      | none =>
        let (node, after) ← content handles fuel place tag shown false { r with rest }
        .ok (node, { after with depth := r.depth })
      | some a =>
        if (r.anchors.lookup a).isSome then .error (misfit rest)
        else
          let opened := { r with rest, anchors := (a, none) :: r.anchors }
          let (node, after) ← content handles fuel place tag shown true opened
          .ok (.named a, ⟨after.rest, (a, some node) :: after.anchors, r.depth⟩)

/-- Reads what stands after the properties of a node. -/
def content (handles : Handles) : Nat → Place → Option String → Option String → Bool →
    Reading → Except Fault (Node × Reading)
  | 0, _, _, _, _, _ => .error .malformed
  | fuel + 1, place, tag, shown, anchored, r =>
    if r.depth > maxDepth then .error .tooDeep
    else
      let inside (rest : List Token) : Reading := { r with rest, depth := r.depth + 1 }
      match place, r.rest with
      | .mappingBlock, .blockEntry :: _ => do
        let (items, after) ← looseItems handles fuel (inside r.rest)
        .ok (.sequence shown items, after)
      | _, .scalar text plain :: rest =>
        .ok (.scalar shown text ((plain && tag.isNone) || tag == some "!") rest.length,
          { r with rest })
      | _, .flowSequenceStart :: rest => do
        let (items, after) ← flowItems handles fuel true (inside rest)
        .ok (.sequence shown items, after)
      | _, .flowMappingStart :: rest => do
        let (entries, after) ← flowEntries handles fuel true (inside rest)
        .ok (.mapping shown entries, after)
      | _, tokens =>
        match place == .flow, tokens with
        | false, .blockSequenceStart :: rest => do
          let (items, after) ← blockItems handles fuel (inside rest)
          .ok (.sequence shown items, after)
        | false, .blockMappingStart :: rest => do
          let (entries, after) ← blockEntries handles fuel (inside rest)
          .ok (.mapping shown entries, after)
        | _, _ =>
          if anchored || tag.isSome then
            .ok (.scalar shown "" shown.isNone tokens.length, r)
          else .error (misfit tokens)

/-- Reads the items of a block sequence up to its end. -/
def blockItems (handles : Handles) : Nat → Reading → Except Fault (List Node × Reading)
  | 0, _ => .error .malformed
  | fuel + 1, r =>
    match r.rest with
    | .blockEntry :: rest => do
      let r := { r with rest }
      let (item, after) ←
        match rest with
        | .blockEntry :: _ | .blockEnd :: _ => .ok (absent rest, r)
        | _ => read handles fuel .block r
      let (items, last) ← blockItems handles fuel after
      .ok (item :: items, last)
    | .blockEnd :: rest => .ok ([], { r with rest })
    | tokens => .error (misfit tokens)

/-- Reads the items of a sequence that is not indented. -/
def looseItems (handles : Handles) : Nat → Reading → Except Fault (List Node × Reading)
  | 0, _ => .error .malformed
  | fuel + 1, r =>
    match r.rest with
    | .blockEntry :: rest => do
      let r := { r with rest }
      let (item, after) ←
        match rest with
        | .blockEntry :: _ => .ok (absent rest, r)
        | _ => if endsBlockEntry rest then .ok (absent rest, r) else read handles fuel .block r
      let (items, last) ← looseItems handles fuel after
      .ok (item :: items, last)
    | _ => .ok ([], r)

/-- Reads the entries of a block mapping up to its end. -/
def blockEntries (handles : Handles) : Nat → Reading → Except Fault (List (Node × Node) × Reading)
  | 0, _ => .error .malformed
  | fuel + 1, r =>
    match r.rest with
    | .key :: rest => do
      let r := { r with rest }
      let (key, after) ←
        if endsBlockEntry rest then .ok (absent rest, r) else read handles fuel .mappingBlock r
      let (value, last) ←
        match after.rest with
        | .value :: rest =>
          let after := { after with rest }
          if endsBlockEntry rest then .ok (absent after.rest, after)
          else read handles fuel .mappingBlock after
        | _ => .ok (absent after.rest, after)
      let (entries, done) ← blockEntries handles fuel last
      .ok ((key, value) :: entries, done)
    | .blockEnd :: rest => .ok ([], { r with rest })
    | tokens => .error (misfit tokens)

/-- Reads the items of a flow sequence up to its end; between two items a comma
    stands. A key makes an item a mapping of one entry. -/
def flowItems (handles : Handles) : Nat → Bool → Reading → Except Fault (List Node × Reading)
  | 0, _, _ => .error .malformed
  | fuel + 1, first, r =>
    match r.rest with
    | .flowSequenceEnd :: rest => .ok ([], { r with rest })
    | tokens => do
      let tokens ←
        match first, tokens with
        | true, _ => .ok tokens
        | false, .flowEntry :: rest => .ok rest
        | false, tokens => .error (misfit tokens)
      match tokens with
      | .flowSequenceEnd :: rest => .ok ([], { r with rest })
      | .key :: rest => do
        let r := { r with rest }
        let (key, after) ←
          if atValue rest || endsFlowItem rest then .ok (absent rest, r)
          else read handles fuel .flow r
        let (value, last) ←
          match after.rest with
          | .value :: rest =>
            let after := { after with rest }
            if endsFlowItem rest then .ok (absent after.rest, after) else read handles fuel .flow after
          | _ => .ok (absent after.rest, after)
        let (items, done) ← flowItems handles fuel false last
        .ok (.mapping none [(key, value)] :: items, done)
      | _ => do
        let (item, after) ← read handles fuel .flow { r with rest := tokens }
        let (items, done) ← flowItems handles fuel false after
        .ok (item :: items, done)

/-- Reads the entries of a flow mapping up to its end; between two entries a comma
    stands. -/
def flowEntries (handles : Handles) : Nat → Bool → Reading → Except Fault (List (Node × Node) × Reading)
  | 0, _, _ => .error .malformed
  | fuel + 1, first, r =>
    match r.rest with
    | .flowMappingEnd :: rest => .ok ([], { r with rest })
    | tokens => do
      let tokens ←
        match first, tokens with
        | true, _ => .ok tokens
        | false, .flowEntry :: rest => .ok rest
        | false, tokens => .error (misfit tokens)
      match tokens with
      | .flowMappingEnd :: rest => .ok ([], { r with rest })
      | .key :: rest => do
        let r := { r with rest }
        let (key, after) ←
          if atValue rest || endsFlowValue rest then .ok (absent rest, r)
          else read handles fuel .flow r
        let (value, last) ←
          match after.rest with
          | .value :: rest =>
            let after := { after with rest }
            if endsFlowValue rest then .ok (absent after.rest, after) else read handles fuel .flow after
          | _ => .ok (absent after.rest, after)
        let (entries, done) ← flowEntries handles fuel false last
        .ok ((key, value) :: entries, done)
      | _ => do
        let (key, after) ← read handles fuel .flow { r with rest := tokens }
        let (entries, done) ← flowEntries handles fuel false after
        .ok ((key, absent after.rest) :: entries, done)

end

/-! ## Documents -/

/-- Reads the directives of a document: the handles that they set. A version may be
    given once, and must be a first one. -/
def directives : List Token → Bool → Handles → Except Fault (Handles × List Token)
  | .version major :: rest, versioned, handles =>
    if versioned || major != 1 then .error .malformed else directives rest true handles
  | .tagHandle h start :: rest, versioned, handles =>
    if (handles.lookup h).isSome then .error .malformed
    else directives rest versioned ((h, start) :: handles)
  | .otherDirective :: rest, versioned, handles => directives rest versioned handles
  | rest, _, handles => .ok (handles ++ standardHandles, rest)

/-- No content stands before the end of the document. -/
def endsDocument : List Token → Bool
  | [] | .documentStart :: _ | .documentEnd :: _ | .version _ :: _ | .tagHandle _ _ :: _
  | .otherDirective :: _ => true
  | _ => false

/-- The document that a node ends, if nothing but document ends is left. -/
def finish (node : Node) (r : Reading) : Except Fault (Option Document) :=
  match r.rest.dropWhile fun t => t == .documentEnd with
  | [] =>
    .ok (some ⟨node, r.anchors.filterMap fun a => a.2.map fun n => (a.1, n)⟩)
  | tokens => .error (misfit tokens)

/-- Reads the only document of a stream of tokens; none if there is no document. -/
def ofTokens? (tokens : List Token) : Except Fault (Option Document) := do
  let fuel := 4 * tokens.length + 4
  match tokens with
  | [] => .ok none
  | t :: _ =>
    if endsDocument tokens && t != .documentEnd then
      let (handles, rest) ← directives tokens false []
      match rest with
      | .documentStart :: body =>
        if endsDocument body then finish (absent body) ⟨body, [], 0⟩
        else
          let (node, after) ← read handles fuel .block ⟨body, [], 0⟩
          finish node after
      | tokens => .error (misfit tokens)
    else
      let (node, after) ← read standardHandles fuel .block ⟨tokens, [], 0⟩
      finish node after

end Node

/-- Reads the only document of a text. -/
def document? (cs : List Char) : Except Fault (Option Document) :=
  Node.ofTokens? (tokens cs)

end Manuscript.Yaml
