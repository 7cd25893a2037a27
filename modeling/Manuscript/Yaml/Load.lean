import Manuscript.Yaml.Node
import Manuscript.Yaml.Scalar

/-!
# Loading YAML

`load?` gives the value of a YAML text. A node is built by its tag, or by its form if
it has none; only the tags of the language's own types are known. Where several nodes
cannot be built, the fault nearest to the root is the text's fault, and of faults at
one depth the first.

* A mapping takes in the entries of the mappings under its `<<` keys; its own entries
  win, and of two entries with one key the later.
* The key `=` is the text `=`.
* A node may lie inside itself, by its anchor. There its value is `Value.again`, so
  every value is finite.
-/

namespace Manuscript.Yaml

open Manuscript

/-! ## Tags -/

/-- The types that a tag can name. -/
inductive Tag where
  | null
  | bool
  | int
  | float
  | binary
  | timestamp
  | omap
  | pairs
  | set
  | str
  | seq
  | map
  | merge
  | value
  | unknown
  deriving DecidableEq, Repr

/-- The type that a full tag names. -/
def Tag.ofFull (full : String) : Tag :=
  let known : List (String × Tag) :=
    [("null", null), ("bool", bool), ("int", int), ("float", float), ("binary", binary),
      ("timestamp", timestamp), ("omap", omap), ("pairs", pairs), ("set", set), ("str", str),
      ("seq", seq), ("map", map), ("merge", merge), ("value", value)]
  match known.find? fun k => full == "tag:yaml.org,2002:" ++ k.1 with
  | some k => k.2
  | none => unknown

/-- The type of a scalar that looks like `form`. -/
def Tag.ofForm : Option Form → Tag
  | none => str
  | some .bool => bool
  | some .float => float
  | some .int => int
  | some .merge => merge
  | some .null => null
  | some .timestamp => timestamp
  | some .default => value
  | some .indicator => unknown

namespace Node

/-- The type of a node that has no anchor: by its tag, or by its form. -/
def type : Node → Tag
  | scalar (some t) _ _ _ | sequence (some t) _ | mapping (some t) _ => Tag.ofFull t
  | scalar none text true _ => Tag.ofForm (Form.ofText? text.toList)
  | scalar none _ false _ => .str
  | sequence none _ => .seq
  | mapping none _ => .map
  | named _ => .unknown

end Node

/-- The nodes with anchors, by the anchors. -/
abbrev Anchored := List (String × Node)

/-- The node itself in the place of its anchor. -/
def Anchored.find (anchored : Anchored) : Node → Node
  | .named a => (anchored.lookup a).getD default
  | n => n

/-! ## Faults by depth -/

/-- A fault, and how deep it lies. -/
abbrev Deep := Nat × Fault

/-- The first fault at the least depth of two results, or both results. -/
def both {α β γ : Type} (f : α → β → γ) : Except Deep α → Except Deep β → Except Deep γ
  | .ok a, .ok b => .ok (f a b)
  | .error e, .ok _ => .error e
  | .ok _, .error e => .error e
  | .error d, .error e => .error (if e.1 < d.1 then e else d)

/-- A fault at a depth, if there is one. -/
def atDepth {α : Type} (depth : Nat) : Except Fault α → Except Deep α
  | .ok a => .ok a
  | .error e => .error (depth, e)

/-! ## Merging -/

/-- The entries of a mapping, each with its key. -/
abbrev NodeEntries := List (Node × Node)

/-- A mapping whose `<<` keys are being looked up, by its anchor, with the entries it
    has apart from those keys. -/
abbrev Halfway := List (String × NodeEntries)

/-- A node as a text. -/
def Node.asText : Node → Node
  | .scalar _ text _ place => .scalar none text false place
  | .sequence _ items => .sequence (some "tag:yaml.org,2002:str") items
  | .mapping _ entries => .mapping (some "tag:yaml.org,2002:str") entries
  | n => n

/-- The entries of the mapping that a node is; of one that is looked up already, those
    left of it. -/
def entriesOf? (anchored : Anchored) (halfway : Halfway) (n : Node) :
    Option (Option String × NodeEntries) :=
  let own : Option NodeEntries :=
    match anchored.find n with
    | .mapping _ entries => some entries
    | _ => none
  match n with
  | .named a => own.map fun entries => (some a, (halfway.lookup a).getD entries)
  | _ => own.map fun entries => (none, entries)

/-- The entries of a mapping, which may have an anchor, with those of the mappings
    under its `<<` keys put in front; the key `=` becomes a text. -/
def merged (anchored : Anchored) :
    Nat → Halfway → Option String → NodeEntries → Except Fault NodeEntries
  | 0, _, _, _ => .error .malformed
  | fuel + 1, halfway, anchor, entries => do
    let (front, own) ← go fuel halfway anchor [] entries
    .ok (front ++ own)
where
  /-- The entries merged in, and the entries that stay, after those that stayed so
      far. -/
  go (fuel : Nat) (halfway : Halfway) (anchor : Option String) :
      NodeEntries → NodeEntries → Except Fault (NodeEntries × NodeEntries)
    | own, [] => .ok ([], own)
    | own, (key, value) :: rest =>
      match (anchored.find key).type with
      | .merge => do
        let left := (anchor.map fun a => (a, own ++ rest)).toList ++ halfway
        let entriesIn (n : Node) : Except Fault NodeEntries :=
          match entriesOf? anchored left n with
          | some (a, entries) => merged anchored fuel left a entries
          | none => .error .malformed
        let here ←
          match anchored.find value with
          | .sequence _ items => (items.mapM entriesIn).map fun lists => lists.reverse.flatten
          | _ => entriesIn value
        let (front, own) ← go fuel halfway anchor own rest
        .ok (here ++ front, own)
      | .value => go fuel halfway anchor (own ++ [((anchored.find key).asText, value)]) rest
      | _ => go fuel halfway anchor (own ++ [(key, value)]) rest

/-! ## Building values -/

/-- The text of a node that must be a scalar; a mapping with a key `=` stands for the
    scalar under it. -/
def scalarText (anchored : Anchored) : Nat → Node → Except Fault (List Char)
  | 0, _ => .error .tooDeep
  | fuel + 1, n =>
    match anchored.find n with
    | .scalar _ text _ _ => .ok text.toList
    | .mapping _ entries =>
      match entries.find? fun e => (anchored.find e.1).type == .value with
      | some e => scalarText anchored fuel e.2
      | none => .error .malformed
    | _ => .error .malformed

/-- A key, and where it is written if what it is tells it apart from no other key. -/
structure Key where
  /-- The key. -/
  value : Value
  /-- The place of a key that differs from itself. -/
  place : Nat

/-- The key that a node writes. Without a tag of its own, or written as such, no number
    is one value. -/
def Key.of (n : Node) (v : Value) : Key :=
  match n with
  | .scalar _ text _ place =>
    let bare := lower (text.toList.filter fun c => c != '_' && c != '-' && c != '+')
    ⟨v, if bare == ".nan".toList then 0 else place + 1⟩
  | _ => ⟨v, 0⟩

/-- Whether two keys are one. -/
def Key.same (a b : Key) : Bool :=
  a.value.sameKey b.value || (a.value.isNoNumber && b.value.isNoNumber && a.place == b.place)

/-- Sets the value of a key: in its place when the key is there, else at the end. -/
def putEntry (key : Key) (value : Value) : List (Key × Value) → List (Key × Value)
  | [] => [(key, value)]
  | (k, v) :: rest =>
    if k.same key then (k, value) :: rest else (k, v) :: putEntry key value rest

/-- The entries as a mapping, later ones winning. -/
def toMap (entries : List (Key × Value)) : List (Value × Value) :=
  (entries.foldl (fun m e => putEntry e.1 e.2 m) []).map fun e => (e.1.value, e.2)

mutual

/-- The value of a node at a depth, inside the nodes with some anchors. -/
def build (anchored : Anchored) : Nat → List String → Nat → Node → Except Deep Value
  | 0, _, depth, _ => .error (depth, .malformed)
  | fuel + 1, inside, depth, .named a =>
    let node := anchored.find (.named a)
    if inside.contains a then
      match node.type, node with
      | .map, .mapping _ _ | .set, .mapping _ _ => .ok (.again true)
      | .seq, .sequence _ _ | .omap, .sequence _ _ | .pairs, .sequence _ _ => .ok (.again false)
      | _, _ => .error (depth, .malformed)
    else buildContent anchored fuel (a :: inside) (some a) depth node
  | fuel + 1, inside, depth, n => buildContent anchored fuel inside none depth n

/-- The value of a node that may have an anchor. -/
def buildContent (anchored : Anchored) :
    Nat → List String → Option String → Nat → Node → Except Deep Value
  | 0, _, _, depth, _ => .error (depth, .malformed)
  | fuel + 1, inside, anchor, depth, n =>
    let scalar (read : List Char → Except Fault Value) : Except Deep Value :=
      atDepth depth (scalarText anchored (fuel + 1) n >>= read)
    let mapping (entries : NodeEntries) : Except Deep (List (Key × Value)) :=
      match merged anchored (fuel + 1) [] anchor entries with
      | .ok all => buildEntries anchored fuel inside (depth + 1) all
      | .error e => .error (depth + 1, e)
    match n.type, n with
    | .null, _ => scalar fun _ => .ok .null
    | .bool, _ => scalar readBool
    | .int, _ => scalar readInt
    | .float, _ => scalar readFloat
    | .binary, _ => scalar readBinary
    | .timestamp, .mapping _ _ => scalar fun _ => .error .formless
    | .timestamp, _ => scalar readTimestamp
    | .str, _ => scalar fun cs => .ok (.text (String.ofList cs))
    | .seq, .sequence _ items => (buildAll anchored fuel inside (depth + 1) items).map .list
    | .map, .mapping _ entries => (mapping entries).map (.map ∘ toMap)
    | .set, .mapping _ entries => (mapping entries).map fun es => .set ((toMap es).map (·.1))
    | .omap, .sequence _ items => (buildPairs anchored fuel inside (depth + 1) items).map .list
    | .pairs, .sequence _ items => (buildPairs anchored fuel inside (depth + 1) items).map .list
    | .seq, _ | .map, _ | .set, _ | .omap, _ | .pairs, _ => .error (depth + 1, .malformed)
    | .merge, _ | .value, _ | .unknown, _ => .error (depth, .malformed)

/-- The values of the nodes of a sequence. -/
def buildAll (anchored : Anchored) :
    Nat → List String → Nat → List Node → Except Deep (List Value)
  | 0, _, depth, _ => .error (depth, .malformed)
  | _, _, _, [] => .ok []
  | fuel + 1, inside, depth, n :: rest =>
    both (· :: ·) (build anchored fuel inside depth n) (buildAll anchored fuel inside depth rest)

/-- The entries of a mapping; a key is a value that cannot change. -/
def buildEntries (anchored : Anchored) :
    Nat → List String → Nat → NodeEntries → Except Deep (List (Key × Value))
  | 0, _, depth, _ => .error (depth, .malformed)
  | _, _, _, [] => .ok []
  | fuel + 1, inside, depth, (k, v) :: rest =>
    let node := anchored.find k
    let key :=
      match node.type with
      | .seq | .map | .set | .omap | .pairs => .error (depth, .malformed)
      | _ => build anchored fuel inside depth k
    both (· :: ·)
      (both (fun a b => (Key.of node a, b)) key (build anchored fuel inside depth v))
      (buildEntries anchored fuel inside depth rest)

/-- The single entries of the mappings in a sequence. -/
def buildPairs (anchored : Anchored) :
    Nat → List String → Nat → List Node → Except Deep (List Value)
  | 0, _, depth, _ => .error (depth, .malformed)
  | _, _, _, [] => .ok []
  | fuel + 1, inside, depth, n :: rest =>
    let pair :=
      match anchored.find n with
      | .mapping _ [(k, v)] =>
        both (fun a b => .tuple [a, b]) (build anchored fuel inside depth k)
          (build anchored fuel inside depth v)
      | _ => .error (depth, .malformed)
    both (· :: ·) pair (buildPairs anchored fuel inside depth rest)

end

/-- The number of nodes in a tree, without those behind anchors. -/
def Node.size : Node → Nat
  | .scalar _ _ _ _ | .named _ => 1
  | .sequence _ items => 1 + sizeAll items
  | .mapping _ entries => 1 + sizeEntries entries
where
  /-- The number of nodes in some trees. -/
  sizeAll : List Node → Nat
    | [] => 0
    | n :: rest => n.size + sizeAll rest + 1
  /-- The number of nodes in the keys and values of some entries. -/
  sizeEntries : List (Node × Node) → Nat
    | [] => 0
    | (k, v) :: rest => k.size + v.size + sizeEntries rest + 1

/-- The number of nodes in a document. -/
def Document.size (d : Document) : Nat :=
  d.root.size + d.anchored.foldr (fun a n => a.2.size + 1 + n) 0

/-- The value of a YAML text; an empty one denotes nothing. Inside the outermost node
    its own anchor stands for the whole of it. -/
def load? (text : String) : Except Fault Value := do
  match ← document? text.toList with
  | none => .ok .null
  | some d =>
    let fuel := 8 * d.size + 8
    let anchor :=
      match d.root with
      | .named a => some a
      | _ => none
    match buildContent d.anchored fuel [] anchor 0 (Anchored.find d.anchored d.root) with
    | .ok v => .ok v
    | .error e => .error e.2

end Manuscript.Yaml
