import Manuscript.Document.Block
import Manuscript.Formula.Entities
import Manuscript.Formula.Fault
import Manuscript.Formula.Source
import Manuscript.Work
import Manuscript.Xml.Document
import Manuscript.Xml.Fragment

/-!
# Conversion of formulas

A formula becomes an element of the package in two steps, which are given: from its
source to mathematical markup, and from that to the markup of the package. Around them
stand the checks: the formula is not blank, its braces pair, the first step gives
markup without commands left over, and the second one markup with content.

The steps are run by an *engine* that starts once: it converts a formula of its own,
and serves others only when that has succeeded.

* `Converters.convertNow`: the two steps with their checks;
* `Converters.start`: starts the engine unless it has started;
* `Bridge`: anything that converts formulas when it is ready, such as
  `Converters.bridge`.
-/

namespace Manuscript.Formula

open Manuscript.Document Manuscript.Text

/-! ## Steps -/

/-- What a step answers. -/
inductive Answer where
  /-- A text. -/
  | text (s : String)
  /-- A text that those who read it cannot encode, as it has half of a surrogate pair in it. -/
  | unencodable
  /-- Nothing. -/
  | nothing
  /-- A failure, in words. They are only told. -/
  | failed (words : String)
  /-- A failure that the guards around the steps let pass: one of a kind that they do not name,
      or one that has no words, as to ask for these is a failure as well. What stops the whole
      program is no answer. -/
  | unguarded
  deriving DecidableEq, Repr

/-- The two steps of a conversion; they may keep a state. They only read what they are
    handed: neither the named characters nor the engine that asks are changed by them. -/
structure Converters (σ : Type) where
  /-- From source to mathematical markup. -/
  toMarkup : String → σ → Answer × σ
  /-- From mathematical markup to the markup of the package, given the named
      characters. -/
  toOffice : String → Entities → σ → Answer × σ

/-- An engine for formulas. -/
structure Engine (σ : Type) where
  /-- Whether it has started. -/
  isReady : Bool := false
  /-- The named characters that it hands to the second step. -/
  entities : Entities := []
  /-- The state of the steps. -/
  steps : σ

/-- Lets the steps do something with their state. -/
def onSteps {σ α : Type} (f : Engine σ → α × σ) : Work (Engine σ) Fault α := fun e =>
  let r := f e
  ⟨.ok r.1, [], { e with steps := r.2 }⟩

/-! ## Checks -/

/-- The command at the start of a text: a backslash and letters. -/
def command? (cs : List Char) : Option String :=
  match cs with
  | '\x5c' :: rest =>
    let letters := rest.takeWhile Char.isAlpha
    if letters.isEmpty then none else some (String.ofList ('\x5c' :: letters))
  | _ => none

/-- A command that is left over in mathematical markup, the first one. -/
def leftover? (root : Xml.Tree) : Option String :=
  root.elements.findSome? fun t => command? (trim t.leadingText.toList)

/-- The name of the element that holds a formula. -/
def formulaName : String := "m:oMath"

/-- The prefixes that the second step may use. -/
def officeScope : Xml.Scope := Xml.customary.take 2

/-- The name of the element that formulas set on their own stand in. -/
def outerName : String := "m:oMathPara"

/-- The element for a formula among some markup: the first that is one, or a new one
    around all elements. Text that follows an element moves with it, and so stands in the new
    element; text that follows the first formula is no part of it and is left out here, though
    it would come into the package behind the formula. -/
def formulaElement (content : List Xml.Tree) : Xml.Tree :=
  match content.find? fun t => t.name? == some formulaName with
  | some t => t
  | none => .element formulaName [] (content.dropWhile Xml.Tree.isText)

/-- Whether an element has anything but text in it. -/
def hasContent (t : Xml.Tree) : Bool := t.content.any fun c => !c.isText

/-- The formula in a text of the second step. -/
def formulaIn (s : String) : Except Reason Xml.Tree :=
  match Xml.fragment? outerName officeScope s with
  | .error fault => .error (.notOfficeMarkup fault)
  | .ok content =>
    let t := formulaElement content
    if hasContent t then .ok t else .error .noContent

/-- The reason for braces that do not pair. -/
def BraceFault.reason : BraceFault → Reason
  | unopened => .unopenedBrace
  | unclosed => .unclosedBrace

/-! ## Conversion -/

namespace Converters

variable {σ : Type} (c : Converters σ)

/-- Rejects a formula. -/
def reject {α : Type} (latex : String) (r : Reason) : Work (Engine σ) Fault α :=
  Work.fail (.rejected latex r)

/-- The markup in an answer of the first step, if it passes the checks before the second.
    Markup is all that these reckon with. -/
def markupIn (latex : String) : Answer → Except Fault String
  | .failed words => .error (.rejected latex (.step words))
  | .unguarded => .error (.escaped .unguarded)
  | .nothing => .error (.escaped .noMarkup)
  | .unencodable => .error (.escaped .unencodable)
  | .text markup =>
    match Xml.document? markup with
    | .error fault => .error (.rejected latex (.notMarkup fault))
    | .ok root =>
      match leftover? root with
      | some command => .error (.rejected latex (.unsupported command))
      | none => .ok markup

/-- The element that an answer of the second step stands for. Here nothing is read by its
    name, and a text that cannot be encoded is a reason like others. -/
def elementOf (latex : String) : Answer → Except Fault Xml.Tree
  | .failed words => .error (.rejected latex (.step words))
  | .unguarded => .error (.escaped .unguarded)
  | .nothing => (formulaIn "None").mapError (.rejected latex)
  | .unencodable => .error (.rejected latex .unencodable)
  | .text s => (formulaIn s).mapError (.rejected latex)

/-- The second step with its checks. -/
def finish (latex : String) (display : Bool) (markup : String) :
    Work (Engine σ) Fault MathObject := do
  let answer ← onSteps fun e => c.toOffice markup e.entities e.steps
  let t ← Work.ofExcept (elementOf latex answer)
  return ⟨t, latex, display⟩

/-- Both steps, for a formula of which the source has been checked. -/
def convertChecked (latex : String) (display : Bool) (source : List Char) :
    Work (Engine σ) Fault MathObject := do
  let prepared := uprightText source
  if prepared != source then Work.tell .textReplaced
  let answer ← onSteps fun e => c.toMarkup (String.ofList prepared) e.steps
  let markup ← Work.ofExcept (markupIn latex answer)
  c.finish latex display markup

/-- Converts a formula, whether the engine has started or not. Braces that do not pair
    are reported with the formula as it is checked, without the blanks around it. -/
def convertNow (latex : String) (display : Bool) : Work (Engine σ) Fault MathObject :=
  let source := trim latex.toList
  if source.isEmpty then reject latex .empty
  else
    match braceFault? source with
    | some fault => reject (String.ofList source) fault.reason
    | none => c.convertChecked latex display source

/-- The formula that the engine tries itself with. -/
def probe : String := "x^2"

/-- Starts the engine unless it has started. -/
def start : Work (Engine σ) Fault Unit := do
  if (← Work.state).isReady then return
  Work.put { (← Work.state) with entities := namedCharacters }
  let _ ← Work.mapFault
    (fun fault =>
      match fault with
      | .rejected _ r => .notStarted r
      | other => other)
    (c.convertNow probe false)
  Work.put { (← Work.state) with isReady := true }
  Work.tell .engineStarted

/-- Some callers, each of whom wants the engine to start: the first fault, if there is
    one, is the fault of all. -/
def startFor : (callers : Nat) → Work (Engine σ) Fault Unit
  | 0 => return
  | n + 1 => fun e =>
    let first := c.start e
    let others := startFor n first.state
    ⟨first.result.bind fun _ => others.result, first.notices ++ others.notices, others.state⟩

/-- Makes the engine ready for some callers at once. All of them see whether it is
    before any of them starts it. -/
def readyFor (callers : Nat) : Work (Engine σ) Fault Unit := do
  if (← Work.state).isReady then return
  c.startFor callers

/-- Makes the engine ready. -/
def ready : Work (Engine σ) Fault Unit := c.readyFor 1

/-- Converts a formula, starting the engine first if need be. -/
def convert (latex : String) (display : Bool) : Work (Engine σ) Fault MathObject := do
  c.ready
  c.convertNow latex display

end Converters

/-! ## Bridges -/

/-- Something that converts formulas; it may change with every use. -/
structure Bridge (σ : Type) where
  /-- Makes it ready. -/
  ready : Work σ Fault Unit
  /-- Whether it is ready. -/
  isReady : σ → Bool
  /-- Converts a formula, set on its own or not. -/
  convert : String → Bool → Work σ Fault MathObject

/-- The bridge over two steps. -/
def Converters.bridge {σ : Type} (c : Converters σ) : Bridge (Engine σ) where
  ready := c.ready
  isReady := Engine.isReady
  convert := c.convert

end Manuscript.Formula
