import Manuscript.Convert.Document

/-!
# Converting several texts

Texts of a batch are taken up one by one. A text that has to wait for the bridge stands
back, so that the next one is taken up; when all have been, those that wait go on in
some order. The outcomes stand in the order of the texts. A fault that the program does
not know of ends the batch.
-/

namespace Manuscript.Convert

open Manuscript.Formula Manuscript.Log Manuscript.Style

/-- What has become of a text of a batch. -/
inductive Slot where
  /-- It waits for the bridge. -/
  | waiting (text : List Char)
  /-- It has been converted, or not. -/
  | done (outcome : Except Fault Package)

variable {σ : Type}

/-- The outcome of an activity, which is itself no fault. -/
def outcomeOf {α : Type} (w : Work σ Fault α) : Work σ Fault (Except Fault α) := fun s =>
  let o := w s
  ⟨.ok o.result, o.notices, o.state⟩

section

variable (bridge : Bridge σ) (config : Config)

/-- Takes up a text. -/
def takeUp (text : List Char) : Work σ Fault Slot := do
  Work.tell (inputNotice text)
  let s ← Work.state
  if needsBridge text && !bridge.isReady s then return .waiting text
  else return .done (← outcomeOf (convertAnnounced bridge config text))

/-- Goes on with a text if it waits. -/
def goOn : Slot → Work σ Fault Slot
  | .waiting text => do return .done (← outcomeOf (convertAnnounced bridge config text))
  | .done outcome => return .done outcome

/-- Goes on with the text at a place. -/
def goOnAt : (place : Nat) → List Slot → Work σ Fault (List Slot)
  | _, [] => return []
  | 0, slot :: rest => do return (← goOn bridge config slot) :: rest
  | n + 1, slot :: rest => do return slot :: (← goOnAt n rest)

/-- Goes on with the texts at some places, one after the other. -/
def goOnInOrder : (order : List Nat) → List Slot → Work σ Fault (List Slot)
  | [], slots => return slots
  | place :: rest, slots => do goOnInOrder rest (← goOnAt bridge config place slots)

/-- The outcome in a slot; a text that nobody went on with is gone on with now. -/
def outcomeIn : Slot → Work σ Fault (Except Fault Package)
  | .done outcome => return outcome
  | .waiting text => outcomeOf (convertAnnounced bridge config text)

/-- Reports the outcomes, from the number of the first of them on. -/
def report : (number : Nat) → List (Except Fault Package) → Work σ Fault Unit
  | _, [] => return
  | number, .ok _ :: rest => report (number + 1) rest
  | number, .error fault :: rest =>
    if fault.isKnown then do
      Work.tell (.documentFailed number fault.message)
      report (number + 1) rest
    else Work.fail fault

/-- The outcomes of some texts; those that wait go on in the given order of places. -/
def convertBatch (order : List Nat) (texts : List (List Char)) :
    Work σ Fault (List (Except Fault Package)) := do
  let slots ← Work.forEach (takeUp bridge config) texts
  let slots ← goOnInOrder bridge config order slots
  let outcomes ← Work.forEach (outcomeIn bridge config) slots
  report 1 outcomes
  return outcomes

end

end Manuscript.Convert
