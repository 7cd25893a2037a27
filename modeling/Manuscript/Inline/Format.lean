import Manuscript.Formula.Bridge
import Manuscript.Style.Config

/-!
# Inline formatting

The segments of inline source become runs, one for one. Text takes its looks from the
style: line feeds in it are spaces, and code falls back to the font of running text
when the style has no other. A formula is converted; one that is rejected stays as it
is written, delimiters included, in looks that set it off.
-/

namespace Manuscript.Inline

open Manuscript.Document Manuscript.Formula Manuscript.Style Manuscript.Text

/-- The size of a formula that stays as it is, set on its own or not. -/
def fallbackSize (display : Bool) : Value := .int (if display then 11 else 12)

/-- Text on one line. -/
def onOneLine (cs : List Char) : String :=
  String.ofList (cs.map fun c => if c = '\n' then ' ' else c)

/-- The font of code within text. -/
def codeFont (config : Config) : Value :=
  if config.monoFont.isTruthy then config.monoFont else config.font

/-- The looks of a segment that is no formula. -/
def styledText (config : Config) (s : Segment) : StyledText :=
  { text := onOneLine s.inner
    font := if s.kind = .code then codeFont config else config.font
    size := config.size
    bold := s.kind == .bold
    italic := s.kind == .italic }

/-- The looks of a formula that stays as it is. -/
def fallbackText (config : Config) (s : Segment) : StyledText :=
  { text := String.ofList s.raw
    font := config.monoFont
    size := fallbackSize (s.kind == .displayMath)
    color := config.fallbackColor
    fallback := true }

/-- A formula without the blanks around it. -/
def formulaOf (s : Segment) : String := String.ofList (trim s.inner)

variable {σ : Type}

/-- What a formula shows. -/
def formulaContent (bridge : Bridge σ) (config : Config) (s : Segment) :
    Work σ Formula.Fault Content := do
  let display := s.kind == .displayMath
  let latex := formulaOf s
  Work.tell (.formula display latex)
  Work.onFault
    (do
      let m ← bridge.convert latex display
      Work.tell (.converted display)
      return .math m)
    (fun fault =>
      match fault with
      | .rejected _ reason => do
        Work.tell (.fallback display latex reason.message)
        return .styled (fallbackText config s)
      | other => Work.fail other)

/-- The run of a segment. -/
def formatSegment (bridge : Bridge σ) (config : Config) (s : Segment) :
    Work σ Formula.Fault Run := do
  let content ←
    if s.kind.isMath then formulaContent bridge config s
    else pure (.styled (styledText config s))
  return ⟨s.kind, String.ofList s.raw, content⟩

/-- The runs of inline source. -/
def format (bridge : Bridge σ) (config : Config) (text : String) :
    Work σ Formula.Fault (List Run) :=
  Work.forEach (formatSegment bridge config) (splitRuns text.toList)

end Manuscript.Inline
