import Manuscript.Style.Config
import Manuscript.Text.Digits
import Manuscript.Text.Lines
import Manuscript.Yaml.Load

/-!
# Style overrides

A mapping overrides the standard style field by field: `font`, `size_pt`, `mono_font`
and `fallback_color`, the presets of headings under `headings` and a level, and of code
under `code`. The fields of a preset's `spacing` are overridden one by one too. Values
are taken as they are; unknown keys and sections that are no mappings are refused.

The key of a level is a whole number or what stands for one: a text, a truth value or
a number with a fraction, which is cut off.
-/

namespace Manuscript.Style

open Manuscript.Document Manuscript.Text

/-- Why an override is refused. -/
inductive Fault where
  /-- The override is no mapping. -/
  | notMapping
  /-- Keys that the style does not have. -/
  | unknownKeys (keys : List String)
  /-- The presets of headings are no mapping. -/
  | headingsNotMapping
  /-- A text names no level. -/
  | notWhole (key : Value)
  /-- A level is written with too many digits. -/
  | longText (digits : Nat)
  /-- A number is too long to be shown. -/
  | longNumber
  /-- A level is no number at all. -/
  | noNumber
  /-- A level is infinite. -/
  | infinite
  /-- A value cannot name a level. -/
  | noLevel
  /-- A level has no preset. -/
  | noPreset (level : Int)
  /-- A section is no mapping. -/
  | sectionNotMapping (place : String)
  /-- Keys that a section does not have. -/
  | unknownInSection (place : String) (keys : List String)
  /-- The spacing of a section is no mapping. -/
  | spacingNotMapping (place : String)
  /-- A key that a spacing does not have. -/
  | unknownInSpacing (place : String)
  /-- The text of the override has no value. -/
  | unreadable (fault : Yaml.Fault)
  deriving Inhabited

/-- A key as it is quoted in words: its first 200 characters. -/
def quotedKey (key : Value) : String := String.ofList (key.quoted.toList.take 200)

/-- The words for a fault, unless it is one of values rather than of the override. -/
def Fault.message? : Fault → Option String
  | notMapping => some "Style config root must be a mapping."
  | unknownKeys keys => some ("Unknown style config keys: " ++ ", ".intercalate keys)
  | notWhole key => some ("invalid literal for int() with base 10: " ++ quotedKey key)
  | longText digits => some (tooLongToRead digits)
  | longNumber => some tooLongToShow
  | noNumber => some "cannot convert float NaN to integer"
  | noPreset level =>
    some ("Heading level " ++ toString level ++ " has no preset; expected one of 1, 2, 3.")
  | sectionNotMapping place => some ("Style config section '" ++ place ++ "' must be a mapping.")
  | unknownInSection place keys =>
    some ("Unknown keys in '" ++ place ++ "': " ++ ", ".intercalate keys)
  | spacingNotMapping place => some ("'" ++ place ++ ".spacing' must be a mapping.")
  | headingsNotMapping | infinite | noLevel | unknownInSpacing _ | unreadable _ => none

/-! ## Keys -/

/-- The keys that are none of the allowed ones, written and in order. -/
def unknownAmong (allowed : List String) (entries : Value.Entries) : Except Fault (List String) :=
  let unknown := (entries.map (·.1)).filter fun k => !allowed.any fun a => Value.sameKey k (.text a)
  if unknown.all Value.isWritable then
    .ok ((unknown.map Value.written).mergeSort fun a b => a ≤ b)
  else .error .longNumber

/-- The value under a key, or the one there was. -/
def override (entries : Value.Entries) (key : String) (preset : Value) : Value :=
  (Value.lookup key entries).getD preset

/-- The characters of bytes that are ASCII, without the separators of its control
    range. -/
def plainBytes? (bs : List UInt8) : Option (List Char) :=
  if bs.any fun b => b ≥ 128 || (28 ≤ b && b ≤ 31) then none
  else some (bs.map fun b => Char.ofNat b.toNat)

/-- The whole number that a key stands for. -/
def levelNumber (key : Value) : Except Fault Int :=
  match key with
  | .int n => .ok n
  | .bool b => .ok (if b then 1 else 0)
  | .float x =>
    if x.isNaN then .error .noNumber
    else
      match Number.Double.truncate x with
      | some n => .ok n
      | none => .error .infinite
  | .text s => whole s.toList
  | .bytes bs =>
    match plainBytes? bs with
    | some cs => whole cs
    | none => .error (.notWhole key)
  | _ => .error .noLevel
where
  /-- The number that a text writes, if it writes one. -/
  whole (cs : List Char) : Except Fault Int :=
    match readInt? cs with
    | some n =>
      if digitCount cs > maxDigits then .error (.longText (digitCount cs)) else .ok n
    | none => .error (.notWhole key)

/-- The level that a key names. -/
def levelOf (key : Value) : Except Fault Level := do
  let n ← levelNumber key
  match Level.ofInt? n with
  | some l => .ok l
  | none => .error (if (Value.int n).isWritable then .noPreset n else .longNumber)

/-! ## Sections -/

/-- The entries of a section with some keys. -/
def sectionEntries (place : String) (allowed : List String) (v : Value) :
    Except Fault Value.Entries :=
  match v with
  | .map entries => do
    match ← unknownAmong allowed entries with
    | [] => .ok entries
    | unknown => .error (.unknownInSection place unknown)
  | _ => .error (.sectionNotMapping place)

/-- The keys of a spacing. -/
def spacingKeys : List String := ["before", "after", "line", "line_rule"]

/-- A spacing with the fields that a section overrides. -/
def overrideSpacing (place : String) (entries : Value.Entries) (preset : Spacing) :
    Except Fault Spacing :=
  match Value.lookup "spacing" entries with
  | none => .ok preset
  | some (.map fields) =>
    if fields.all fun f => spacingKeys.any fun a => Value.sameKey f.1 (.text a) then
      .ok
        { before := override fields "before" preset.before
          after := override fields "after" preset.after
          line := override fields "line" preset.line
          lineRule := override fields "line_rule" preset.lineRule }
    else .error (.unknownInSpacing place)
  | some _ => .error (.spacingNotMapping place)

/-- The keys of a preset for headings. -/
def headingKeys : List String := ["size_pt", "spacing", "font", "bold", "color"]

/-- A preset for headings with the fields that a section overrides. -/
def overrideHeading (place : String) (preset : HeadingStyle) (v : Value) :
    Except Fault HeadingStyle := do
  let entries ← sectionEntries place headingKeys v
  let spacing ← overrideSpacing place entries preset.spacing
  .ok
    { size := override entries "size_pt" preset.size
      spacing := spacing
      font := override entries "font" preset.font
      bold := override entries "bold" preset.bold
      color := override entries "color" preset.color }

/-- The keys of the preset for code. -/
def codeKeys : List String := ["name", "font", "size_pt", "spacing"]

/-- The preset for code with the fields that a section overrides. -/
def overrideCode (preset : CodeStyle) (v : Value) : Except Fault CodeStyle := do
  let entries ← sectionEntries "code" codeKeys v
  let spacing ← overrideSpacing "code" entries preset.spacing
  .ok
    { name := override entries "name" preset.name
      font := override entries "font" preset.font
      size := override entries "size_pt" preset.size
      spacing := spacing }

/-- The presets of headings after the sections for levels, one after the other. -/
def overrideHeadings : Value.Entries → Headings → Except Fault Headings
  | [], h => .ok h
  | (key, v) :: rest, h => do
    let level ← levelOf key
    let style ← overrideHeading ("headings." ++ toString level.number) (h.get level) v
    overrideHeadings rest (h.set level style)

/-! ## The whole style -/

/-- The entries of the presets for headings; nothing, and what is empty, has none. -/
def headingEntries : Value → Except Fault Value.Entries
  | .map entries => .ok entries
  | v => if v.isTruthy then .error .headingsNotMapping else .ok []

/-- The keys of a style. -/
def configKeys : List String :=
  ["font", "size_pt", "mono_font", "fallback_color", "headings", "code"]

/-- The standard style with what some entries override. -/
def ofEntries (entries : Value.Entries) : Except Fault Config := do
  match ← unknownAmong configKeys entries with
  | [] => pure ()
  | unknown => throw (.unknownKeys unknown)
  let standard := Config.standard
  let headings ←
    match Value.lookup "headings" entries with
    | none => pure standard.headings
    | some v => do overrideHeadings (← headingEntries v) standard.headings
  let code ←
    match Value.lookup "code" entries with
    | none => pure standard.code
    | some v => overrideCode standard.code v
  .ok
    { standard with
      font := override entries "font" standard.font
      size := override entries "size_pt" standard.size
      monoFont := override entries "mono_font" standard.monoFont
      fallbackColor := override entries "fallback_color" standard.fallbackColor
      headings := headings
      code := code }

/-- The standard style with what a value overrides. -/
def ofValue : Value → Except Fault Config
  | .map entries => ofEntries entries
  | _ => .error .notMapping

/-- The standard style with what a YAML text overrides; nothing, and what is empty,
    overrides nothing. -/
def ofYaml (text : String) : Except Fault Config :=
  match Yaml.load? (String.ofList (unifyBreaks text.toList)) with
  | .error fault => .error (.unreadable fault)
  | .ok v => if v.isTruthy then ofValue v else ofValue (.map [])

end Manuscript.Style
