import Manuscript.Proofs.Success
import Manuscript.Style.Override
import Mathlib.Data.List.Basic

/-!
# Merging overrides

A style is made of fields (`Field`): those of running text, those of the headings of each
level and those of code, where a spacing counts as four fields of its own. An override gives
values for some of them (`Field.given`), found by the keys that lead to them. Headings may be
given more than once, for several keys name the same level: the last one that sets a field
counts.

Each field of the merged style is what the override gives for it, else the standard
(`get_of_ofValue`), whatever it gives for the other fields.

* `get_of_overrideHeadings`: sections for levels, one after the other;
* `Config.ext_get`: the fields, and the looks of numbers, are all that there is of a style.
-/

namespace Manuscript.Style

open Manuscript.Document Manuscript.Success

/-! ## Fields -/

/-- A field of a spacing. -/
inductive SpacingField where
  | before
  | after
  | line
  | lineRule
  deriving DecidableEq

/-- A field of the looks of a heading. -/
inductive HeadingField where
  | size
  | font
  | bold
  | color
  | spacing (field : SpacingField)
  deriving DecidableEq

/-- A field of the looks of code. -/
inductive CodeField where
  | name
  | font
  | size
  | spacing (field : SpacingField)
  deriving DecidableEq

/-- A field of the looks of running text. -/
inductive TextField where
  | font
  | size
  | monoFont
  | fallbackColor
  deriving DecidableEq

/-- A field of a style. -/
inductive Field where
  | text (field : TextField)
  | heading (level : Level) (field : HeadingField)
  | code (field : CodeField)
  deriving DecidableEq

namespace SpacingField

/-- The key of a field. -/
def key : SpacingField → String
  | before => "before"
  | after => "after"
  | line => "line"
  | lineRule => "line_rule"

/-- The value of a field. -/
def get (s : Spacing) : SpacingField → Value
  | before => s.before
  | after => s.after
  | line => s.line
  | lineRule => s.lineRule

/-- A spacing with another value for a field. -/
def set (s : Spacing) (v : Value) : SpacingField → Spacing
  | before => { s with before := v }
  | after => { s with after := v }
  | line => { s with line := v }
  | lineRule => { s with lineRule := v }

@[simp] theorem get_set (s : Spacing) (v : Value) (f g : SpacingField) :
    get (set s v f) g = if g = f then v else get s g := by
  cases f <;> cases g <;> rfl

theorem ext_get {s t : Spacing} (h : ∀ f, get s f = get t f) : s = t := by
  obtain ⟨before, after, line, lineRule⟩ := s
  obtain rfl : before = t.before := h .before
  obtain rfl : after = t.after := h .after
  obtain rfl : line = t.line := h .line
  obtain rfl : lineRule = t.lineRule := h .lineRule
  rfl

end SpacingField

namespace HeadingField

/-- The keys that lead to a field. -/
def path : HeadingField → List String
  | size => ["size_pt"]
  | font => ["font"]
  | bold => ["bold"]
  | color => ["color"]
  | spacing field => ["spacing", field.key]

/-- The value of a field. -/
def get (s : HeadingStyle) : HeadingField → Value
  | size => s.size
  | font => s.font
  | bold => s.bold
  | color => s.color
  | spacing field => field.get s.spacing

/-- The looks of a heading with another value for a field. -/
def set (s : HeadingStyle) (v : Value) : HeadingField → HeadingStyle
  | size => { s with size := v }
  | font => { s with font := v }
  | bold => { s with bold := v }
  | color => { s with color := v }
  | spacing field => { s with spacing := field.set s.spacing v }

@[simp] theorem get_set (s : HeadingStyle) (v : Value) (f g : HeadingField) :
    get (set s v f) g = if g = f then v else get s g := by
  cases f <;> cases g <;> simp [get, set]

theorem ext_get {s t : HeadingStyle} (h : ∀ f, get s f = get t f) : s = t := by
  obtain ⟨size, spacing, font, bold, color⟩ := s
  obtain rfl : size = t.size := h .size
  obtain rfl : font = t.font := h .font
  obtain rfl : bold = t.bold := h .bold
  obtain rfl : color = t.color := h .color
  obtain rfl : spacing = t.spacing := SpacingField.ext_get fun f => h (.spacing f)
  rfl

end HeadingField

namespace CodeField

/-- The keys that lead to a field. -/
def path : CodeField → List String
  | name => ["name"]
  | font => ["font"]
  | size => ["size_pt"]
  | spacing field => ["spacing", field.key]

/-- The value of a field. -/
def get (s : CodeStyle) : CodeField → Value
  | name => s.name
  | font => s.font
  | size => s.size
  | spacing field => field.get s.spacing

/-- The looks of code with another value for a field. -/
def set (s : CodeStyle) (v : Value) : CodeField → CodeStyle
  | name => { s with name := v }
  | font => { s with font := v }
  | size => { s with size := v }
  | spacing field => { s with spacing := field.set s.spacing v }

@[simp] theorem get_set (s : CodeStyle) (v : Value) (f g : CodeField) :
    get (set s v f) g = if g = f then v else get s g := by
  cases f <;> cases g <;> simp [get, set]

theorem ext_get {s t : CodeStyle} (h : ∀ f, get s f = get t f) : s = t := by
  obtain ⟨name, font, size, spacing⟩ := s
  obtain rfl : name = t.name := h .name
  obtain rfl : font = t.font := h .font
  obtain rfl : size = t.size := h .size
  obtain rfl : spacing = t.spacing := SpacingField.ext_get fun f => h (.spacing f)
  rfl

end CodeField

namespace TextField

/-- The key of a field. -/
def key : TextField → String
  | font => "font"
  | size => "size_pt"
  | monoFont => "mono_font"
  | fallbackColor => "fallback_color"

/-- The value of a field. -/
def get (c : Config) : TextField → Value
  | font => c.font
  | size => c.size
  | monoFont => c.monoFont
  | fallbackColor => c.fallbackColor

/-- A style with another value for a field. -/
def set (c : Config) (v : Value) : TextField → Config
  | font => { c with font := v }
  | size => { c with size := v }
  | monoFont => { c with monoFont := v }
  | fallbackColor => { c with fallbackColor := v }

@[simp] theorem get_set (c : Config) (v : Value) (f g : TextField) :
    get (set c v f) g = if g = f then v else get c g := by
  cases f <;> cases g <;> rfl

end TextField

/-- A style has the looks of headings that it has for each level. -/
theorem Headings.ext_get {h k : Headings} (heq : ∀ l, h.get l = k.get l) : h = k := by
  obtain ⟨one, two, three⟩ := h
  obtain rfl : one = k.one := heq .one
  obtain rfl : two = k.two := heq .two
  obtain rfl : three = k.three := heq .three
  rfl

namespace Config

/-- The value of a field. -/
def get (c : Config) : Field → Value
  | .text field => field.get c
  | .heading level field => field.get (c.headings.get level)
  | .code field => field.get c.code

/-- A style with another value for a field. -/
def set (c : Config) (v : Value) : Field → Config
  | .text field => field.set c v
  | .heading level field =>
    { c with headings := c.headings.set level (field.set (c.headings.get level) v) }
  | .code field => { c with code := field.set c.code v }

/-- Setting a field changes no other one. -/
@[simp] theorem get_set (c : Config) (v : Value) (f g : Field) :
    (c.set v f).get g = if g = f then v else c.get g := by
  rcases f with f | ⟨l, f⟩ | f <;> rcases g with g | ⟨m, g⟩ | g
  · simp [get, set]
  · cases f <;> rfl
  · cases f <;> rfl
  · cases g <;> rfl
  · by_cases hm : m = l
    · subst hm
      simp [get, set]
    · simp [get, set, hm]
  · rfl
  · cases g <;> rfl
  · rfl
  · simp [get, set]

@[simp] theorem numbering_set (c : Config) (v : Value) (f : Field) :
    (c.set v f).numbering = c.numbering := by
  rcases f with f | ⟨l, f⟩ | f
  · cases f <;> rfl
  · rfl
  · rfl

/-- A style is its fields and the looks of its numbers. -/
theorem ext_get {c d : Config} (h : ∀ f, c.get f = d.get f) (hn : c.numbering = d.numbering) :
    c = d := by
  obtain ⟨font, size, monoFont, fallbackColor, headings, numbering, code⟩ := c
  obtain rfl : font = d.font := h (.text .font)
  obtain rfl : size = d.size := h (.text .size)
  obtain rfl : monoFont = d.monoFont := h (.text .monoFont)
  obtain rfl : fallbackColor = d.fallbackColor := h (.text .fallbackColor)
  obtain rfl : headings = d.headings :=
    Headings.ext_get fun l => HeadingField.ext_get fun f => h (.heading l f)
  obtain rfl : numbering = d.numbering := hn
  obtain rfl : code = d.code := CodeField.ext_get fun f => h (.code f)
  rfl

end Config

/-! ## What an override gives -/

/-- The value that keys lead to, one mapping inside the other. -/
def valueAt? : (path : List String) → Value → Option Value
  | [], v => some v
  | key :: path, .map entries => (Value.lookup key entries).bind (valueAt? path)
  | _ :: _, _ => none

/-- The sections for levels that an override has, in order. -/
def levelSections (data : Value) : Value.Entries :=
  match valueAt? ["headings"] data with
  | some (.map entries) => entries
  | _ => []

/-- Whether a key stands for the number of a level. -/
def namesLevel (level : Level) (key : Value) : Bool :=
  (levelNumber key).toOption == some (level.number : Int)

/-- What some sections for levels give for a field of a level: the last of those that name
    the level and set the field. -/
def givenIn (level : Level) (field : HeadingField) (sections : Value.Entries) : Option Value :=
  (sections.filterMap fun entry =>
    if namesLevel level entry.1 then valueAt? field.path entry.2 else none).getLast?

/-- What an override gives for a field. -/
def Field.given (data : Value) : Field → Option Value
  | .text field => valueAt? [field.key] data
  | .heading level field => givenIn level field (levelSections data)
  | .code field => valueAt? ("code" :: field.path) data

theorem valueAt?_singleton (key : String) (entries : Value.Entries) :
    valueAt? [key] (.map entries) = Value.lookup key entries := by
  rw [valueAt?]
  cases Value.lookup key entries <;> rfl

theorem override_eq (entries : Value.Entries) (key : String) (preset : Value) :
    override entries key preset = (valueAt? [key] (.map entries)).getD preset := by
  rw [valueAt?_singleton, override]

/-! ## Sections -/

/-- A section that is taken is a mapping. -/
theorem eq_map_of_sectionEntries {place : String} {allowed : List String} {v : Value}
    {entries : Value.Entries} (h : sectionEntries place allowed v = .ok entries) :
    v = .map entries := by
  unfold sectionEntries at h
  split at h
  · obtain ⟨unknown, -, h⟩ := bind_eq_ok_iff.1 h
    split at h
    · rw [Except.ok.inj h]
    · cases h
  · cases h

/-- The fields of a spacing are merged one by one. -/
theorem get_of_overrideSpacing {place : String} {entries : Value.Entries}
    {preset spacing : Spacing} (h : overrideSpacing place entries preset = .ok spacing)
    (f : SpacingField) :
    f.get spacing = (valueAt? ["spacing", f.key] (.map entries)).getD (f.get preset) := by
  rw [valueAt?]
  unfold overrideSpacing at h
  split at h
  · next hnone =>
    rw [hnone, ← Except.ok.inj h]
    rfl
  · next fields hfields =>
    split at h
    · rw [hfields, ← Except.ok.inj h, Option.bind_some, valueAt?_singleton]
      cases f <;> rfl
    · cases h
  · cases h

theorem get_of_overrideHeading {place : String} {preset style : HeadingStyle} {v : Value}
    (h : overrideHeading place preset v = .ok style) (f : HeadingField) :
    f.get style = (valueAt? f.path v).getD (f.get preset) := by
  obtain ⟨entries, hentries, h⟩ := bind_eq_ok_iff.1 h
  obtain ⟨spacing, hspacing, h⟩ := bind_eq_ok_iff.1 h
  rw [eq_map_of_sectionEntries hentries, ← Except.ok.inj h]
  cases f with
  | spacing f => exact get_of_overrideSpacing hspacing f
  | _ => exact override_eq _ _ _

theorem get_of_overrideCode {preset style : CodeStyle} {v : Value}
    (h : overrideCode preset v = .ok style) (f : CodeField) :
    f.get style = (valueAt? f.path v).getD (f.get preset) := by
  obtain ⟨entries, hentries, h⟩ := bind_eq_ok_iff.1 h
  obtain ⟨spacing, hspacing, h⟩ := bind_eq_ok_iff.1 h
  rw [eq_map_of_sectionEntries hentries, ← Except.ok.inj h]
  cases f with
  | spacing f => exact get_of_overrideSpacing hspacing f
  | _ => exact override_eq _ _ _

/-! ## Levels -/

theorem Level.number_inj {l m : Level} : (l.number : Int) = m.number ↔ l = m := by
  cases l <;> cases m <;> decide

theorem Level.eq_number_of_ofInt? {n : Int} {l : Level} (h : ofInt? n = some l) : n = l.number := by
  have hfound := List.find?_some h
  exact (beq_iff_eq.1 hfound).symm

/-- A key that is taken names its level and no other one. -/
theorem namesLevel_of_levelOf {key : Value} {level : Level} (h : levelOf key = .ok level)
    (l : Level) : namesLevel l key = decide (l = level) := by
  obtain ⟨n, hn, h⟩ := bind_eq_ok_iff.1 h
  split at h
  · next found hfound =>
    obtain rfl := Except.ok.inj h
    rw [namesLevel, hn, Level.eq_number_of_ofInt? hfound, Bool.eq_iff_iff, beq_iff_eq,
      decide_eq_true_iff, Except.toOption, Option.some.injEq, Level.number_inj, eq_comm]
  · cases h

theorem givenIn_cons (level : Level) (field : HeadingField) (key v : Value)
    (sections : Value.Entries) :
    givenIn level field ((key, v) :: sections)
      = (givenIn level field sections).or
          (if namesLevel level key then valueAt? field.path v else none) := by
  rw [givenIn, List.filterMap_cons]
  split
  · next hnone =>
    rw [hnone, Option.or_none, givenIn]
  · next value hvalue =>
    rw [hvalue, List.getLast?_cons, givenIn]
    cases List.getLast? _ <;> rfl

/-- Sections for levels are merged one after the other: each changes the fields that it sets,
    of the level that it names. -/
theorem get_of_overrideHeadings {sections : Value.Entries} {preset headings : Headings}
    (h : overrideHeadings sections preset = .ok headings) :
    (∀ l f, HeadingField.get (headings.get l) f
        = (givenIn l f sections).getD (HeadingField.get (preset.get l) f))
      ∧ ∀ e ∈ sections, ∃ l, namesLevel l e.1 = true := by
  induction sections generalizing preset with
  | nil =>
    obtain rfl := Except.ok.inj h
    exact ⟨fun l f => rfl, fun e he => absurd he List.not_mem_nil⟩
  | cons e rest ih =>
    obtain ⟨key, v⟩ := e
    obtain ⟨level, hlevel, h⟩ := bind_eq_ok_iff.1 h
    obtain ⟨style, hstyle, h⟩ := bind_eq_ok_iff.1 h
    obtain ⟨hget, hnames⟩ := ih h
    have hnamed := namesLevel_of_levelOf hlevel
    refine ⟨fun l f => ?_, fun e he => ?_⟩
    · rw [hget l f, Headings.get_set, givenIn_cons, Option.getD_or, hnamed l]
      by_cases hl : l = level
      · -- Where later sections set nothing, this one counts, and then what was there.
        rw [if_pos hl, get_of_overrideHeading hstyle f, decide_eq_true hl, if_pos rfl, hl]
      · rw [if_neg hl, decide_eq_false hl, if_neg Bool.false_ne_true]
        rfl
    · rcases List.mem_cons.1 he with rfl | he
      · exact ⟨level, by rw [hnamed level, decide_eq_true rfl]⟩
      · exact hnames e he

/-! ## Whole styles -/

/-- The looks of headings that some entries make of the standard ones. -/
def headingsOf (entries : Value.Entries) : Except Fault Headings :=
  match Value.lookup "headings" entries with
  | none => .ok Config.standard.headings
  | some v => do overrideHeadings (← headingEntries v) Config.standard.headings

/-- The looks of code that some entries make of the standard ones. -/
def codeOf (entries : Value.Entries) : Except Fault CodeStyle :=
  match Value.lookup "code" entries with
  | none => .ok Config.standard.code
  | some v => overrideCode Config.standard.code v

/-- A style with the fields of running text that some entries override. -/
def withTextFields (entries : Value.Entries) (c : Config) : Config :=
  { c with
    font := override entries "font" c.font
    size := override entries "size_pt" c.size
    monoFont := override entries "mono_font" c.monoFont
    fallbackColor := override entries "fallback_color" c.fallbackColor }

/-- A style is merged section by section, after a look at its keys. -/
theorem ofEntries_eq (entries : Value.Entries) :
    ofEntries entries = (do
      let unknown ← unknownAmong configKeys entries
      if unknown = [] then do
        let headings ← headingsOf entries
        let code ← codeOf entries
        .ok (withTextFields entries { Config.standard with headings, code })
      else .error (.unknownKeys unknown)) := by
  unfold ofEntries headingsOf codeOf
  refine congrArg (unknownAmong configKeys entries >>= ·) (funext fun unknown => ?_)
  cases unknown with
  | cons key rest => rfl
  | nil =>
    rw [if_pos rfl]
    rcases Value.lookup "headings" entries with _ | v
    · rcases Value.lookup "code" entries with _ | w <;> rfl
    · -- The sections for levels are looked at before they are merged.
      rcases Value.lookup "code" entries with _ | w <;> exact (bind_assoc _ _ _).symm

theorem levelSections_of_headingEntries {entries sections : Value.Entries} {v : Value}
    (hv : Value.lookup "headings" entries = some v) (h : headingEntries v = .ok sections) :
    levelSections (.map entries) = sections := by
  rw [levelSections, valueAt?_singleton, hv]
  unfold headingEntries at h
  split at h
  · exact Except.ok.inj h
  · next hmap =>
    split at h
    · cases h
    · rw [← Except.ok.inj h]
      split
      · next heq => exact absurd (Option.some.inj heq) (hmap _)
      · rfl

theorem get_of_headingsOf {entries : Value.Entries} {headings : Headings}
    (h : headingsOf entries = .ok headings) :
    (∀ l f, HeadingField.get (headings.get l) f
        = (givenIn l f (levelSections (.map entries))).getD
            (HeadingField.get (Config.standard.headings.get l) f))
      ∧ ∀ e ∈ levelSections (.map entries), ∃ l, namesLevel l e.1 = true := by
  unfold headingsOf at h
  split at h
  · next hnone =>
    have hsections : levelSections (.map entries) = [] := by
      rw [levelSections, valueAt?_singleton, hnone]
    obtain rfl := Except.ok.inj h
    rw [hsections]
    exact ⟨fun l f => rfl, fun e he => absurd he List.not_mem_nil⟩
  · next v hv =>
    obtain ⟨sections, hsections, h⟩ := bind_eq_ok_iff.1 h
    rw [levelSections_of_headingEntries hv hsections]
    exact get_of_overrideHeadings h

theorem get_of_codeOf {entries : Value.Entries} {code : CodeStyle} (h : codeOf entries = .ok code)
    (f : CodeField) :
    f.get code = (valueAt? ("code" :: f.path) (.map entries)).getD (f.get Config.standard.code) := by
  rw [valueAt?]
  unfold codeOf at h
  split at h
  · next hnone =>
    rw [hnone, ← Except.ok.inj h]
    rfl
  · next v hv =>
    rw [hv, Option.bind_some]
    exact get_of_overrideCode h f

/-- What the merged style is, field by field. -/
theorem merged_of_ofEntries {entries : Value.Entries} {config : Config}
    (h : ofEntries entries = .ok config) :
    (∀ f, config.get f = (f.given (.map entries)).getD (Config.standard.get f))
      ∧ config.numbering = Config.standard.numbering
      ∧ ∀ e ∈ levelSections (.map entries), ∃ l, namesLevel l e.1 = true := by
  rw [ofEntries_eq] at h
  obtain ⟨unknown, -, h⟩ := bind_eq_ok_iff.1 h
  split at h
  · obtain ⟨headings, hheadings, h⟩ := bind_eq_ok_iff.1 h
    obtain ⟨code, hcode, h⟩ := bind_eq_ok_iff.1 h
    obtain ⟨hget, hnames⟩ := get_of_headingsOf hheadings
    obtain rfl := Except.ok.inj h
    refine ⟨fun f => ?_, rfl, hnames⟩
    rcases f with f | ⟨l, f⟩ | f
    · cases f <;> exact override_eq _ _ _
    · exact hget l f
    · exact get_of_codeOf hcode f
  · cases h

/-- A merged style has the standard looks of numbers, and each of its fields is what the
    override gives for it, else the standard; each section for a level names one of the three.
    So another override that gives the same for all fields but one makes the same style, up to
    that field. -/
theorem get_of_ofValue (entries : Value.Entries) (config : Config)
    (h : ofValue (.map entries) = .ok config) :
    (∀ f, config.get f = (f.given (.map entries)).getD (Config.standard.get f))
      ∧ config.numbering = Config.standard.numbering
      ∧ (∀ e ∈ levelSections (.map entries),
          ∃ l ∈ Level.all, (levelNumber e.1).toOption = some (l.number : Int))
      ∧ ∀ other config' f, ofValue (.map other) = .ok config' →
          (∀ g, g ≠ f → g.given (.map other) = g.given (.map entries)) →
          config' = config.set (config'.get f) f := by
  obtain ⟨hget, hnumbering, hnames⟩ := merged_of_ofEntries h
  refine ⟨hget, hnumbering, fun e he => ?_, fun other config' f h' hgiven => ?_⟩
  · obtain ⟨l, hl⟩ := hnames e he
    exact ⟨l, by cases l <;> decide, beq_iff_eq.1 hl⟩
  · obtain ⟨hget', hnumbering', -⟩ := merged_of_ofEntries h'
    refine Config.ext_get (fun g => ?_) ?_
    · rw [Config.get_set]
      by_cases hg : g = f
      · rw [if_pos hg, hg]
      · rw [if_neg hg, hget' g, hget g, hgiven g hg]
    · rw [Config.numbering_set, hnumbering', hnumbering]

/-- A font, and two sections for the first level: one for the text `1` and one for the
    number. -/
def twiceGiven (font : String) : Value.Entries :=
  [(.text "font", .text font),
   (.text "headings", .map
    [(.text "1", .map
      [(.text "size_pt", .int 20), (.text "spacing", .map [(.text "before", .int 10)])]),
     (.int 1, .map [(.text "size_pt", .int 22)])])]

/-- The later section wins where both set a field, and another font changes the font alone. -/
theorem get_of_ofValue_twiceGiven :
    ∃ config config', ofValue (.map (twiceGiven "Serif")) = .ok config
      ∧ ofValue (.map (twiceGiven "Sans")) = .ok config'
      ∧ config.get (.heading .one .size) = .int 22
      ∧ config.get (.heading .one (.spacing .before)) = .int 10
      ∧ config.get (.heading .one (.spacing .after)) = .int 100
      ∧ config' = config.set (.text "Sans") (.text .font) := by
  obtain ⟨config, h⟩ := exists_eq_ok (x := ofValue (.map (twiceGiven "Serif"))) (by decide +kernel)
  obtain ⟨config', h'⟩ := exists_eq_ok (x := ofValue (.map (twiceGiven "Sans"))) (by decide +kernel)
  obtain ⟨hget, -, -, hframe⟩ := get_of_ofValue _ config h
  obtain ⟨hget', -⟩ := get_of_ofValue _ config' h'
  refine ⟨config, config', h, h', hget _, hget _, hget _, ?_⟩
  have hfont : config'.get (.text .font) = .text "Sans" := hget' (.text .font)
  rw [← hfont]
  refine hframe _ config' _ h' fun g hg => ?_
  rcases g with f | ⟨l, f⟩ | f
  · cases f with
    | font => exact absurd rfl hg
    | _ => rfl
  · rfl
  · rfl

end Manuscript.Style
