import Manuscript.CommandLine.Run
import Manuscript.Proofs.CommandLine.Writing

/-!
# What a run leaves

A run reads what its words ask for (`Reads`): the source, where the document goes, the style
and the text. It converts the text, and writes the document only then. `Comes` has one case
for each way to an end, with the files that are left at it, and `run_comes` finds the one of
a run; as there is only one thing to read, the end of a run tells how it came to it.

* `run_allOrNothing`: a run leaves all files as they are, or the document and the directories
  on the way to it.
-/

namespace Manuscript.CommandLine

open Manuscript.Formula Manuscript.Success

variable {homes : Homes} {fs fs' : Files} {here : List String} {input : String} {a : Arguments}
  {words : List String} {t t' : Task} {text text' : List Char}

/-! ## Reading -/

/-- What the arguments of a run ask for is there: a source at a path, a path for the document,
    a style, and a text in the source. -/
structure Asks (homes : Homes) (fs : Files) (here : List String) (input : String) (a : Arguments)
    (t : Task) (text : List Char) : Prop where
  /-- The path of the source has been given. -/
  source : expandHome homes (Path.ofString input) = .ok t.source
  /-- Something is at this path. -/
  isThere : ∃ entry, fs.find here t.source = .ok entry
  /-- The document has a path. -/
  target : outputPath? fs t.source a.output here = .ok (some t.target)
  /-- The style is the one that is configured. -/
  style : styleAt fs here a.style = .ok t.config
  /-- The source is a text. -/
  text : textAt fs here t.source readSource? = .ok text

/-- All that a run reads before it converts a text has been read. -/
def Reads (homes : Homes) (fs : Files) (here : List String) (words : List String) (t : Task)
    (text : List Char) : Prop :=
  ∃ input a, readArguments words = .ok (input, a) ∧ Asks homes fs here input a t text

theorem Reads.asks (h : Reads homes fs here words t text)
    (hwords : readArguments words = .ok (input, a)) : Asks homes fs here input a t text := by
  obtain ⟨input', a', hwords', hasks⟩ := h
  obtain ⟨rfl, rfl⟩ := Prod.mk.inj (Except.ok.inj (hwords.symm.trans hwords'))
  exact hasks

/-- There is one thing to read. -/
theorem Reads.unique (h : Reads homes fs here words t text)
    (h' : Reads homes fs here words t' text') : t = t' ∧ text = text' := by
  obtain ⟨input, a, hwords, hasks⟩ := h
  have hasks' := h'.asks hwords
  obtain ⟨source, target, config⟩ := t
  obtain ⟨source', target', config'⟩ := t'
  obtain rfl := Except.ok.inj (hasks.source.symm.trans hasks'.source)
  obtain rfl := Option.some.inj (Except.ok.inj (hasks.target.symm.trans hasks'.target))
  obtain rfl := Except.ok.inj (hasks.style.symm.trans hasks'.style)
  exact ⟨rfl, Except.ok.inj (hasks.text.symm.trans hasks'.text)⟩

theorem Files.find?_eq_ok_some_iff {p : Path} {e : Entry} :
    fs.find? here p = .ok (some e) ↔ fs.find here p = .ok e := by
  unfold Files.find?
  split
  · next h => simp [h]
  · next h => simp [h]
  · next h => simp [h]

theorem taskOf_eq_ok_iff :
    taskOf homes fs here input a = .ok t ↔
      expandHome homes (Path.ofString input) = .ok t.source
        ∧ (∃ entry, fs.find here t.source = .ok entry)
        ∧ outputPath? fs t.source a.output here = .ok (some t.target)
        ∧ styleAt fs here a.style = .ok t.config := by
  unfold taskOf
  simp only [bind_eq_ok_iff, mapError_eq_ok_iff]
  constructor
  · rintro ⟨source, hsource, found?, hfound, h⟩
    cases found? with
    | none => exact nomatch h
    | some entry =>
      obtain ⟨target?, htarget, h⟩ := bind_eq_ok_iff.1 h
      cases target? with
      | none => exact nomatch h
      | some target =>
        obtain ⟨config, hstyle, h⟩ := bind_eq_ok_iff.1 h
        obtain rfl := Except.ok.inj h
        exact ⟨hsource, ⟨entry, Files.find?_eq_ok_some_iff.1 hfound⟩, mapError_eq_ok_iff.1 htarget,
          hstyle⟩
  · rintro ⟨hsource, ⟨entry, hentry⟩, htarget, hstyle⟩
    refine ⟨t.source, hsource, some entry, Files.find?_eq_ok_some_iff.2 hentry, ?_⟩
    exact bind_eq_ok_iff.2 ⟨some t.target, mapError_eq_ok_iff.2 htarget,
      bind_eq_ok_iff.2 ⟨t.config, hstyle, rfl⟩⟩

/-- All that the arguments ask for is there exactly if they make a task with a source to read. -/
theorem asks_iff :
    Asks homes fs here input a t text ↔
      taskOf homes fs here input a = .ok t ∧ textAt fs here t.source readSource? = .ok text := by
  rw [taskOf_eq_ok_iff]
  exact ⟨fun ⟨source, isThere, target, style, text⟩ => ⟨⟨source, isThere, target, style⟩, text⟩,
    fun ⟨⟨source, isThere, target, style⟩, text⟩ => ⟨source, isThere, target, style, text⟩⟩

/-! ## Ends -/

variable {σ : Type} {bridge : Bridge σ} {s : σ}

/-- How a run comes to its end, and the files it leaves. -/
inductive Comes (bridge : Bridge σ) (s : σ) (homes : Homes) (words : List String) (fs : Files)
    (here : List String) : Ending → Files → Prop where
  /-- The words are not understood, or ask for help. -/
  | exit {e : Exit} (hwords : readArguments words = .error e) :
    Comes bridge s homes words fs here (.exit e) fs
  /-- Something that is asked for is not there. -/
  | unread {f : Fault} (hreads : ∀ t text, ¬ Reads homes fs here words t text) :
    Comes bridge s homes words fs here (.fault f) fs
  /-- The conversion fails with a fault that is known. -/
  | unconverted {t : Task} {text : List Char} {fault : Convert.Fault}
    (hreads : Reads homes fs here words t text)
    (hfails : (Convert.convert bridge t.config text s).result = .error fault)
    (hknown : fault.isKnown = true) :
    Comes bridge s homes words fs here (.code 1) fs
  /-- The conversion fails with another fault. -/
  | broken {t : Task} {text : List Char} {fault : Convert.Fault}
    (hreads : Reads homes fs here words t text)
    (hfails : (Convert.convert bridge t.config text s).result = .error fault)
    (hknown : fault.isKnown = false) :
    Comes bridge s homes words fs here (.fault (.conversion fault)) fs
  /-- The document cannot be written. -/
  | unwritten {t : Task} {text : List Char} {package : Package} {fault : FileFault} {fs' : Files}
    (hreads : Reads homes fs here words t text)
    (hconverts : (Convert.convert bridge t.config text s).result = .ok package)
    (hwrite : fs.write here t.target package = (.error fault, fs')) :
    Comes bridge s homes words fs here (.fault (.file fault)) fs'
  /-- The document has been written. -/
  | written {t : Task} {text : List Char} {package : Package} {fs' : Files}
    (hreads : Reads homes fs here words t text)
    (hconverts : (Convert.convert bridge t.config text s).result = .ok package)
    (hwrite : fs.write here t.target package = (.ok (), fs')) :
    Comes bridge s homes words fs here (.code 0) fs'

/-- A run comes to an end once it has read what is asked for. -/
theorem comes_of_reads (bridge : Bridge σ) (s : σ) (hreads : Reads homes fs here words t text)
    (said : List Log.Notice) :
    Comes bridge s homes words fs here
      (finish t fs here said (Convert.convert bridge t.config text s)).ending
      (finish t fs here said (Convert.convert bridge t.config text s)).files := by
  unfold finish
  cases hresult : (Convert.convert bridge t.config text s).result with
  | error fault =>
    cases hknown : fault.isKnown with
    | true =>
      simp only [hknown, if_true]
      exact .unconverted hreads hresult hknown
    | false =>
      simp only [hknown, Bool.false_eq_true, if_false]
      exact .broken hreads hresult hknown
  | ok package =>
    rcases hwrite : fs.write here t.target package with ⟨_ | _, fs'⟩
    · simp only [hwrite]
      exact .unwritten hreads hresult hwrite
    · simp only [hwrite]
      exact .written hreads hresult hwrite

/-- A run whose words ask for a task comes to an end. -/
theorem comes_of_taskOf (bridge : Bridge σ) (s : σ) (hwords : readArguments words = .ok (input, a))
    (htask : taskOf homes fs here input a = .ok t) :
    Comes bridge s homes words fs here (perform bridge s t fs here).ending
      (perform bridge s t fs here).files := by
  unfold perform
  cases htext : textAt fs here t.source readSource? with
  | error fault =>
    refine .unread fun t' text h => ?_
    obtain ⟨htask', htext'⟩ := asks_iff.1 (h.asks hwords)
    obtain rfl := Except.ok.inj (htask.symm.trans htask')
    exact nomatch htext.symm.trans htext'
  | ok text => exact comes_of_reads bridge s ⟨input, a, hwords, asks_iff.2 ⟨htask, htext⟩⟩ _

/-- Every run comes to an end in one of the ways. -/
theorem run_comes (bridge : Bridge σ) (s : σ) (homes : Homes) (words : List String) (fs : Files)
    (here : List String) :
    Comes bridge s homes words fs here (run bridge s homes words fs here).ending
      (run bridge s homes words fs here).files := by
  unfold run
  cases hwords : readArguments words with
  | error e => exact .exit hwords
  | ok asked =>
    obtain ⟨input, a⟩ := asked
    cases htask : taskOf homes fs here input a with
    | error fault =>
      simp only [htask]
      exact .unread fun t text h => nomatch htask.symm.trans (asks_iff.1 (h.asks hwords)).1
    | ok t =>
      simp only [htask]
      exact comes_of_taskOf bridge s hwords htask

section

variable {ending : Ending}

/-- What has been read decides the end. -/
theorem Comes.of_reads (h : Comes bridge s homes words fs here ending fs')
    (hreads : Reads homes fs here words t text) :
    ending = (finish t fs here [] (Convert.convert bridge t.config text s)).ending := by
  cases h with
  | exit hwords =>
    obtain ⟨input, a, hwords', -⟩ := hreads
    exact nomatch hwords.symm.trans hwords'
  | unread hnone => exact absurd hreads (hnone t text)
  | unconverted hreads' hfails hknown =>
    obtain ⟨rfl, rfl⟩ := hreads'.unique hreads
    simp [finish, hfails, hknown]
  | broken hreads' hfails hknown =>
    obtain ⟨rfl, rfl⟩ := hreads'.unique hreads
    simp [finish, hfails, hknown]
  | unwritten hreads' hconverts hwrite =>
    obtain ⟨rfl, rfl⟩ := hreads'.unique hreads
    simp [finish, hconverts, hwrite]
  | written hreads' hconverts hwrite =>
    obtain ⟨rfl, rfl⟩ := hreads'.unique hreads
    simp [finish, hconverts, hwrite]

/-- Files change only where a document is written. -/
theorem Comes.eq_of_not_converted (h : Comes bridge s homes words fs here ending fs')
    (hnone : ∀ t text package, Reads homes fs here words t text →
      (Convert.convert bridge t.config text s).result ≠ .ok package) : fs' = fs := by
  cases h with
  | exit | unread | unconverted | broken => rfl
  | unwritten hreads hconverts | written hreads hconverts =>
    exact absurd hconverts (hnone _ _ _ hreads)

theorem Comes.code_one_iff (h : Comes bridge s homes words fs here ending fs') :
    ending = .code 1 ↔ ∃ t text fault, Reads homes fs here words t text
      ∧ (Convert.convert bridge t.config text s).result = .error fault ∧ fault.isKnown = true := by
  constructor
  · rintro rfl
    cases h with
    | unconverted hreads hfails hknown => exact ⟨_, _, _, hreads, hfails, hknown⟩
  · rintro ⟨t, text, fault, hreads, hfails, hknown⟩
    simp [h.of_reads hreads, finish, hfails, hknown]

theorem Comes.code_zero_iff (h : Comes bridge s homes words fs here ending fs') :
    ending = .code 0 ↔ ∃ t text package, Reads homes fs here words t text
      ∧ (Convert.convert bridge t.config text s).result = .ok package
      ∧ (fs.write here t.target package).1 = .ok () := by
  constructor
  · rintro rfl
    cases h with
    | written hreads hconverts hwrite =>
      exact ⟨_, _, _, hreads, hconverts, congrArg Prod.fst hwrite⟩
  · rintro ⟨t, text, package, hreads, hconverts, hwrite⟩
    rcases hwritten : fs.write here t.target package with ⟨_ | _, left⟩
    · exact nomatch (hwritten ▸ hwrite :)
    · simp [h.of_reads hreads, finish, hconverts, hwritten]

end

/-! ## The law -/

/-- A run is all or nothing: it leaves the files as they are, or it leaves the document of the
    text it has read. -/
structure IsAllOrNothing (bridge : Bridge σ) (s : σ) (homes : Homes) (words : List String)
    (fs : Files) (here : List String) (r : Report) : Prop where
  /-- Unless a text is read and converted, nothing changes. -/
  unwritten : (∀ t text package, Reads homes fs here words t text →
    (Convert.convert bridge t.config text s).result ≠ .ok package) → r.files = fs
  /-- Nothing changes if the words are not understood. -/
  exit : ∀ e, r.ending = .exit e → r.files = fs
  /-- The number is one exactly if a text is read and its conversion fails with a fault that is
      known. -/
  one_iff : r.ending = .code 1 ↔ ∃ t text fault, Reads homes fs here words t text
    ∧ (Convert.convert bridge t.config text s).result = .error fault ∧ fault.isKnown = true
  /-- Nothing changes then. -/
  one : r.ending = .code 1 → r.files = fs
  /-- A fault changes nothing, unless it comes from the file system when the document is
      written. -/
  fault : ∀ f, r.ending = .fault f → r.files = fs ∨
    ∃ t text package fault, Reads homes fs here words t text
      ∧ (Convert.convert bridge t.config text s).result = .ok package
      ∧ fs.write here t.target package = (.error fault, r.files) ∧ f = .file fault
  /-- The number is zero exactly if a text is read and converted, and the document can be
      written. -/
  zero_iff : r.ending = .code 0 ↔ ∃ t text package, Reads homes fs here words t text
    ∧ (Convert.convert bridge t.config text s).result = .ok package
    ∧ (fs.write here t.target package).1 = .ok ()
  /-- The document stands at its path then, and nothing else is new but directories on the way
      to it. -/
  zero : r.ending = .code 0 → ∃ t text package, Reads homes fs here words t text
    ∧ (Convert.convert bridge t.config text s).result = .ok package
    ∧ fs.IsWritten r.files here t.target package
  /-- There is no other number. -/
  codes : ∀ n, r.ending = .code n → n = 0 ∨ n = 1

/-- Every run is all or nothing, whatever its words, its files and its bridge are. -/
theorem run_allOrNothing (bridge : Bridge σ) (s : σ) (homes : Homes) (words : List String)
    (fs : Files) (here : List String) :
    IsAllOrNothing bridge s homes words fs here (run bridge s homes words fs here) := by
  have hcomes := run_comes bridge s homes words fs here
  generalize run bridge s homes words fs here = r at hcomes ⊢
  obtain ⟨ending, notices, left⟩ := r
  exact {
    unwritten := hcomes.eq_of_not_converted
    exit := by
      rintro e rfl
      cases hcomes with
      | exit => rfl
    one_iff := hcomes.code_one_iff
    one := by
      rintro rfl
      cases hcomes with
      | unconverted => rfl
    fault := by
      rintro f rfl
      cases hcomes with
      | unread | broken => exact .inl rfl
      | unwritten hreads hconverts hwrite =>
        exact .inr ⟨_, _, _, _, hreads, hconverts, hwrite, rfl⟩
    zero_iff := hcomes.code_zero_iff
    zero := by
      rintro rfl
      cases hcomes with
      | written hreads hconverts hwrite =>
        exact ⟨_, _, _, hreads, hconverts, Files.isWritten_of_write hwrite⟩
    codes := by
      rintro n rfl
      cases hcomes with
      | unconverted => exact .inr rfl
      | written => exact .inl rfl }

end Manuscript.CommandLine
