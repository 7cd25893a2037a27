import Manuscript.Proofs.CommandLine.Effects
import Manuscript.Proofs.CommandLine.Path
import Manuscript.Proofs.CommandLine.Suffix

/-!
# Where the document goes

The document of a source goes beside it, or into a directory that is given. Beside the source
its path is that of the source with another suffix; in a directory its name is put together from
the stem of the source. Both come to the same name (`IsTitle`), so that the document is called
the same wherever it goes.

Unless the source has the suffix of documents already, this is another name than that of the
source. One way goes to one directory, and from there different names go to different places.
So a run that has been given no place leaves its source as it was, however it ends.

* `outputPath?_agrees`: both ways to say where the document goes;
* `locate_ne_of_name_ne`: different names go to different places;
* `run_keepsSource`: what is at the path of the source is there after a run.
-/

namespace Manuscript.CommandLine

open Manuscript.Formula

variable {source : Path} {fs : Files} {here : List String}

/-! ## Names of documents -/

theorem five_le_length_documentName (name : String) : 5 ≤ (documentName name).length := by
  rw [documentName, String.length_append]
  exact Nat.le_add_left 5 _

/-- The name of a document is longer than points alone, and is not empty. -/
theorem documentName_ne {name short : String} (h : short.length < 5) :
    documentName name ≠ short :=
  fun heq => absurd (heq ▸ five_le_length_documentName name) (Nat.not_le.2 h)

theorem isName_documentName {name : String} (h : IsName name) : IsName (documentName name) := by
  refine ⟨documentName_ne (by decide), documentName_ne (by decide), fun hmem => ?_⟩
  rw [documentName, String.toList_append] at hmem
  rcases List.mem_append.1 hmem with hmem | hmem
  · refine h.notMem ?_
    rw [← stem_append_suffix name, String.toList_append]
    exact List.mem_append_left _ hmem
  · exact absurd hmem (by decide)

/-! ## The path of the document -/

theorem outputPath?_of_none {output : Option String} (h : output = none ∨ output = some "") :
    outputPath? fs source output here = .ok source.beside? := by
  rcases h with rfl | rfl <;> rfl

/-- Into a directory the document goes by its name. -/
theorem outputPath?_of_directory {text : String} (htext : text ≠ "")
    (h : fs.find here (.ofString text) = .ok .directory) :
    outputPath? fs source (some text) here
      = .ok (some ((Path.ofString text).child (documentName source.name))) := by
  have hfind : fs.find? here (.ofString text) = .ok (some .directory) :=
    Files.find?_eq_ok_some_iff.2 h
  have hgiven : (some text).filter (fun o => !o.isEmpty) = some text := by
    simp [Option.filter, htext]
  rw [outputPath?, hgiven]
  simp only [hfind]
  rfl

/-- The document goes beside a source that has a name. -/
theorem beside?_eq_some_iff {target : Path} :
    source.beside? = some target ↔ source.name ≠ "" ∧
      target = { source.parent with parts := source.parent.parts ++ [documentName source.name] } := by
  rw [Path.beside?, Path.withSuffix?, replaceSuffix_eq]
  by_cases h : source.name = ""
  · simp [h]
  · simp only [String.isEmpty_iff, h, if_false, Option.some_inj, ne_eq, not_false_eq_true, true_and]
    exact eq_comm

/-- The document of a source has one name wherever it goes, into a directory that is given or to
    the parent of the source: that of the source, with the suffix of documents in the place of
    its own. Beside the source it has the path of the source only if that has the suffix already.
    The path has to be regular, as that of every text is. -/
theorem outputPath?_agrees (hsource : source.IsRegular) (hname : source.name ≠ "") (fs : Files)
    (here : List String) :
    ∃ title, IsTitle source.name title
      ∧ (∀ text, text ≠ "" → fs.find here (.ofString text) = .ok .directory →
        outputPath? fs source (some text) here = .ok (some ((Path.ofString text).child title)))
      ∧ (∀ output, output = none ∨ output = some "" →
        outputPath? fs source output here = .ok (some (source.parent.child title))
          ∧ (outputPath? fs source output here = .ok (some source) ↔
            ∃ front, HasSuffix source.name front "docx"))
      ∧ ∀ d : Path, (d.child title).parent = d ∧ (d.child title).name = title := by
  have htitle : IsName (documentName source.name) := isName_documentName (hsource.isName hname)
  have hself : source.parent.child (documentName source.name) = source ↔
      ∃ front, HasSuffix source.name front "docx" := by
    rw [← documentName_eq_self_iff]
    constructor
    · intro heq
      rw [Path.child_eq htitle] at heq
      exact (Path.name_concat _ _).symm.trans (congrArg Path.name heq)
    · intro heq
      rw [heq, Path.child_parent hsource hname]
  refine ⟨documentName source.name, isTitle_iff.2 rfl,
    fun text htext h => outputPath?_of_directory htext h, fun output houtput => ?_, fun d => ?_⟩
  · have hbeside : outputPath? fs source output here
        = .ok (some (source.parent.child (documentName source.name))) := by
      rw [outputPath?_of_none houtput, beside?_eq_some_iff.2 ⟨hname, rfl⟩, Path.child_eq htitle]
    refine ⟨hbeside, ?_⟩
    rw [hbeside, Except.ok.injEq, Option.some_inj]
    exact hself
  · rw [Path.child_eq htitle]
    exact ⟨Path.parent_concat d _, Path.name_concat d _⟩

/-- A source with two points in its name. -/
theorem outputPath?_agrees_twoPoints :
    let source := Path.ofString "notes/a.tar.gz"
    let fs : Files := [(["work"], .directory), (["work", "out"], .directory)]
    (source.IsRegular ∧ source.name ≠ "" ∧ fs.find ["work"] (.ofString "out") = .ok .directory)
      ∧ IsTitle "a.tar.gz" "a.tar.docx"
      ∧ outputPath? fs source (some "out") ["work"] = .ok (some ⟨"", ["out", "a.tar.docx"]⟩)
      ∧ outputPath? fs source none ["work"] = .ok (some ⟨"", ["notes", "a.tar.docx"]⟩)
      ∧ outputPath? fs source (some "") ["work"] ≠ .ok (some source) := by
  intro source fs
  have hsource : source.IsRegular := Path.isRegular_ofString _
  have hname : source.name ≠ "" := by decide +kernel
  have hdirectory : fs.find ["work"] (.ofString "out") = .ok .directory := by rfl
  obtain ⟨title, htitle, hinto, hbeside, -⟩ := outputPath?_agrees hsource hname fs ["work"]
  obtain rfl : title = "a.tar.docx" := (isTitle_iff.1 htitle).trans (by decide +kernel)
  refine ⟨⟨hsource, hname, hdirectory⟩, htitle, ?_, ?_, ?_⟩
  · rw [hinto "out" (by decide) hdirectory]
    decide +kernel
  · rw [(hbeside none (.inl rfl)).1]
    decide +kernel
  · rw [(hbeside (some "") (.inr rfl)).1]
    decide +kernel

/-! ## The place of the document -/

/-- From one directory, different names go to different places, if one of them does not go up. -/
theorem Files.locate_ne_of_name_ne {p q : Path} {place : List String} (hparent : p.parent = q.parent)
    (hp : p.name ≠ "") (hq : q.name ≠ "") (hup : q.name ≠ "..") (hne : p.name ≠ q.name)
    (h : fs.locate here p = .ok place) : fs.locate here q ≠ .ok place := by
  intro h'
  have hroot : p.parent.root = q.parent.root := congrArg Path.root hparent
  have horigin : origin here p = origin here q := congrArg (if ·.isEmpty then here else []) hroot
  rw [locate_eq_ok_iff, Path.parts_eq hp, hparent, horigin] at h
  rw [locate_eq_ok_iff, Path.parts_eq hq] at h'
  obtain ⟨next, hnext, hlast⟩ := walk_append.1 h.2
  obtain ⟨_, hnext', hlast'⟩ := walk_append.1 h'.2
  obtain rfl := Except.ok.inj (hnext.symm.trans hnext')
  obtain ⟨_, hstep, hdone⟩ := walk_cons.1 hlast
  obtain ⟨_, hstep', hdone'⟩ := walk_cons.1 hlast'
  obtain rfl := Except.ok.inj hdone
  obtain rfl := Except.ok.inj hdone'
  obtain ⟨-, -, hplace⟩ := step_eq_ok_iff.1 hstep
  obtain ⟨-, -, hplace'⟩ := step_eq_ok_iff.1 hstep'
  rw [if_neg (by simpa using hup)] at hplace'
  by_cases hdots : p.name = ".."
  · -- The place that lies above is nearer to the root than the one that has a name.
    rw [if_pos (by simpa using hdots)] at hplace
    have hlength := congrArg List.length (hplace.trans hplace'.symm)
    rw [List.length_dropLast, List.length_append, List.length_singleton] at hlength
    omega
  · rw [if_neg (by simpa using hdots)] at hplace
    have hnames := (List.append_right_inj next).1 (hplace.trans hplace'.symm)
    exact hne (List.cons.inj hnames).1

/-- Given no place, the document goes to another place than its source has, unless the source has
    the suffix of documents. -/
theorem locate_beside_ne {target : Path} (htarget : source.beside? = some target)
    (hsuffix : ∀ front, ¬ HasSuffix source.name front "docx") {place : List String}
    (h : fs.locate here source = .ok place) : fs.locate here target ≠ .ok place := by
  obtain ⟨hname, rfl⟩ := beside?_eq_some_iff.1 htarget
  have htitle : documentName source.name ≠ source.name := fun heq =>
    (documentName_eq_self_iff.1 heq).elim hsuffix
  refine Files.locate_ne_of_name_ne (Path.parent_concat _ _).symm hname ?_ ?_ ?_ h
  all_goals rw [Path.name_concat]
  · exact documentName_ne (by decide)
  · exact documentName_ne (by decide)
  · exact htitle.symm

/-! ## A run that is given no place -/

section

variable {homes : Homes} {words : List String} {input : String} {a : Arguments}

/-- What is at the path of a source is there when its document has been written beside it, or
    could not be written. -/
theorem Asks.find_of_write {t : Task} {text : List Char} (h : Asks homes fs here input a t text)
    (houtput : a.output = none ∨ a.output = some "")
    (hsuffix : ∀ front, ¬ HasSuffix t.source.name front "docx") {package : Package} {fs' : Files}
    {result : Except FileFault Unit} (hwrite : fs.write here t.target package = (result, fs')) :
    fs'.find here t.source = fs.find here t.source := by
  obtain ⟨entry, hentry⟩ := h.isThere
  have htarget : t.source.beside? = some t.target :=
    Except.ok.inj ((outputPath?_of_none houtput).symm.trans h.target)
  rw [hentry]
  exact Files.find_of_write hwrite (fun _ => locate_beside_ne htarget hsuffix) hentry

/-- A run that is given no place for the document, and whose source does not have the suffix of
    documents, leaves at the path of its source what is there, whatever it ends with. -/
theorem run_keepsSource {σ : Type} (bridge : Bridge σ) (s : σ)
    (hwords : readArguments words = .ok (input, a))
    (houtput : a.output = none ∨ a.output = some "")
    (hsource : expandHome homes (.ofString input) = .ok source)
    (hsuffix : ∀ front, ¬ HasSuffix source.name front "docx") (fs : Files) (here : List String) :
    (run bridge s homes words fs here).files.find here source = fs.find here source := by
  -- There is one source to read.
  have hasked {t : Task} {text : List Char} (hreads : Reads homes fs here words t text) :
      Asks homes fs here input a t text ∧ t.source = source :=
    ⟨hreads.asks hwords, Except.ok.inj ((hreads.asks hwords).source.symm.trans hsource)⟩
  have hcomes := run_comes bridge s homes words fs here
  generalize run bridge s homes words fs here = r at hcomes ⊢
  obtain ⟨ending, notices, left⟩ := r
  cases hcomes with
  | exit | unread | unconverted | broken => rfl
  | unwritten hreads hconverts hwrite | written hreads hconverts hwrite =>
    obtain ⟨hasks, rfl⟩ := hasked hreads
    exact hasks.find_of_write houtput hsuffix hwrite

end

end Manuscript.CommandLine
