import Manuscript.CommandLine.Files
import Manuscript.Proofs.Success

/-!
# Writing a package

A package is written at a path with the directories on the way to it. Until it is there only
directories come to be, where nothing was (`Files.Grows`), so the way that has been gone so
far can be gone again. The package takes the place of nothing or of a file, and the way to it
is the same afterwards.

* `makeDirectories_grows`: making directories, whether it succeeds or not;
* `isWritten_of_write`: what writing a package leaves;
* `find_of_write`: what stands elsewhere stays, whether the package can be written or not.
-/

namespace Manuscript.CommandLine.Files

open Manuscript.Success

variable {fs fs' fs'' : Files} {place : List String}

/-! ## Entries -/

theorem lookup?_of_ne_nil {names : List String} (h : names ≠ []) :
    fs.lookup? names = (List.find? (fun e => e.1 == names) fs).map (·.2) :=
  if_neg (by simpa using h)

/-- A place other than the root has the entry that is put there; the others keep theirs. -/
theorem lookup?_set {names : List String} (h : names ≠ []) (e : Entry) (other : List String) :
    (fs.set names e).lookup? other = if other = names then some e else fs.lookup? other := by
  by_cases hother : other = []
  · rw [hother, if_neg (Ne.symm h)]
    rfl
  rw [lookup?_of_ne_nil hother, lookup?_of_ne_nil hother, Files.set]
  split
  · next hany =>
    -- Every entry keeps its name, so the first one of a name stays the first.
    have hname : ((fun e => e.1 == other) ∘ fun old => if old.1 == names then (names, e) else old)
        = fun old : List String × Entry => old.1 == other := by
      funext old
      by_cases hold : old.1 = names <;> simp [hold]
    rw [List.find?_map, hname]
    cases hfind : List.find? (fun old => old.1 == other) fs with
    | none =>
      have hne : other ≠ names := by
        rintro rfl
        obtain ⟨old, hmem, hold⟩ := List.any_eq_true.1 hany
        exact List.find?_eq_none.1 hfind old hmem hold
      rw [if_neg hne]
      rfl
    | some old =>
      have hold : old.1 = other := by simpa using List.find?_some hfind
      by_cases heq : other = names <;> simp [hold, heq]
  · next hnone =>
    rw [List.find?_append]
    by_cases heq : other = names
    · have hfind : List.find? (fun old => old.1 == names) fs = none :=
        List.find?_eq_none.2 fun old hold hname => hnone (List.any_eq_true.2 ⟨old, hold, hname⟩)
      simp [hfind, heq]
    · simp [heq, Ne.symm heq]

/-- Directories have been made at some places, where nothing was, and nothing else has changed. -/
def Grows (fs fs' : Files) (P : List String → Prop) : Prop :=
  ∀ names, fs'.lookup? names = fs.lookup? names ∨
    P names ∧ fs.lookup? names = none ∧ fs'.lookup? names = some .directory

/-- All directories of one tree are directories of another. -/
def KeepsDirectories (fs fs' : Files) : Prop :=
  ∀ names, fs.lookup? names = some .directory → fs'.lookup? names = some .directory

theorem KeepsDirectories.trans (h : fs.KeepsDirectories fs') (h' : fs'.KeepsDirectories fs'') :
    fs.KeepsDirectories fs'' :=
  fun names hnames => h' names (h names hnames)

/-- Where something was, nothing is made. -/
theorem Grows.lookup?_eq {P : List String → Prop} (h : fs.Grows fs' P) {names : List String}
    {e : Entry} (hlookup : fs.lookup? names = some e) : fs'.lookup? names = some e := by
  rcases h names with heq | ⟨-, hnone, -⟩
  · exact heq.trans hlookup
  · exact nomatch hnone.symm.trans hlookup

theorem Grows.keepsDirectories {P : List String → Prop} (h : fs.Grows fs' P) :
    fs.KeepsDirectories fs' :=
  fun _ => h.lookup?_eq

theorem Grows.refl (fs : Files) (P : List String → Prop) : fs.Grows fs P := fun _ => .inl rfl

theorem Grows.imp {P Q : List String → Prop} (h : fs.Grows fs' P)
    (hPQ : ∀ names, P names → Q names) : fs.Grows fs' Q :=
  fun names => (h names).imp_right fun ⟨hp, hrest⟩ => ⟨hPQ names hp, hrest⟩

theorem Grows.trans {P : List String → Prop} (h : fs.Grows fs' P) (h' : fs'.Grows fs'' P) :
    fs.Grows fs'' P := by
  intro names
  rcases h' names with heq' | ⟨hp, hnone, hdirectory⟩
  · rw [heq']
    exact h names
  · rcases h names with heq | ⟨-, -, hdirectory'⟩
    · exact .inr ⟨hp, heq ▸ hnone, hdirectory⟩
    · exact nomatch hnone.symm.trans hdirectory'

theorem keepsDirectories_set {target : List String} (htarget : target ≠ [])
    (h : fs.lookup? target ≠ some .directory) (e : Entry) :
    fs.KeepsDirectories (fs.set target e) := by
  intro names hnames
  have hne : names ≠ target := by
    rintro rfl
    exact h hnames
  rw [lookup?_set htarget, if_neg hne, hnames]

theorem ne_nil_of_lookup? {names : List String} (h : fs.lookup? names ≠ some .directory) :
    names ≠ [] := by
  rintro rfl
  exact h rfl

/-! ## Ways -/

/-- A step leads from a directory, up or by a name that is not too long. -/
theorem step_eq_ok_iff {name : String} {next : List String} :
    fs.step place name = .ok next ↔ fs.lookup? place = some .directory
      ∧ name.utf8ByteSize ≤ maxName
      ∧ (if name == ".." then place.dropLast else place ++ [name]) = next := by
  unfold step
  split
  · next h => simp [h]
  · next h => simp [h]
  · next h =>
    by_cases hlong : name.utf8ByteSize > maxName
    · simp [hlong, Nat.not_le.2 hlong]
    · by_cases hup : (name == "..") = true <;> simp [h, hlong, hup, Nat.not_lt.1 hlong]

theorem step_mono (h : fs.KeepsDirectories fs') {name : String} {next : List String}
    (hstep : fs.step place name = .ok next) : fs'.step place name = .ok next := by
  obtain ⟨hplace, hrest⟩ := step_eq_ok_iff.1 hstep
  exact step_eq_ok_iff.2 ⟨h place hplace, hrest⟩

theorem walk_cons {name : String} {parts : List String} {target : List String} :
    fs.walk place (name :: parts) = .ok target ↔
      ∃ next, fs.step place name = .ok next ∧ fs.walk next parts = .ok target := by
  rw [walk, List.foldlM_cons, bind_eq_ok_iff]
  rfl

/-- Where all directories are still there, a way leads to the same place. -/
theorem walk_mono (h : fs.KeepsDirectories fs') {parts : List String} {target : List String}
    (hwalk : fs.walk place parts = .ok target) : fs'.walk place parts = .ok target := by
  induction parts generalizing place with
  | nil => exact hwalk
  | cons name rest ih =>
    obtain ⟨next, hstep, hrest⟩ := walk_cons.1 hwalk
    exact walk_cons.2 ⟨next, step_mono h hstep, ih hrest⟩

theorem walk_append {before after : List String} {target : List String} :
    fs.walk place (before ++ after) = .ok target ↔
      ∃ next, fs.walk place before = .ok next ∧ fs.walk next after = .ok target := by
  rw [walk, List.foldlM_append, bind_eq_ok_iff]
  rfl

/-! ## Directories -/

/-- A step that makes a directory makes it where the step leads. -/
theorem stepMaking_grows (fs : Files) (place : List String) (name : String) :
    fs.Grows (fs.stepMaking place name).2 (fun names => fs.step place name = .ok names)
      ∧ ∀ next, (fs.stepMaking place name).1 = .ok next → fs.step place name = .ok next := by
  unfold stepMaking
  split
  · exact ⟨.refl fs _, nofun⟩
  · next target hstep =>
    split
    · exact ⟨.refl fs _, fun next h => Except.ok.inj h ▸ hstep⟩
    · exact ⟨.refl fs _, nofun⟩
    · next hnone =>
      refine ⟨fun names => ?_, fun next h => Except.ok.inj h ▸ hstep⟩
      have hne : target ≠ [] := ne_nil_of_lookup? (by rw [hnone]; exact nofun)
      rw [lookup?_set hne]
      by_cases heq : names = target
      · rw [if_pos heq, heq]
        exact .inr ⟨hstep, hnone, rfl⟩
      · rw [if_neg heq]
        exact .inl rfl

/-- Only on the way directories are made, as far as it can be gone; one that has been made in
    full leads where it should. -/
theorem makeDirectories_grows (fs : Files) (place : List String) (parts : List String) :
    let fs' := (fs.makeDirectories place parts).2
    fs.Grows fs' (fun names => ∃ front, front <+: parts ∧ fs'.walk place front = .ok names)
      ∧ ∀ target, (fs.makeDirectories place parts).1 = .ok target →
        fs'.walk place parts = .ok target := by
  induction parts generalizing fs place with
  | nil => exact ⟨.refl fs _, fun target h => h⟩
  | cons name rest ih =>
    have hmaking := fs.stepMaking_grows place name
    -- The first step can be gone in every tree that keeps the directories.
    have hfirst {names : List String} {fs' : Files} (hkeeps : fs.KeepsDirectories fs')
        (h : fs.step place name = .ok names) :
        ∃ front, front <+: name :: rest ∧ fs'.walk place front = .ok names :=
      ⟨[name], ⟨rest, rfl⟩, walk_cons.2 ⟨names, step_mono hkeeps h, rfl⟩⟩
    rw [makeDirectories]
    split
    · next next fs₁ heq =>
      rw [heq] at hmaking
      obtain ⟨hgrows, hnext⟩ := hmaking
      obtain ⟨hrest, htarget⟩ := ih fs₁ next
      have hkeeps := hgrows.keepsDirectories.trans hrest.keepsDirectories
      have hstep := step_mono hkeeps (hnext next rfl)
      refine ⟨(hgrows.imp fun names => hfirst hkeeps).trans (hrest.imp ?_), fun target h => ?_⟩
      · rintro names ⟨front, hfront, hwalk⟩
        exact ⟨name :: front, List.cons_prefix_cons.2 ⟨rfl, hfront⟩,
          walk_cons.2 ⟨next, hstep, hwalk⟩⟩
      · exact walk_cons.2 ⟨next, hstep, htarget target h⟩
    · next fs₁ heq =>
      rw [heq] at hmaking
      exact ⟨hmaking.1.imp fun names => hfirst hmaking.1.keepsDirectories, nofun⟩
    · next fault fs₁ _ heq =>
      rw [heq] at hmaking
      exact ⟨hmaking.1.imp fun names => hfirst hmaking.1.keepsDirectories, nofun⟩

/-! ## The package -/

/-- A package is put where a step leads, unless there is a directory. -/
theorem writeIn_eq_ok {name : String} {content : Package}
    (h : fs.writeIn place name content = (.ok (), fs')) :
    ∃ target, fs.step place name = .ok target ∧ fs.lookup? target ≠ some .directory
      ∧ fs' = fs.set target (.file (.package content)) := by
  unfold writeIn at h
  split at h
  · exact nomatch h
  · next target hstep =>
    split at h
    · exact nomatch h
    · next hentry => exact ⟨target, hstep, hentry, (Prod.mk.inj h).2.symm⟩

/-- A place that is passed on the way to a path. -/
def IsOnWay (fs : Files) (here : List String) (p : Path) (names : List String) : Prop :=
  ∃ front, front <+: p.parent.parts ∧ fs.walk (origin here p) front = .ok names

/-- A package has been written at a path. -/
structure IsWritten (fs fs' : Files) (here : List String) (p : Path) (package : Package) :
    Prop where
  /-- The package stands at the path. -/
  found : fs'.find here p = .ok (.file (.package package))
  /-- It has taken the place of no directory. -/
  replaced : fs.find here p ≠ .ok .directory
  /-- Directories have been made on the way, where nothing was, and no other place has changed. -/
  others : ∀ names, fs'.locate here p ≠ .ok names →
    fs'.lookup? names = fs.lookup? names ∨
      fs'.IsOnWay here p names ∧ fs.lookup? names = none ∧ fs'.lookup? names = some .directory

theorem locate_eq_ok_iff {here : List String} {p : Path} {target : List String} :
    fs.locate here p = .ok target ↔
      checkPath p = .ok () ∧ fs.walk (origin here p) p.parts = .ok target := by
  rw [locate, bind_eq_ok_iff]
  exact ⟨fun ⟨_, h⟩ => h, fun h => ⟨(), h⟩⟩

theorem locate_mono (h : fs.KeepsDirectories fs') {here : List String} {p : Path}
    {target : List String} (hlocate : fs.locate here p = .ok target) :
    fs'.locate here p = .ok target := by
  obtain ⟨hpath, hwalk⟩ := locate_eq_ok_iff.1 hlocate
  exact locate_eq_ok_iff.2 ⟨hpath, walk_mono h hwalk⟩

theorem find_eq_ok_iff {here : List String} {p : Path} {e : Entry} :
    fs.find here p = .ok e ↔
      ∃ target, fs.locate here p = .ok target ∧ fs.lookup? target = some e := by
  rw [find, bind_eq_ok_iff]
  refine exists_congr fun target => and_congr_right fun _ => ?_
  cases fs.lookup? target with
  | none => exact ⟨nofun, nofun⟩
  | some e' =>
    exact ⟨fun h => congrArg some (Except.ok.inj h), fun h => congrArg _ (Option.some.inj h)⟩

theorem write_eq_ok {here : List String} {p : Path} {package : Package}
    (h : fs.write here p package = (.ok (), fs')) :
    ∃ place fs₁ name, fs.makeDirectories (origin here p) p.parent.parts = (.ok place, fs₁)
      ∧ checkPath p = .ok () ∧ p.parts.getLast? = some name
      ∧ fs₁.writeIn place name package = (.ok (), fs') := by
  unfold write at h
  cases hparent : checkPath p.parent with
  | error fault => exact nomatch (hparent ▸ h :)
  | ok _ =>
    rw [hparent] at h
    rcases hmade : fs.makeDirectories (origin here p) p.parent.parts with ⟨made, fs₁⟩
    simp only [hmade] at h
    cases made with
    | error fault => exact nomatch h
    | ok place =>
      cases hpath : checkPath p with
      | error fault => exact nomatch (hpath ▸ h :)
      | ok _ =>
        rw [hpath] at h
        cases hname : p.parts.getLast? with
        | none => exact nomatch (hname ▸ h :)
        | some name => exact ⟨place, fs₁, name, rfl, rfl, rfl, by rwa [hname] at h⟩

/-- A package that has been written at a path stands there, and nothing else is new but
    directories on the way. -/
theorem isWritten_of_write {here : List String} {p : Path} {package : Package}
    (h : fs.write here p package = (.ok (), fs')) : fs.IsWritten fs' here p package := by
  obtain ⟨place, fs₁, name, hmade, hpath, hname, hwrite⟩ := write_eq_ok h
  obtain ⟨hgrows, hplace⟩ := fs.makeDirectories_grows (origin here p) p.parent.parts
  rw [hmade] at hgrows hplace
  obtain ⟨target, hstep, hentry, rfl⟩ := writeIn_eq_ok hwrite
  have hparts : p.parts = p.parent.parts ++ [name] :=
    (List.dropLast_append_getLast? name hname).symm
  have hkeeps := keepsDirectories_set (ne_nil_of_lookup? hentry) hentry (.file (.package package))
  -- The whole way can be gone in the tree as it is before the package is put.
  have hlocate₁ : fs₁.locate here p = .ok target :=
    locate_eq_ok_iff.2 ⟨hpath, hparts ▸ walk_append.2
      ⟨place, hplace place rfl, walk_cons.2 ⟨target, hstep, rfl⟩⟩⟩
  have hlocate := locate_mono hkeeps hlocate₁
  refine ⟨find_eq_ok_iff.2 ⟨target, hlocate, ?_⟩, fun hfind => ?_, fun names hnames => ?_⟩
  · rw [lookup?_set (ne_nil_of_lookup? hentry), if_pos rfl]
  · obtain ⟨target', hlocate', hdirectory⟩ := find_eq_ok_iff.1 hfind
    have heq := Except.ok.inj (hlocate₁.symm.trans (locate_mono hgrows.keepsDirectories hlocate'))
    exact hentry (heq ▸ hgrows.keepsDirectories target' hdirectory)
  · have hne : names ≠ target := by
      rintro rfl
      exact hnames hlocate
    rw [lookup?_set (ne_nil_of_lookup? hentry), if_neg hne]
    refine (hgrows names).imp_right fun ⟨⟨front, hfront, hwalk⟩, hrest⟩ => ⟨?_, hrest⟩
    exact ⟨front, hfront, walk_mono hkeeps hwalk⟩

/-- The directory of the document is made beside what is there. -/
example (package : Package) :
    Files.write [(["work"], .directory)] ["work"] ⟨"", ["out", "letter.docx"]⟩ package = (.ok (),
      [(["work"], .directory), (["work", "out"], .directory),
        (["work", "out", "letter.docx"], .file (.package package))]) := rfl

/-! ## What stays -/

/-- What is found at a path is found there when directories have been made. -/
theorem Grows.find_eq {P : List String → Prop} (h : fs.Grows fs' P) {here : List String} {q : Path}
    {e : Entry} (hfind : fs.find here q = .ok e) : fs'.find here q = .ok e := by
  obtain ⟨place, hlocate, hlookup⟩ := find_eq_ok_iff.1 hfind
  exact find_eq_ok_iff.2 ⟨place, locate_mono h.keepsDirectories hlocate, h.lookup?_eq hlookup⟩

section

variable {here : List String} {p q : Path} {package : Package}

theorem writeIn_eq_error {name : String} {fault : FileFault}
    (h : fs.writeIn place name package = (.error fault, fs')) : fs' = fs := by
  unfold writeIn at h
  split at h
  · exact (Prod.mk.inj h).2.symm
  · split at h
    · exact (Prod.mk.inj h).2.symm
    · exact nomatch (Prod.mk.inj h).1

/-- Where a package cannot be written, directories have been made at most. -/
theorem grows_of_write {fault : FileFault} (h : fs.write here p package = (.error fault, fs')) :
    fs.Grows fs' fun _ => True := by
  have hgrows := (fs.makeDirectories_grows (origin here p) p.parent.parts).1
  unfold write at h
  cases hparent : checkPath p.parent with
  | error fault =>
    rw [hparent] at h
    exact (Prod.mk.inj h).2 ▸ .refl fs _
  | ok _ =>
    rw [hparent] at h
    rcases hmade : fs.makeDirectories (origin here p) p.parent.parts with ⟨made, fs₁⟩
    rw [hmade] at hgrows
    simp only [hmade] at h
    suffices heq : fs' = fs₁ from heq ▸ hgrows.imp fun _ _ => trivial
    cases made with
    | error fault => exact (Prod.mk.inj h).2.symm
    | ok place =>
      cases hpath : checkPath p with
      | error fault =>
        rw [hpath] at h
        exact (Prod.mk.inj h).2.symm
      | ok _ =>
        rw [hpath] at h
        cases hname : p.parts.getLast? with
        | none =>
          rw [hname] at h
          exact (Prod.mk.inj h).2.symm
        | some name =>
          rw [hname] at h
          exact writeIn_eq_error h

theorem keepsDirectories_of_write {result : Except FileFault Unit}
    (h : fs.write here p package = (result, fs')) : fs.KeepsDirectories fs' := by
  cases result with
  | error fault => exact (grows_of_write h).keepsDirectories
  | ok _ =>
    obtain ⟨place, fs₁, name, hmade, -, -, hwrite⟩ := write_eq_ok h
    have hgrows := (fs.makeDirectories_grows (origin here p) p.parent.parts).1
    rw [hmade] at hgrows
    obtain ⟨target, -, hentry, rfl⟩ := writeIn_eq_ok hwrite
    exact hgrows.keepsDirectories.trans
      (keepsDirectories_set (ne_nil_of_lookup? hentry) hentry (.file (.package package)))

/-- What is found at a path is found there after a package has been written, or could not be
    written, at a path that leads elsewhere. -/
theorem find_of_write {result : Except FileFault Unit} {e : Entry}
    (h : fs.write here p package = (result, fs'))
    (hne : ∀ place, fs'.locate here q = .ok place → fs'.locate here p ≠ .ok place)
    (hfind : fs.find here q = .ok e) : fs'.find here q = .ok e := by
  cases result with
  | error fault => exact (grows_of_write h).find_eq hfind
  | ok _ =>
    obtain ⟨place, hlocate, hlookup⟩ := find_eq_ok_iff.1 hfind
    have hlocate' := locate_mono (keepsDirectories_of_write h) hlocate
    rcases (isWritten_of_write h).others place (hne place hlocate') with heq | ⟨-, hnone, -⟩
    · exact find_eq_ok_iff.2 ⟨place, hlocate', heq.trans hlookup⟩
    · exact nomatch hnone.symm.trans hlookup

end

end Manuscript.CommandLine.Files
