import Manuscript.CommandLine.Arguments
import Manuscript.CommandLine.Encoding
import Manuscript.CommandLine.Files
import Manuscript.Convert.Document
import Manuscript.Style.Override

/-!
# A run of the program

The program reads a source, converts it in the configured style and writes the
document. It ends with a number, or with a fault when something is missing or cannot be
read. Nothing is written unless the conversion succeeds.
-/

namespace Manuscript.CommandLine

open Manuscript.Formula Manuscript.Log Manuscript.Style

/-- Why a run ends before its time. -/
inductive Fault where
  /-- There is no source at a path. -/
  | noSource (path : Path)
  /-- The home of a user is not known. -/
  | noHome
  /-- The document would have no name. -/
  | noName
  /-- A file cannot be used. -/
  | file (fault : FileFault)
  /-- The bytes of a file encode no text. -/
  | notText
  /-- The style is refused. -/
  | style (fault : Style.Fault)
  /-- The conversion fails with a fault that the program does not know of. -/
  | conversion (fault : Convert.Fault)

/-- What is said of a fault. -/
def Fault.message? : Fault → Option String
  | noSource path => some ("Input file not found: " ++ path.written)
  | style fault => fault.message?
  | noHome | noName | file _ | notText | conversion _ => none

/-- How a run ends. -/
inductive Ending where
  /-- The words are not understood, or help has been asked for. -/
  | exit (e : Exit)
  /-- The run is over, with a number. -/
  | code (n : Nat)
  /-- The run ends with a fault. -/
  | fault (f : Fault)

/-- What a run comes to. -/
structure Report where
  /-- How it ends. -/
  ending : Ending
  /-- The notices it gives. -/
  notices : List Notice
  /-- The files it leaves. -/
  files : Files

/-- The homes of users by their names; who runs the program goes by the empty one. -/
abbrev Homes : Type := String → Option Path

/-- A path with the home of a user in the place of a tilde and the name after it. -/
def expandHome (homes : Homes) (p : Path) : Except Fault Path :=
  if !p.root.isEmpty then .ok p
  else
    match p.parts with
    | first :: rest =>
      match first.toList with
      | '~' :: user =>
        match homes (String.ofList user) with
        | some home => .ok { home with parts := home.parts ++ rest }
        | none => .error .noHome
      | _ => .ok p
    | [] => .ok p

/-- The text of the file at a path. -/
def textAt (fs : Files) (here : List String) (p : Path)
    (decode : List UInt8 → Option (List Char)) : Except Fault (List Char) :=
  match fs.read here p with
  | .error fault => .error (.file fault)
  | .ok bs =>
    match decode bs with
    | some cs => .ok cs
    | none => .error .notText

/-- The style that is asked for. -/
def styleAt (fs : Files) (here : List String) (path : Option String) : Except Fault Config :=
  match path.filter fun s => !s.isEmpty with
  | none => .ok Config.standard
  | some s => do
    let text ← textAt fs here (Path.ofString s) decode?
    (Style.ofYaml (String.ofList text)).mapError .style

/-- What a run works on. -/
structure Task where
  /-- The path of the source. -/
  source : Path
  /-- The path of the document. -/
  target : Path
  /-- The style. -/
  config : Config

/-- What the arguments of a run ask for. -/
def taskOf (homes : Homes) (fs : Files) (here : List String) (input : String) (a : Arguments) :
    Except Fault Task := do
  let source ← expandHome homes (Path.ofString input)
  if (← (fs.find? here source).mapError .file).isNone then throw (.noSource source)
  match ← (outputPath? fs source a.output here).mapError .file with
  | none => throw .noName
  | some target => return { source, target, config := (← styleAt fs here a.style) }

/-- Writes the document of a task. -/
def finish {σ : Type} (t : Task) (fs : Files) (here : List String) (said : List Notice)
    (o : Outcome σ Convert.Fault Package) : Report :=
  let said := said ++ o.notices
  match o.result with
  | .error fault =>
    if fault.isKnown then ⟨.code 1, said ++ [.failed fault.message], fs⟩
    else ⟨.fault (.conversion fault), said, fs⟩
  | .ok package =>
    match fs.write here t.target package with
    | (.ok (), fs) => ⟨.code 0, said ++ [.saved t.target.written], fs⟩
    | (.error fault, fs) => ⟨.fault (.file fault), said, fs⟩

/-- Does a task. -/
def perform {σ : Type} (bridge : Bridge σ) (s : σ) (t : Task) (fs : Files)
    (here : List String) : Report :=
  let reading := Notice.reading t.source.written
  match textAt fs here t.source readSource? with
  | .error fault => ⟨.fault fault, [reading], fs⟩
  | .ok text =>
    finish t fs here [reading, .length text.length, .converting]
      (Convert.convert bridge t.config text s)

/-- The least serious notice that is shown. -/
def leastLevel (verbose : Bool) : Log.Level := if verbose then .debug else .info

/-- A run of the program with some words, over a bridge in a state. It is started at the root
    unless another place is given. -/
def run {σ : Type} (bridge : Bridge σ) (s : σ) (homes : Homes) (words : List String)
    (fs : Files) (here : List String := []) : Report :=
  match readArguments words with
  | .error e => ⟨.exit e, [], fs⟩
  | .ok (input, a) =>
    match taskOf homes fs here input a with
    | .error fault => ⟨.fault fault, [], fs⟩
    | .ok task =>
      let report := perform bridge s task fs here
      let least := leastLevel a.verbose
      { report with notices := report.notices.filter fun n => least.rank ≤ n.level.rank }

end Manuscript.CommandLine
