import Manuscript.CommandLine.Run
import Manuscript.Formula.Standard

/-!
# The program

The program takes in what its words name, with the directories on the way there, does a run on
that, tells the notices of the run and keeps the documents it leaves. Of a document it keeps
the markup of the body.
-/

namespace Manuscript

open CommandLine

/-- The home that a text names: the root if it names nothing else. -/
def homeAt (s : String) : Path := if s.all (· == '/') then ⟨"/", []⟩ else Path.ofString s

/-- The home of a user by the table of users. It has a line for each, in which the name stands
    first and the home sixth. -/
def homeIn (table user : String) : Option Path :=
  let users := (table.splitOn "\n").map (·.splitOn ":")
  ((users.find? fun u => u.head? == some user).bind fun u => u[5]?).map homeAt

/-- What the words of a call may name: the words, and the values in them, some of them with the
    home of a user in the place of a tilde. -/
def namedIn (homes : Homes) (words : List String) : List Path :=
  words.flatMap fun w =>
    let value := (w.toList.dropWhile (· != '=')).drop 1
    let named := [w, String.ofList value, String.ofList (w.toList.drop 2)]
    (named.filter fun s => !s.isEmpty).flatMap fun s =>
      let p := Path.ofString s
      p :: (expandHome homes p).toOption.toList

/-- The place of a path, with the steps up taken. -/
def placeOf (here : List String) (p : Path) : List String :=
  p.parts.foldl (fun place name => if name == ".." then place.dropLast else place ++ [name])
    (Files.origin here p)

/-- What is called so on the disk. -/
def onDisk (names : List String) : String := "/" ++ "/".intercalate names

/-- Takes in what stands at a place, if there is something. -/
def takeIn (fs : Files) (names : List String) : IO Files := do
  let place := (← IO.currentDir) / onDisk names
  if ← place.isDir then return fs.addDirectory names
  else if ← place.pathExists then return fs.addFile names (← IO.FS.readBinFile place).toList
  else return fs

/-- Takes in what stands on the way to a place. -/
def takeInTo (fs : Files) (names : List String) : IO Files :=
  (List.range names.length).foldlM (fun fs n => takeIn fs (names.take (n + 1))) fs

/-- The markup of the body of a document. -/
def bodyMarkup (p : Package) : String :=
  "<w:body>" ++ Xml.Tree.writtenAll p.body ++ "</w:body>\n"

/-- Keeps what a run has left. -/
def keep (names : List String) : Entry → IO Unit
  | .directory => do IO.FS.createDirAll ((← IO.currentDir) / onDisk names)
  | .file (.bytes _) => return
  | .file (.package p) => do
    IO.FS.writeFile ((← IO.currentDir) / onDisk names) (bodyMarkup p)

/-- The number that the program ends with. -/
def exitCode : Ending → UInt32
  | .exit e => UInt32.ofNat e.code
  | .code n => UInt32.ofNat n
  | .fault _ => 1

end Manuscript

open Manuscript CommandLine

/-- Does a run on the words that the program is called with. -/
def main (words : List String) : IO UInt32 := do
  let here := (Path.ofString (← IO.currentDir).toString).parts
  let own := (← IO.getEnv "HOME").map homeAt
  let users ← try IO.FS.readFile "/etc/passwd" catch _ => pure ""
  let homes : Homes := fun user => if user.isEmpty then own else homeIn users user
  let fs ← (here :: (namedIn homes words).map (placeOf here)).foldlM takeInTo []
  let report := run Formula.standard.bridge { steps := () } homes words fs here
  for n in report.notices do IO.eprintln n.line
  if let .fault f := report.ending then IO.eprintln (f.message?.getD "A file cannot be used")
  for (names, entry) in report.files do keep names entry
  return exitCode report.ending
