import Manuscript.CommandLine.Path
import Manuscript.Package.Assembly

/-!
# Files

The files and directories that the program finds, by their names on the way from the root. A
path is absolute or starts where the program is started.

* `Files.find`: what stands at a path;
* `Files.write`: puts a package at a path, with the directories on the way to it.
-/

namespace Manuscript.CommandLine

/-- What a file holds. -/
inductive Content where
  | bytes (bs : List UInt8)
  | package (p : Package)

/-- What has a name in a directory. -/
inductive Entry where
  | file (c : Content)
  | directory

/-- Files and directories by the names on the way to them from the root. -/
abbrev Files := List (List String × Entry)

/-- Why something cannot be done with a file. -/
inductive FileFault where
  /-- There is nothing. -/
  | missing
  /-- The path leads through a file. -/
  | notDirectory
  /-- There is a directory. -/
  | directory
  /-- There is a file where a directory should be. -/
  | taken
  /-- A name, or the whole path, is too long. -/
  | long
  /-- A name holds the character that ends all names. -/
  | unnameable
  deriving DecidableEq, Repr

namespace Files

/-- What stands at a place. The root is always there. -/
def lookup? (fs : Files) (names : List String) : Option Entry :=
  if names.isEmpty then some .directory
  else (fs.find? fun e => e.1 == names).map (·.2)

/-- Where a path starts. -/
def origin (here : List String) (p : Path) : List String := if p.root.isEmpty then here else []

/-- The most bytes of a name. -/
def maxName : Nat := 255

/-- The most bytes of a path. -/
def maxPath : Nat := 4095

/-- Refuses a path that no file can have. -/
def checkPath (p : Path) : Except FileFault Unit :=
  if p.parts.any fun name => name.toList.contains '\x00' then .error .unnameable
  else if p.written.utf8ByteSize > maxPath then .error .long
  else .ok ()

/-- One step on the way: up, or into a directory by a name. -/
def step (fs : Files) (place : List String) (name : String) : Except FileFault (List String) :=
  match fs.lookup? place with
  | none => .error .missing
  | some (.file _) => .error .notDirectory
  | some .directory =>
    if name.utf8ByteSize > maxName then .error .long
    else if name == ".." then .ok place.dropLast
    else .ok (place ++ [name])

/-- The place that some names lead to from another. -/
def walk (fs : Files) (place : List String) (parts : List String) :
    Except FileFault (List String) :=
  parts.foldlM fs.step place

/-- The place that a path leads to. -/
def locate (fs : Files) (here : List String) (p : Path) : Except FileFault (List String) := do
  checkPath p
  fs.walk (origin here p) p.parts

/-- What stands at a path. -/
def find (fs : Files) (here : List String) (p : Path) : Except FileFault Entry := do
  match fs.lookup? (← fs.locate here p) with
  | some e => .ok e
  | none => .error .missing

/-- What stands at a path, if anything does. A path that is too long is a fault. -/
def find? (fs : Files) (here : List String) (p : Path) : Except FileFault (Option Entry) :=
  match fs.find here p with
  | .ok e => .ok (some e)
  | .error .long => .error .long
  | .error _ => .ok none

/-- The bytes of the file at a path. A package has none to read. -/
def read (fs : Files) (here : List String) (p : Path) : Except FileFault (List UInt8) :=
  match fs.find here p with
  | .ok (.file (.bytes bs)) => .ok bs
  | .ok (.file (.package _)) => .ok []
  | .ok .directory => .error .directory
  | .error fault => .error fault

/-! ## Changing -/

/-- Puts an entry at a place. -/
def set (fs : Files) (names : List String) (e : Entry) : Files :=
  if fs.any fun old => old.1 == names then
    fs.map fun old => if old.1 == names then (names, e) else old
  else fs ++ [(names, e)]

/-- Goes on to a directory, which is made if it is not there. -/
def stepMaking (fs : Files) (place : List String) (name : String) :
    Except FileFault (List String) × Files :=
  match fs.step place name with
  | .error fault => (.error fault, fs)
  | .ok next =>
    match fs.lookup? next with
    | some .directory => (.ok next, fs)
    | some (.file _) => (.error .taken, fs)
    | none => (.ok next, fs.set next .directory)

/-- Makes the directories on a way; the last of them may be named to be one, an earlier
    one that is a file is in the way. -/
def makeDirectories (fs : Files) (place : List String) :
    List String → Except FileFault (List String) × Files
  | [] => (.ok place, fs)
  | name :: rest =>
    match fs.stepMaking place name with
    | (.ok next, fs) => makeDirectories fs next rest
    | (.error .taken, fs) => (.error (if rest.isEmpty then .taken else .notDirectory), fs)
    | (.error fault, fs) => (.error fault, fs)

/-- Puts a package into a directory by a name. -/
def writeIn (fs : Files) (place : List String) (name : String) (content : Package) :
    Except FileFault Unit × Files :=
  match fs.step place name with
  | .error fault => (.error fault, fs)
  | .ok target =>
    match fs.lookup? target with
    | some .directory => (.error .directory, fs)
    | _ => (.ok (), fs.set target (.file (.package content)))

/-- Puts a package at a path. The directories on the way are made, and stay even if
    there is no place for a file. -/
def write (fs : Files) (here : List String) (p : Path) (content : Package) :
    Except FileFault Unit × Files :=
  let made :=
    match checkPath p.parent with
    | .ok () => fs.makeDirectories (origin here p) p.parent.parts
    | .error fault => (.error fault, fs)
  match made with
  | (.error fault, fs) => (.error fault, fs)
  | (.ok place, fs) =>
    match checkPath p, p.parts.getLast? with
    | .error fault, _ => (.error fault, fs)
    | .ok (), none => (.error .directory, fs)
    | .ok (), some name => fs.writeIn place name content

/-- Adds the directories on the way to a name. -/
def addParents (fs : Files) (names : List String) : Files :=
  ((List.range names.length).drop 1).foldl
    (fun fs n =>
      let outer := names.take n
      if (fs.lookup? outer).isSome then fs else fs.set outer .directory)
    fs

/-- Adds a file with the directories on the way to it. -/
def addFile (fs : Files) (names : List String) (bs : List UInt8) : Files :=
  (fs.addParents names).set names (.file (.bytes bs))

/-- Adds a directory with the directories on the way to it. -/
def addDirectory (fs : Files) (names : List String) : Files :=
  let fs := fs.addParents names
  if (fs.lookup? names).isSome then fs else fs.set names .directory

end Files

/-- Where the document goes: to the given place, into it if it is a directory, and
    beside the source if no place is given. None if the document would have no name. -/
def outputPath? (fs : Files) (source : Path) (output : Option String)
    (here : List String := []) : Except FileFault (Option Path) := do
  match output.filter fun o => !o.isEmpty with
  | some o =>
    let place := Path.ofString o
    match ← fs.find? here place with
    | some .directory => return some (place.child (documentName source.name))
    | _ => return some place
  | none => return source.beside?

end Manuscript.CommandLine
