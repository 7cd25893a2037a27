import Manuscript.Text.Digits

/-!
# Arguments

The words that the program is called with: the path of a source, and options. A long
option may be cut as long as it stays the only one; its value is the next word, or
follows an equals sign, and that of a short option may follow at once. After two
hyphens no word is an option. Words that have no place end the program, as does asking
for help.
-/

namespace Manuscript.CommandLine

/-- The options of the program. -/
inductive Flag where
  | help
  | output
  | style
  | verbose
  deriving DecidableEq, Repr

/-- The names of the options. -/
def flagNames : List (String × Flag) :=
  [("-h", .help), ("--help", .help), ("-o", .output), ("--output", .output), ("--style", .style),
   ("--verbose", .verbose)]

/-- What the program is asked to do. -/
structure Arguments where
  /-- The path of the source. -/
  input : Option String := none
  /-- Where the document goes. -/
  output : Option String := none
  /-- The path of a style. -/
  style : Option String := none
  /-- Whether more is to be said. -/
  verbose : Bool := false
  /-- Whether a word had no place. -/
  surplus : Bool := false
  deriving DecidableEq, Repr

/-- How the program ends without doing anything. -/
inductive Exit where
  /-- Help has been asked for. -/
  | helped
  /-- The words are not understood. -/
  | refused
  deriving DecidableEq, Repr

/-- The number that the program ends with. -/
def Exit.code : Exit → Nat
  | helped => 0
  | refused => 2

/-- What a word is. -/
inductive Word where
  /-- A plain word. -/
  | plain (s : String)
  /-- Two hyphens, after which all words are plain. -/
  | separator
  /-- An option, with the value in the word if there is one, which is joined to it when no
      equals sign stands between them. -/
  | option (flag : Flag) (joined : Bool) (value : Option String)
  /-- What looks like an option and is none. -/
  | unknown
  deriving DecidableEq, Repr

/-! ## Kinds of word -/

/-- Whether a word is a number with a sign. A line feed after it does not matter. -/
def isNegative (cs : List Char) : Bool :=
  let isDigit (c : Char) : Bool := (Text.digit? c).isSome
  match if cs.getLast? == some '\n' then cs.dropLast else cs with
  | '-' :: rest =>
    let whole := rest.takeWhile isDigit
    match rest.dropWhile isDigit with
    | [] => !whole.isEmpty
    | '.' :: fraction => !fraction.isEmpty && fraction.all isDigit
    | _ => false
  | _ => false

/-- A word before and after its first equals sign. -/
def splitValue (s : String) : String × Option String :=
  let cs := s.toList
  match cs.dropWhile (· != '=') with
  | [] => (s, none)
  | _ :: value => (String.ofList (cs.takeWhile (· != '=')), some (String.ofList value))

/-- The option with a name. -/
def flag? (name : String) : Option Flag := (flagNames.find? fun f => f.1 == name).map (·.2)

/-- The options whose names start so. -/
def flagsStarting (start : String) : List Flag :=
  (flagNames.filter fun f => start.toList.isPrefixOf f.1.toList).map (·.2)

/-- The options that a word that names none in full may mean, with their values. -/
def candidates (s : String) : List Word :=
  match s.toList with
  | '-' :: '-' :: _ =>
    let (start, value) := splitValue s
    (flagsStarting start).map fun f => .option f false value
  | '-' :: c :: rest =>
    match flag? (String.ofList ['-', c]) with
    | some f => [.option f true (some (String.ofList rest))]
    | none => []
  | _ => []

/-- What a word is that starts with a hyphen and names no option in full. -/
def looseWord (s : String) : Except Exit Word :=
  match candidates s with
  | [w] => .ok w
  | _ :: _ :: _ => .error .refused
  | [] => .ok (if isNegative s.toList || s.toList.contains ' ' then .plain s else .unknown)

/-- What a word is. -/
def wordOf (s : String) : Except Exit Word :=
  match s.toList with
  | '-' :: _ :: _ =>
    match flag? s, splitValue s with
    | some f, _ => .ok (.option f false none)
    | none, (name, some value) =>
      match flag? name with
      | some f => .ok (.option f false (some value))
      | none => looseWord s
    | none, _ => looseWord s
  | _ => .ok (.plain s)

/-- What the words are. -/
def wordsOf : List String → Except Exit (List Word)
  | [] => .ok []
  | s :: rest =>
    if s == "--" then .ok (.separator :: rest.map .plain)
    else do
      let w ← wordOf s
      let ws ← wordsOf rest
      .ok (w :: ws)

/-! ## Reading -/

/-- Whether a word looks like an option. -/
def Word.isOption : Word → Bool
  | option _ _ _ | unknown => true
  | plain _ | separator => false

/-- The words after the last option. -/
def readLast (a : Arguments) (words : List Word) : Arguments :=
  match a.input, words with
  | none, .separator :: .plain s :: rest | none, .plain s :: .separator :: rest
  | none, .plain s :: rest => { a with input := some s, surplus := a.surplus || !rest.isEmpty }
  | _, rest => { a with surplus := a.surplus || !rest.isEmpty }

/-- How the program ends when help is asked for by a short option with more letters
    after it: they are short options too, the last of which may want the next word, up
    to a letter that is none. No value can follow. -/
def helpedBy (next : List Word) : List Char → Exit
  | [] => .helped
  | '-' :: _ | '=' :: _ => .refused
  | 'h' :: rest => helpedBy next rest
  | ['o'] =>
    match next with
    | .plain _ :: _ => .helped
    | _ => .refused
  | _ => .helped

/-- Reads words. -/
def readWords (a : Arguments) : List Word → Except Exit Arguments
  | [] => .ok a
  | .plain s :: rest =>
    if !rest.any Word.isOption then .ok (readLast a (.plain s :: rest))
    else if a.input.isNone then readWords { a with input := some s } rest
    else readWords { a with surplus := true } rest
  | .separator :: rest => .ok (readLast a (.separator :: rest))
  | .unknown :: rest => readWords { a with surplus := true } rest
  | .option .help joined (some letters) :: rest =>
    .error (if joined then helpedBy rest letters.toList else .refused)
  | .option .help _ none :: _ => .error .helped
  | .option .verbose _ (some _) :: _ => .error .refused
  | .option .verbose _ none :: rest => readWords { a with verbose := true } rest
  | .option .output _ (some value) :: rest => readWords { a with output := some value } rest
  | .option .style _ (some value) :: rest => readWords { a with style := some value } rest
  | .option .output _ none :: .plain value :: rest => readWords { a with output := some value } rest
  | .option .style _ none :: .plain value :: rest => readWords { a with style := some value } rest
  | .option _ _ none :: _ => .error .refused

/-- Reads the words that the program is called with. -/
def readArguments (words : List String) : Except Exit (String × Arguments) := do
  let a ← readWords {} (← wordsOf words)
  match a.input with
  | some input => if a.surplus then .error .refused else .ok (input, a)
  | none => .error .refused

end Manuscript.CommandLine
