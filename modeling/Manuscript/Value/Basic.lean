import Manuscript.Calendar
import Manuscript.Number.Shortest
import Manuscript.Text.Digits
import Manuscript.Text.Quoted

/-!
# Values

The values that a YAML text can denote, and that a style override or the metadata of
a document may hold. A mapping keeps its entries in order and has each key once;
`Value.sameKey` says which keys are one: numbers and truth values are compared as
numbers, everything else within its own kind.

A collection that lies inside itself is not unfolded: there `Value.again` stands for
it.

* `Value.isTruthy`: false for nothing, zero and whatever is empty;
* `Value.isWritable`: whether the value can be shown;
* `Value.written`: how a value is shown on its own;
* `Value.quoted`: how it is shown inside another one.
-/

namespace Manuscript

open Manuscript.Calendar

/-- A value of no particular type. -/
inductive Value where
  | null
  | bool (b : Bool)
  | int (n : Int)
  | float (x : Float)
  | text (s : String)
  | bytes (bs : List UInt8)
  | date (d : Date)
  | moment (m : Moment)
  | list (items : List Value)
  | tuple (items : List Value)
  | set (items : List Value)
  | map (entries : List (Value × Value))
  | again (isMapping : Bool)
  deriving Inhabited

namespace Value

/-- The entries of a mapping. -/
abbrev Entries := List (Value × Value)

/-- Whether a value counts as true where only its presence is asked for. -/
def isTruthy : Value → Bool
  | null => false
  | bool b => b
  | int n => n != 0
  | float x => !(x == 0.0)
  | text s => !s.isEmpty
  | bytes bs => !bs.isEmpty
  | date _ | moment _ | again _ => true
  | list items | tuple items | set items => !items.isEmpty
  | map entries => !entries.isEmpty

/-- A number of no size. -/
def isNoNumber : Value → Bool
  | float x => x.isNaN
  | _ => false

/-- The number that a whole number or a truth value stands for. -/
def asInt? : Value → Option Int
  | int n => some n
  | bool b => some (if b then 1 else 0)
  | _ => none

/-- Whether two keys are one. -/
def sameKey (a b : Value) : Bool :=
  match a, b with
  | null, null => true
  | text s, text t => s == t
  | bytes s, bytes t => s == t
  | date d, date e => d == e
  | moment d, moment e => d.same e
  | float x, float y => x == y
  | float x, other | other, float x => other.asInt?.any (Number.Double.isInt x)
  | _, _ =>
    match a.asInt?, b.asInt? with
    | some m, some n => m == n
    | _, _ => false

/-- The value of a text key. -/
def lookup (key : String) (entries : Entries) : Option Value :=
  (entries.find? fun e => sameKey e.1 (.text key)).map (·.2)

/-! ## Written forms -/

/-- A byte between quotes. -/
def byteWritten (quote : Char) (b : UInt8) : List Char :=
  let c := Char.ofNat b.toNat
  if c = quote || c = '\x5c' then ['\x5c', c]
  else if c = '\n' then ['\x5c', 'n']
  else if c = '\r' then ['\x5c', 'r']
  else if c = '\t' then ['\x5c', 't']
  else if 32 ≤ b.toNat && b.toNat < 127 then [c]
  else '\x5c' :: 'x' :: Text.hexDigits 2 b.toNat

/-- Bytes between quotes. -/
def bytesWritten (bs : List UInt8) : String :=
  let quote := Text.quoteFor (bs.map fun b => Char.ofNat b.toNat)
  String.ofList ('b' :: quote :: bs.flatMap (byteWritten quote) ++ [quote])

/-- A distance of so many minutes, as days and seconds. -/
def distanceQuoted (minutes : Int) : String :=
  let days := minutes.fdiv (24 * 60)
  let seconds := (minutes - days * (24 * 60)) * 60
  let parts := (if days == 0 then [] else ["days=" ++ toString days])
    ++ (if seconds == 0 then [] else ["seconds=" ++ toString seconds])
  "datetime.timedelta(" ++ (if parts.isEmpty then "0" else ", ".intercalate parts) ++ ")"

/-- A moment inside another value. -/
def momentQuoted (m : Moment) : String :=
  let time := [m.hour, m.minute]
    ++ (if m.second == 0 && m.micro == 0 then [] else [m.second])
    ++ (if m.micro == 0 then [] else [m.micro])
  let zone := match m.offset with
    | none => ""
    | some 0 => ", tzinfo=datetime.timezone.utc"
    | some o => ", tzinfo=datetime.timezone(" ++ distanceQuoted o ++ ")"
  "datetime.datetime("
    ++ ", ".intercalate (([m.date.year, m.date.month, m.date.day] ++ time).map toString)
    ++ zone ++ ")"

mutual

/-- A value as it is shown inside another value. -/
def quoted : Value → String
  | null => "None"
  | bool b => if b then "True" else "False"
  | int n => toString n
  | float x => Number.written x
  | text s => Text.quoted s
  | bytes bs => bytesWritten bs
  | date d =>
    "datetime.date(" ++ ", ".intercalate ([d.year, d.month, d.day].map toString) ++ ")"
  | moment m => momentQuoted m
  | list items => "[" ++ ", ".intercalate (quotedAll items) ++ "]"
  | tuple [item] => "(" ++ quoted item ++ ",)"
  | tuple items => "(" ++ ", ".intercalate (quotedAll items) ++ ")"
  | set [] => "set()"
  | set items => "\x7b" ++ ", ".intercalate (quotedAll items) ++ "\x7d"
  | map entries => "\x7b" ++ ", ".intercalate (quotedEntries entries) ++ "\x7d"
  | again isMapping => if isMapping then "\x7b...\x7d" else "[...]"

/-- The values of a sequence, each as it is shown inside it. -/
def quotedAll : List Value → List String
  | [] => []
  | v :: rest => quoted v :: quotedAll rest

/-- The entries of a mapping, each as it is shown inside it. -/
def quotedEntries : Entries → List String
  | [] => []
  | (k, v) :: rest => (quoted k ++ ": " ++ quoted v) :: quotedEntries rest

end

mutual

/-- Whether a value can be shown: a whole number in it must not be too long. -/
def isWritable : Value → Bool
  | int n => n.natAbs < 10 ^ Text.maxDigits
  | list items | tuple items | set items => areWritable items
  | map entries => entriesAreWritable entries
  | _ => true

/-- Whether some values can be shown. -/
def areWritable : List Value → Bool
  | [] => true
  | v :: rest => isWritable v && areWritable rest

/-- Whether some entries can be shown. -/
def entriesAreWritable : Entries → Bool
  | [] => true
  | (k, v) :: rest => isWritable k && isWritable v && entriesAreWritable rest

end

/-- A value as it is shown on its own. -/
def written : Value → String
  | text s => s
  | date d => d.written
  | moment m => m.written " "
  | v => quoted v

end Value

end Manuscript
