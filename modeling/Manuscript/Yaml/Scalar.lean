import Manuscript.Text.Digits
import Manuscript.Text.Pattern
import Manuscript.Value.Basic
import Manuscript.Yaml.Cursor

/-!
# Scalars of YAML

A plain scalar without a tag gets its type from its form: `Form.ofText?` knows truth
values, whole and broken numbers, points in time, nothing, and the two special forms
`<<` and `=`. The readers below give the value of a scalar of each type. A scalar
that has a tag need not have the form of its type, so a reader may fail.
-/

namespace Manuscript.Yaml

open Manuscript.Text Manuscript.Calendar

/-- What a plain scalar looks like. -/
inductive Form where
  | bool
  | float
  | int
  | merge
  | null
  | timestamp
  | default
  | indicator
  deriving DecidableEq, Repr

namespace Form

open Pattern

/-- A sign or none. -/
def sign : Pattern := optional (oneOf ['-', '+'])

/-- A digit or an underscore. -/
def digitOrGap : Pattern := range [('0', '9'), ('_', '_')]

/-- Minutes or seconds after a colon. -/
def sixtieth : Pattern := all [oneOf [':'], optional (range [('0', '5')]), digit]

/-- A power of ten, which must have a sign. -/
def power : Pattern := all [oneOf ['e', 'E'], oneOf ['-', '+'], some digit]

/-- The words for truth values. -/
def boolPattern : Pattern :=
  any (["yes", "Yes", "YES", "no", "No", "NO", "true", "True", "TRUE", "false", "False",
    "FALSE", "on", "On", "ON", "off", "Off", "OFF"].map literal)

/-- Broken numbers: with a point, in sixtieths with a point, infinite, or none. -/
def floatPattern : Pattern :=
  any [all [sign, digit, star digitOrGap, oneOf ['.'], star digitOrGap, optional power],
    all [oneOf ['.'], digit, star digitOrGap, optional power],
    all [sign, digit, star digitOrGap, some sixtieth, oneOf ['.'], star digitOrGap],
    all [sign, oneOf ['.'], any [literal "inf", literal "Inf", literal "INF"]],
    all [oneOf ['.'], any [literal "nan", literal "NaN", literal "NAN"]]]

/-- Whole numbers: binary, octal, decimal, hexadecimal, or in sixtieths. -/
def intPattern : Pattern :=
  any [all [sign, literal "0b", some (range [('0', '1'), ('_', '_')])],
    all [sign, literal "0", some (range [('0', '7'), ('_', '_')])],
    all [sign, orElse (literal "0") (all [range [('1', '9')], star digitOrGap])],
    all [sign, literal "0x", some (range [('0', '9'), ('a', 'f'), ('A', 'F'), ('_', '_')])],
    all [sign, range [('1', '9')], star digitOrGap, some sixtieth]]

/-- One digit or two. -/
def shortNumber : Pattern := all [digit, optional digit]

/-- The zone of a point in time. -/
def zonePattern : Pattern :=
  orElse (literal "Z")
    (all [oneOf ['-', '+'], shortNumber, optional (all [oneOf [':'], digit, digit])])

/-- The time of a point in time, after the day. -/
def timePattern : Pattern :=
  all [orElse (oneOf ['T', 't']) (some (oneOf [' ', '\t'])), shortNumber,
    oneOf [':'], digit, digit, oneOf [':'], digit, digit,
    optional (all [oneOf ['.'], star digit]),
    optional (all [star (oneOf [' ', '\t']), zonePattern])]

/-- Days in full, and points in time. -/
def timestampPattern : Pattern :=
  orElse (all [times 4 digit, oneOf ['-'], digit, digit, oneOf ['-'], digit, digit])
    (all [times 4 digit, oneOf ['-'], shortNumber, oneOf ['-'], shortNumber, timePattern])

/-- A text without the line feed at its end. -/
def withoutLineFeed (cs : List Char) : List Char :=
  if cs.getLast? == Option.some '\n' then cs.dropLast else cs

/-- The form of a plain scalar, if it has a special one. A line feed after it does not
    matter, but is no form by itself. -/
def ofText? (text : List Char) : Option Form :=
  let cs := withoutLineFeed text
  if cs.isEmpty && !text.isEmpty then none
  else if boolPattern.fits cs then Option.some bool
  else if floatPattern.fits cs then Option.some float
  else if intPattern.fits cs then Option.some int
  else if (literal "<<").fits cs then Option.some merge
  else if (any (["", "~", "null", "Null", "NULL"].map literal)).fits cs then Option.some null
  else if timestampPattern.fits cs then Option.some timestamp
  else if (literal "=").fits cs then Option.some default
  else if (oneOf ['!', '&', '*']).fits cs then Option.some indicator
  else none

end Form

/-! ## Readers -/

/-- A text in small letters, as far as ASCII goes. -/
def lower (cs : List Char) : List Char := cs.map Char.toLower

/-- The truth value that a word stands for. -/
def readBool (cs : List Char) : Except Fault Value :=
  let word := String.ofList (lower cs)
  if word == "yes" || word == "true" || word == "on" then .ok (.bool true)
  else if word == "no" || word == "false" || word == "off" then .ok (.bool false)
  else .error .notATruthValue

/-- The value of a digit in a base up to sixteen. -/
def baseDigit? (base : Nat) (c : Char) : Option Nat :=
  let value := (digit? c).orElse fun _ => if isHexDigit c then some (hexValue c) else none
  value.filter (· < base)

/-- Reads digits in a base, with single underscores between them. -/
def baseDigits (base : Nat) : List Char → Nat → Option Nat
  | [], n => some n
  | '_' :: c :: cs, n => (baseDigit? base c).bind fun d => baseDigits base cs (base * n + d)
  | c :: cs, n => (baseDigit? base c).bind fun d => baseDigits base cs (base * n + d)

/-- Reads a number in a base, which may have a sign, and may start with the mark of
    its base. A decimal number must not be too long. -/
def readBase (base : Nat) (cs : List Char) : Except Fault Int :=
  let cs := trim cs
  let (negative, body) :=
    match cs with
    | '-' :: ds => (true, ds)
    | '+' :: ds => (false, ds)
    | ds => (false, ds)
  let marks : List Char :=
    if base == 2 then ['b', 'B'] else if base == 8 then ['o', 'O']
    else if base == 16 then ['x', 'X'] else []
  let digits :=
    match body with
    | '0' :: m :: '_' :: rest => if marks.contains m then rest else body
    | '0' :: m :: rest => if marks.contains m then rest else body
    | _ => body
  match digits with
  | [] => .error .notANumber
  | d :: ds =>
    match (baseDigit? base d).bind (baseDigits base ds) with
    | some n =>
      if base == 10 && digitCount digits > maxDigits then .error .notANumber
      else .ok (if negative then -(n : Int) else n)
    | none => .error .notANumber

/-- Splits a text at every occurrence of a character. -/
def splitAt (mark : Char) : List Char → List (List Char)
  | [] => [[]]
  | c :: cs =>
    if c = mark then [] :: splitAt mark cs
    else
      match splitAt mark cs with
      | [] => [[c]]
      | l :: ls => (c :: l) :: ls

/-- The whole number that a scalar writes. -/
def readInt (cs : List Char) : Except Fault Value := do
  let cs := cs.filter (· != '_')
  let (sign, body) ←
    match cs with
    | [] => .error .emptyNumber
    | '-' :: ds => .ok ((-1 : Int), ds)
    | '+' :: ds => .ok (1, ds)
    | ds => .ok (1, ds)
  match body with
  | [] => .error .emptyNumber
  | ['0'] => .ok (.int 0)
  | '0' :: 'b' :: ds => (readBase 2 ds).map fun n => .int (sign * n)
  | '0' :: 'x' :: ds => (readBase 16 ds).map fun n => .int (sign * n)
  | '0' :: _ => (readBase 8 body).map fun n => .int (sign * n)
  | _ =>
    let parts := splitAt ':' body
    let numbers ← parts.mapM (readBase 10)
    .ok (.int (sign * numbers.foldl (fun n d => 60 * n + d) 0))

/-- Reads digits with single underscores between them: the number and how many digits
    it has. -/
def decimalDigits : List Char → Nat → Nat → Option (Nat × Nat)
  | [], n, k => some (n, k)
  | '_' :: c :: cs, n, k =>
    if k == 0 then none
    else (digit? c).bind fun d => decimalDigits cs (10 * n + d) (k + 1)
  | c :: cs, n, k => (digit? c).bind fun d => decimalDigits cs (10 * n + d) (k + 1)

/-- Reads the power of a decimal. -/
def readPower (cs : List Char) : Option Int :=
  match cs with
  | '-' :: ds => (readNat? ds).map fun n => -(n : Int)
  | '+' :: ds => (readNat? ds).map fun n => (n : Int)
  | ds => (readNat? ds).map fun n => (n : Int)

/-- Reads a decimal without a sign. -/
def readDecimal (cs : List Char) : Option Float :=
  let isPower (c : Char) : Bool := c == 'e' || c == 'E'
  let body := cs.takeWhile fun c => !isPower c
  let power? : Option Int :=
    match cs.dropWhile fun c => !isPower c with
    | [] => some 0
    | _ :: ds => readPower ds
  let whole := body.takeWhile (· != '.')
  let part := (body.dropWhile (· != '.')).drop 1
  match power?, decimalDigits whole 0 0, decimalDigits part 0 0 with
  | some power, some (n, k), some (m, l) =>
    if k + l == 0 then none
    else some (Number.Double.ofDecimal (n * Nat.pow 10 l + m) (power - l))
  | _, _, _ => none

/-- Reads a number in the general form: a decimal, or a word for infinity or no
    number. -/
def readDouble (cs : List Char) : Except Fault Float :=
  let cs := trim cs
  let (negative, body) :=
    match cs with
    | '-' :: ds => (true, ds)
    | '+' :: ds => (false, ds)
    | ds => (false, ds)
  let word := String.ofList (lower body)
  let size? : Option Float :=
    if word == "inf" || word == "infinity" then some (1.0 / 0.0)
    else if word == "nan" then some (0.0 / 0.0)
    else readDecimal body
  match size? with
  | some x => .ok (if negative then -x else x)
  | none => .error .notANumber

/-- The sum of numbers of which the first counts once, and each other one sixty times
    the one before it. -/
def sixtieths (numbers : List Float) : Except Fault Float :=
  go numbers 1 0.0
where
  /-- Adds numbers to a sum, the first of them so many times. -/
  go : List Float → Nat → Float → Except Fault Float
    | [], _, sum => .ok sum
    | x :: rest, weight, sum =>
      match Number.Double.ofInt? weight with
      | some w => go rest (60 * weight) (sum + x * w)
      | none => .error .hugeNumber

/-- The broken number that a scalar writes. -/
def readFloat (cs : List Char) : Except Fault Value := do
  let cs := lower (cs.filter (· != '_'))
  let (sign, body) ←
    match cs with
    | [] => .error .emptyNumber
    | '-' :: ds => .ok (-1.0, ds)
    | '+' :: ds => .ok (1.0, ds)
    | ds => .ok (1.0, ds)
  if body == ".inf".toList then .ok (.float (sign * (1.0 / 0.0)))
  else if body == ".nan".toList then .ok (.float (0.0 / 0.0))
  else if body.contains ':' then
    let numbers ← (splitAt ':' body).mapM readDouble
    let total ← sixtieths numbers.reverse
    .ok (.float (sign * total))
  else
    let x ← readDouble body
    .ok (.float (sign * x))

/-- Takes a number of digits between two bounds off the front. -/
def takeNumber (least most : Nat) (cs : List Char) : Option (Nat × List Char) :=
  let digits := (cs.take most).takeWhile Char.isDigit
  if digits.length < least then none
  else some (digits.foldl (fun n d => 10 * n + (d.toNat - 48)) 0, cs.drop digits.length)

/-- Takes a character off the front. -/
def takeChar (c : Char) : List Char → Option (List Char)
  | d :: rest => if c = d then some rest else none
  | [] => none

/-- Reads the zone at the end of a point in time: minutes ahead, if any. -/
def readZone (cs : List Char) : Option (Option Int) :=
  match cs.dropWhile fun c => c == ' ' || c == '\t' with
  | [] => if cs.isEmpty then some none else none
  | ['Z'] => some (some 0)
  | s :: rest =>
    if s != '+' && s != '-' then none
    else
      (takeNumber 1 2 rest).bind fun (hours, rest) =>
        let minutes? : Option Nat :=
          match rest with
          | [] => some 0
          | ':' :: ds =>
            match takeNumber 2 2 ds with
            | some (m, []) => some m
            | _ => none
          | _ => none
        minutes?.map fun m =>
          let offset : Int := hours * 60 + m
          some (if s == '-' then -offset else offset)

/-- Reads the time of a point in time: hour, minute, second, millionths, and zone. -/
def readTime (cs : List Char) : Option (Nat × Nat × Nat × Nat × Option Int) := do
  let rest ←
    match cs with
    | 'T' :: rest | 't' :: rest => some rest
    | c :: _ =>
      if c == ' ' || c == '\t' then some (cs.dropWhile fun c => c == ' ' || c == '\t') else none
    | [] => none
  let (hour, rest) ← takeNumber 1 2 rest
  let rest ← takeChar ':' rest
  let (minute, rest) ← takeNumber 2 2 rest
  let rest ← takeChar ':' rest
  let (second, rest) ← takeNumber 2 2 rest
  let (micro, rest) :=
    match rest with
    | '.' :: ds =>
      let digits := ds.takeWhile Char.isDigit
      let six := (digits ++ List.replicate 6 '0').take 6
      (six.foldl (fun n d => 10 * n + (d.toNat - 48)) 0, ds.drop digits.length)
    | _ => (0, rest)
  let zone ← readZone rest
  return (hour, minute, second, micro, zone)

/-- Reads a point in time: a day, or a day and a time. -/
def readNumbers (cs : List Char) : Option (Date × Option (Nat × Nat × Nat × Nat × Option Int)) := do
  let (year, rest) ← takeNumber 4 4 cs
  let rest ← takeChar '-' rest
  let (month, rest) ← takeNumber 1 2 rest
  let rest ← takeChar '-' rest
  let (day, rest) ← takeNumber 1 2 rest
  if rest.isEmpty then return (⟨year, month, day⟩, none)
  else return (⟨year, month, day⟩, some (← readTime rest))

/-- The point in time that a scalar writes; it must be on the calendar. A line feed
    at its end does not matter. -/
def readTimestamp (cs : List Char) : Except Fault Value :=
  match readNumbers (Form.withoutLineFeed cs) with
  | none => .error .notATime
  | some (date, none) => if date.isValid then .ok (.date date) else .error .noSuchTime
  | some (date, some (hour, minute, second, micro, offset)) =>
    let m : Moment := ⟨date, hour, minute, second, micro, offset⟩
    if m.isValid then .ok (.moment m) else .error .noSuchTime

/-- The value of a character of the base-64 alphabet. -/
def sextet? (c : Char) : Option Nat :=
  if 'A' ≤ c && c ≤ 'Z' then some (c.toNat - 65)
  else if 'a' ≤ c && c ≤ 'z' then some (c.toNat - 71)
  else if c.isDigit then some (c.toNat + 4)
  else if c == '+' then some 62
  else if c == '/' then some 63
  else none

/-- Reads groups of four sextets as three bytes. `phase` sextets of the group have
    been read, `left` is what remains of the last one, and `pads` signs of the end
    have been seen since. Other characters do not matter. -/
def readSextets : List Char → (phase left pads : Nat) → Option (List UInt8)
  | [], phase, _, _ => if phase == 0 then some [] else none
  | '=' :: cs, phase, left, pads =>
    if phase ≥ 2 then
      if phase + pads + 1 ≥ 4 then some [] else readSextets cs phase left (pads + 1)
    else readSextets cs phase left pads
  | c :: cs, phase, left, pads =>
    match sextet? c, phase with
    | none, _ => readSextets cs phase left pads
    | some v, 0 => readSextets cs 1 v 0
    | some v, 1 => (readSextets cs 2 (v % 16) 0).map (UInt8.ofNat (left * 4 + v / 16) :: ·)
    | some v, 2 => (readSextets cs 3 (v % 4) 0).map (UInt8.ofNat (left * 16 + v / 4) :: ·)
    | some v, _ => (readSextets cs 0 0 0).map (UInt8.ofNat (left * 64 + v) :: ·)

/-- The bytes that a scalar of ASCII characters encodes. -/
def readBinary (cs : List Char) : Except Fault Value :=
  if cs.any fun c => c.toNat ≥ 128 then .error .malformed
  else
    match readSextets cs 0 0 0 with
    | some bs => .ok (.bytes bs)
    | none => .error .malformed

end Manuscript.Yaml
