/-!
# Calendar

Days and moments of the Gregorian calendar, years 1 to 9999, with their written
forms. A moment may know its distance from the prime meridian's clock.
-/

namespace Manuscript.Calendar

/-- Every fourth year is long, of the full centuries only every fourth. -/
def isLeap (year : Nat) : Bool := year % 4 == 0 && (year % 100 != 0 || year % 400 == 0)

/-- The days of a month. -/
def daysIn (year month : Nat) : Nat :=
  match month with
  | 2 => if isLeap year then 29 else 28
  | 4 | 6 | 9 | 11 => 30
  | _ => 31

/-- A day, given as numbers. -/
structure Date where
  /-- The year. -/
  year : Nat
  /-- The month, from 1. -/
  month : Nat
  /-- The day of the month, from 1. -/
  day : Nat
  deriving DecidableEq, Repr

/-- Whether the numbers name a day. -/
def Date.isValid (d : Date) : Bool :=
  1 ≤ d.year && d.year ≤ 9999 && 1 ≤ d.month && d.month ≤ 12
    && 1 ≤ d.day && d.day ≤ daysIn d.year d.month

/-- A day and the time on it. -/
structure Moment where
  /-- The day. -/
  date : Date
  /-- The hour, from 0. -/
  hour : Nat
  /-- The minute. -/
  minute : Nat
  /-- The second. -/
  second : Nat
  /-- Millionths of a second. -/
  micro : Nat
  /-- Minutes ahead of the prime meridian, if they are known. -/
  offset : Option Int
  deriving DecidableEq, Repr

/-- Whether the numbers name a moment; an offset stays below a day. -/
def Moment.isValid (m : Moment) : Bool :=
  m.date.isValid && m.hour < 24 && m.minute < 60 && m.second < 60 && m.micro < 1000000
    && m.offset.all fun o => o.natAbs < 24 * 60

/-- A number with zeros before it to fill `width` places. -/
def padded (width n : Nat) : String :=
  let digits := Nat.toDigits 10 n
  String.ofList (List.replicate (width - digits.length) '0' ++ digits)

/-- `2020-01-31`. -/
def Date.written (d : Date) : String :=
  padded 4 d.year ++ "-" ++ padded 2 d.month ++ "-" ++ padded 2 d.day

/-- `+01:30`. -/
def offsetWritten (minutes : Int) : String :=
  (if minutes < 0 then "-" else "+")
    ++ padded 2 (minutes.natAbs / 60) ++ ":" ++ padded 2 (minutes.natAbs % 60)

/-- The day and the time with `between` between them, millionths only if there are
    any. -/
def Moment.written (between : String) (m : Moment) : String :=
  m.date.written ++ between ++ padded 2 m.hour ++ ":" ++ padded 2 m.minute ++ ":"
    ++ padded 2 m.second ++ (if m.micro == 0 then "" else "." ++ padded 6 m.micro)
    ++ (m.offset.map offsetWritten).getD ""

/-- Days from the first of January of the year 1 to the given day. -/
def Date.ordinal (d : Date) : Nat :=
  let y := d.year - 1
  365 * y + y / 4 - y / 100 + y / 400
    + (List.range (d.month - 1)).foldr (fun m n => daysIn d.year (m + 1) + n) 0 + d.day

/-- Millionths of a second since the beginning of the year 1, on the clock of the
    prime meridian if the offset is known. -/
def Moment.instant (m : Moment) : Int :=
  (((m.date.ordinal * 24 + m.hour : Nat) : Int) * 60 + m.minute - m.offset.getD 0) * 60000000
    + (m.second * 1000000 + m.micro : Nat)

/-- Whether two moments are the same: the same time on the same day when neither
    offset is known, the same instant when both are. -/
def Moment.same (a b : Moment) : Bool :=
  a.offset.isSome == b.offset.isSome && a.instant == b.instant

end Manuscript.Calendar
