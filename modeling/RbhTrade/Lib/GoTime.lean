import Mathlib.Algebra.Group.Int.Defs
import Mathlib.Data.Int.Basic
import Mathlib.Tactic.Basic
import RbhTrade.Lib.Decimal

/-!
# Instants and their RFC 3339 texts

An instant is a number of nanoseconds since the Unix epoch, in UTC. `formatRFC3339Nano` and
`parseRFC3339Nano` follow Go's `time` package for the layout
`2006-01-02T15:04:05.999999999Z07:00`: formatting drops the trailing zeros of the fraction, and
the point with them when no digit is left, so the texts of two instants do not always sort in the
order of the instants. Parsing takes any number of fraction digits and keeps nine of them, allows
a one-digit hour and a comma in place of the point, and subtracts a numeric zone offset.
-/

namespace GoTime

open Decimal

/-- Nanoseconds since 1970-01-01T00:00:00Z. -/
abbrev Instant := Int

def nanosPerSecond : Int := 1000000000

/-- The zero `time.Time`, 0001-01-01T00:00:00Z. -/
def zeroInstant : Instant := -62135596800 * nanosPerSecond

/-- `UnixNano` as an unsigned 64-bit number: the count wraps. -/
def unixNano64 (t : Instant) : Nat := (t % 2 ^ 64).toNat

/-! ## Civil dates -/

/-- The day number of a proleptic Gregorian date, counted from 1970-01-01. -/
def daysOfCivil (year : Int) (month day : Nat) : Int :=
  let y := if month ≤ 2 then year - 1 else year
  let era := y / 400
  let yearOfEra := y - era * 400
  let monthIndex : Int := if month > 2 then (month : Int) - 3 else (month : Int) + 9
  let dayOfYear := (153 * monthIndex + 2) / 5 + (day : Int) - 1
  let dayOfEra := yearOfEra * 365 + yearOfEra / 4 - yearOfEra / 100 + dayOfYear
  era * 146097 + dayOfEra - 719468

/-- The date of a day number. -/
def civilOfDays (days : Int) : Int × Nat × Nat :=
  let z := days + 719468
  let era := z / 146097
  let dayOfEra := z - era * 146097
  let yearOfEra := (dayOfEra - dayOfEra / 1460 + dayOfEra / 36524 - dayOfEra / 146096) / 365
  let dayOfYear := dayOfEra - (365 * yearOfEra + yearOfEra / 4 - yearOfEra / 100)
  let monthIndex := (5 * dayOfYear + 2) / 153
  let day := dayOfYear - (153 * monthIndex + 2) / 5 + 1
  let month := if monthIndex < 10 then monthIndex + 3 else monthIndex - 9
  let year := yearOfEra + era * 400 + (if month ≤ 2 then 1 else 0)
  (year, month.toNat, day.toNat)

/-- `t.Year()` in UTC. -/
def yearOf (t : Instant) : Int := (civilOfDays (t / (86400 * nanosPerSecond))).1

def isLeap (year : Int) : Bool :=
  year % 4 == 0 && (year % 100 != 0 || year % 400 == 0)

def daysIn (month : Nat) (year : Int) : Nat :=
  if month = 2 then (if isLeap year then 29 else 28)
  else if month = 4 ∨ month = 6 ∨ month = 9 ∨ month = 11 then 30
  else 31

/-! ## Formatting -/

/-- The decimal digits of `n`, filled with zeros on the left to `width`. -/
def pad (width n : Nat) : List Char :=
  let digits := Nat.toDigits 10 n
  List.replicate (width - digits.length) '0' ++ digits

/-- The year as Go writes it: a sign for negative years, at least four digits. -/
def formatYear (year : Int) : List Char :=
  if year < 0 then '-' :: pad 4 (-year).toNat else pad 4 year.toNat

/-- The fraction without its trailing zeros; nothing at all for a whole second. -/
def formatFraction (nanos : Nat) : List Char :=
  let digits := ((pad 9 nanos).reverse.dropWhile (· == '0')).reverse
  if digits.isEmpty then [] else '.' :: digits

/-- `t.UTC().Format(time.RFC3339Nano)`. -/
def formatRFC3339Nano (t : Instant) : String :=
  let seconds := t / nanosPerSecond
  let nanos := (t % nanosPerSecond).toNat
  let (year, month, day) := civilOfDays (seconds / 86400)
  let ofDay := (seconds % 86400).toNat
  String.ofList <|
    formatYear year ++ '-' :: pad 2 month ++ '-' :: pad 2 day ++ 'T' :: pad 2 (ofDay / 3600) ++
      ':' :: pad 2 (ofDay / 60 % 60) ++ ':' :: pad 2 (ofDay % 60) ++ formatFraction nanos ++ ['Z']

/-! ## Parsing -/

/-- Exactly two digits. -/
def twoDigits : List Char → Option (Nat × List Char)
  | a :: b :: rest => do return (10 * (← digit? a) + (← digit? b), rest)
  | _ => none

/-- One or two digits, as many as there are. -/
def oneOrTwoDigits : List Char → Option (Nat × List Char)
  | a :: rest => do
      let x ← digit? a
      match rest with
      | b :: rest' =>
          match digit? b with
          | some y => return (10 * x + y, rest')
          | none => return (x, rest)
      | [] => return (x, rest)
  | [] => none

def fourDigits : List Char → Option (Nat × List Char)
  | a :: b :: c :: d :: rest => do
      return (1000 * (← digit? a) + 100 * (← digit? b) + 10 * (← digit? c) + (← digit? d), rest)
  | _ => none

def expectChar (c : Char) : List Char → Option (List Char)
  | x :: rest => if x = c then some rest else none
  | [] => none

/-- The value of a digit string as a fraction of a second, in nanoseconds: digits after the ninth
are dropped. -/
def fractionNanos (digits : List Char) : Nat :=
  let kept := digits.take 9
  kept.foldl (fun n c => 10 * n + (c.toNat - '0'.toNat)) 0 * 10 ^ (9 - kept.length)

/-- An optional fraction. A separator that no digit follows is left for the zone to refuse. -/
def parseFraction : List Char → Nat × List Char
  | c :: d :: rest =>
      if (c = '.' ∨ c = ',') ∧ (digit? d).isSome then
        let digits := (d :: rest).takeWhile fun x => (digit? x).isSome
        (fractionNanos digits, (d :: rest).drop digits.length)
      else (0, c :: d :: rest)
  | rest => (0, rest)

/-- `Z` or a signed offset `±hh:mm`, in seconds east of UTC; nothing may follow. -/
def parseZone : List Char → Option Int
  | ['Z'] => some 0
  | sign :: rest => do
      let (hours, rest) ← twoDigits rest
      let rest ← expectChar ':' rest
      let (minutes, rest) ← twoDigits rest
      guard (rest = [] ∧ hours ≤ 24 ∧ minutes ≤ 60)
      let offset : Int := (hours * 60 + minutes) * 60
      if sign = '+' then return offset
      else if sign = '-' then return -offset
      else none
  | [] => none

/-- `time.Parse(time.RFC3339Nano, text)`; `none` stands for its errors. -/
def parseRFC3339Nano (text : String) : Option Instant := do
  let (year, rest) ← fourDigits text.toList
  let rest ← expectChar '-' rest
  let (month, rest) ← twoDigits rest
  guard (1 ≤ month ∧ month ≤ 12)
  let rest ← expectChar '-' rest
  let (day, rest) ← twoDigits rest
  let rest ← expectChar 'T' rest
  let (hour, rest) ← oneOrTwoDigits rest
  guard (hour < 24)
  let rest ← expectChar ':' rest
  let (minute, rest) ← twoDigits rest
  guard (minute < 60)
  let rest ← expectChar ':' rest
  let (second, rest) ← twoDigits rest
  guard (second < 60)
  let (nanos, rest) := parseFraction rest
  let offset ← parseZone rest
  guard (1 ≤ day ∧ day ≤ daysIn month year)
  let ofDay : Int := (hour * 60 + minute) * 60 + second
  return (daysOfCivil year month day * 86400 + ofDay - offset) * nanosPerSecond + nanos

example : formatRFC3339Nano 1790467200500000000 = "2026-09-27T00:00:00.5Z" := by decide
example : parseRFC3339Nano "2026-09-27T00:00:00.5Z" = some 1790467200500000000 := by decide

end GoTime
