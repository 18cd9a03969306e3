/-!
# Instants

An instant is a count of seconds since the beginning of 1970 together with nanoseconds. A leap
second is told as the second before it with a thousand million nanoseconds or more. The calendar
is the Gregorian one, carried on in both directions.
-/

namespace Loyalty

structure Timestamp where
  seconds : Int
  nanos : Nat := 0
  deriving DecidableEq, Repr

namespace Timestamp

def next (t : Timestamp) : Timestamp :=
  if t.nanos + 1000 < 1000000000 then { t with nanos := t.nanos + 1000 }
  else { seconds := t.seconds + 1 }

structure Day where
  year : Int
  month : Nat
  day : Nat
  deriving DecidableEq, Repr

def isLeapYear (y : Int) : Bool := (y % 4 = 0 ∧ y % 100 ≠ 0) ∨ y % 400 = 0

def monthLength (y : Int) : Nat → Nat
  | 2 => if isLeapYear y then 29 else 28
  | 4 | 6 | 9 | 11 => 30
  | _ => 31

/-- The first and the last year that can be told. -/
def firstYear : Int := -262143
@[inherit_doc firstYear] def lastYear : Int := 262142

/-- The day is one of the calendar, in a year that can be told. -/
def Day.isValid (d : Day) : Bool :=
  firstYear ≤ d.year ∧ d.year ≤ lastYear ∧ 1 ≤ d.month ∧ d.month ≤ 12 ∧ 1 ≤ d.day ∧
    d.day ≤ monthLength d.year d.month

/-- The days from the beginning of 1970 to a day. Years are counted from March on, so that the
leap day is the last of its year. -/
def Day.number (d : Day) : Int :=
  let y := if d.month ≤ 2 then d.year - 1 else d.year
  let m : Int := if d.month ≤ 2 then d.month + 9 else d.month - 3
  let era := y.fdiv 400
  let ofEra := y - era * 400
  let ofYear := (153 * m + 2) / 5 + d.day - 1
  era * 146097 + ofEra * 365 + ofEra / 4 - ofEra / 100 + ofYear - 719468

/-- The day that many days after the beginning of 1970. -/
def Day.ofNumber (n : Int) : Day :=
  let z := n + 719468
  let era := z.fdiv 146097
  let ofEra := z - era * 146097
  let year := (ofEra - ofEra / 1460 + ofEra / 36524 - ofEra / 146096) / 365
  let ofYear := ofEra - (365 * year + year / 4 - year / 100)
  let m := (5 * ofYear + 2) / 153
  let day := ofYear - (153 * m + 2) / 5 + 1
  let month := if m < 10 then m + 3 else m - 9
  ⟨if month ≤ 2 then year + era * 400 + 1 else year + era * 400, month.toNat, day.toNat⟩

def day (t : Timestamp) : Day := .ofNumber (t.seconds.fdiv 86400)

def secondOfDay (t : Timestamp) : Nat := (t.seconds - t.seconds.fdiv 86400 * 86400).toNat

end Timestamp

end Loyalty
