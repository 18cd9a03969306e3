import Loyalty.Text.Basic
import Loyalty.Text.Blank
import Loyalty.Timestamp.Basic
import Loyalty.Whole

/-!
# The text of an instant

An instant is read from a date, a `T` or a blank, a time of day, and how far that time is from
universal time; blanks may stand in front of each number. It is told in universal time with as
many places of a second as it needs, in threes. Years beyond four digits carry a sign.
-/

namespace Loyalty.Timestamp

open Loyalty.Text

inductive ParseError where
  | outOfRange
  | impossible
  | malformed
  | tooShort
  | tooLong
  deriving DecidableEq, Repr

def ParseError.message : ParseError → String
  | .outOfRange => "input is out of range"
  | .impossible => "no possible date and time matching input"
  | .malformed => "input contains invalid characters"
  | .tooShort => "premature end of input"
  | .tooLong => "trailing input"

/-- A part of an instant and the text behind it. -/
abbrev Read (α : Type) := List Char → Except ParseError (α × List Char)

/-- A number of at least one digit, and at most `width` of them if that is given. -/
def number (width : Option Nat) (cs : List Char) : Except ParseError (Nat × List Char) :=
  let digits := cs.takeWhile fun c => (digit? c).isSome
  let digits := match width with
    | some w => digits.take w
    | none => digits
  match cs with
  | [] => .error .tooShort
  | _ =>
    if digits.isEmpty then .error .malformed
    else match readDigits maxSigned64 .tooLarge 0 digits with
      | .error _ => .error .outOfRange
      | .ok n => .ok (n, cs.drop digits.length)

/-- A number of at most two digits within bounds, after blanks. -/
def bounded (low high : Nat) (cs : List Char) : Except ParseError (Nat × List Char) := do
  let (n, rest) ← number (some 2) (trimLeft cs)
  if low ≤ n ∧ n ≤ high then .ok (n, rest) else .error .outOfRange

/-- A year: four digits at most, or a sign and any number of them. -/
def year (cs : List Char) : Except ParseError (Int × List Char) := do
  let (y, rest) ← match trimLeft cs with
    | '-' :: cs => do
      let (n, rest) ← number none cs
      pure (-(n : Int), rest)
    | '+' :: cs => do
      let (n, rest) ← number none cs
      pure ((n : Int), rest)
    | cs => do
      let (n, rest) ← number (some 4) cs
      pure ((n : Int), rest)
  if -2147483648 ≤ y ∧ y ≤ 2147483647 then .ok (y, rest) else .error .outOfRange

def mark (c : Char) (cs : List Char) : Except ParseError (List Char) :=
  match trimLeft cs with
  | [] => .error .tooShort
  | d :: rest => if c = d then .ok rest else .error .malformed

/-- A day of the calendar, as it is written. -/
def date (cs : List Char) : Except ParseError (Day × List Char) := do
  let (y, cs) ← year cs
  let cs ← mark '-' cs
  let (m, cs) ← bounded 1 12 cs
  let cs ← mark '-' cs
  let (d, cs) ← bounded 1 31 cs
  return (⟨y, m, d⟩, cs)

/-- What stands between date and time. -/
def separator : List Char → Except ParseError (List Char)
  | [] => .error .tooShort
  | c :: cs => if c = 't' ∨ c = 'T' ∨ c = ' ' then .ok cs else .error .malformed

/-- The nanoseconds that up to nine digits behind a point stand for. -/
def fraction (cs : List Char) : Except ParseError (Nat × List Char) :=
  match cs with
  | '.' :: cs => do
    let (n, rest) ← number (some 9) cs
    return (n * tenTo (9 - (cs.length - rest.length)), rest.dropWhile fun c => (digit? c).isSome)
  | cs => .ok (0, cs)

/-- A time of day: its seconds and nanoseconds. -/
def timeOfDay (cs : List Char) : Except ParseError ((Nat × Nat) × List Char) := do
  let (h, cs) ← bounded 0 23 cs
  let cs ← mark ':' cs
  let (m, cs) ← bounded 0 59 cs
  let cs ← mark ':' cs
  let (s, cs) ← bounded 0 60 cs
  let (f, cs) ← fraction cs
  let nanos := if s = 60 then 1000000000 + f else f
  return ((h * 3600 + m * 60 + min s 59, nanos), cs)

/-- Two digits, the first of them not above `high`. -/
def twoDigits (high : Nat) (cs : List Char) : Except ParseError (Nat × List Char) :=
  if byteLength (cs.take 2) < 2 then .error .tooShort
  else match cs with
    | a :: b :: rest =>
      match digit? a, digit? b with
      | some x, some y => if x ≤ high then .ok (x * 10 + y, rest) else .error .outOfRange
      | _, _ => .error .malformed
    | _ => .error .malformed

/-- The character may stand between the hours and the minutes of a distance. -/
def isDivider (c : Char) : Bool := c == ':' || isBlank c

/-- The seconds by which a time is ahead of universal time. -/
def offset (cs : List Char) : Except ParseError (Int × List Char) :=
  let signed (negative : Bool) (cs : List Char) : Except ParseError (Int × List Char) := do
    let (h, cs) ← twoDigits 9 cs
    let (m, cs) ← twoDigits 5 (cs.dropWhile isDivider)
    let seconds : Int := h * 3600 + m * 60
    return (if negative then -seconds else seconds, cs)
  match cs with
  | [] => .error .tooShort
  | 'Z' :: cs | 'z' :: cs => .ok (0, cs)
  | '+' :: cs => signed false cs
  | '-' :: cs | '\u2212' :: cs => signed true cs
  | a :: b :: c :: rest =>
    if [a, b, c].map Char.toUpper = ['U', 'T', 'C'] then .ok (0, rest) else .error .malformed
  | _ => .error .malformed

/-- Reads an instant. -/
def parseChars (cs : List Char) : Except ParseError Timestamp := do
  let (day, cs) ← date cs
  let cs ← separator cs
  let ((seconds, nanos), cs) ← timeOfDay cs
  let (ahead, cs) ← offset (trimLeft cs)
  if !(trimLeft cs).isEmpty then throw .tooLong
  if !day.isValid then throw .outOfRange
  if 86400 ≤ ahead.natAbs then throw .outOfRange
  let t : Timestamp := ⟨day.number * 86400 + seconds - ahead, nanos⟩
  if firstYear ≤ t.day.year ∧ t.day.year ≤ lastYear then return t else throw .impossible

@[inherit_doc parseChars]
def parse (s : String) : Except ParseError Timestamp := parseChars s.toList

def padded (width n : Nat) : List Char :=
  let digits := Nat.toDigits 10 n
  List.replicate (width - digits.length) '0' ++ digits

/-- A year; one beyond four digits has a sign. -/
def yearText (y : Int) : List Char :=
  if 0 ≤ y ∧ y ≤ 9999 then padded 4 y.toNat
  else (if y < 0 then '-' else '+') :: padded 4 y.natAbs

/-- The nanoseconds within a second, in threes of digits. -/
def fractionText (n : Nat) : List Char :=
  if n = 0 then []
  else if n % 1000000 = 0 then '.' :: padded 3 (n / 1000000)
  else if n % 1000 = 0 then '.' :: padded 6 (n / 1000)
  else '.' :: padded 9 n

/-- A date and a time of day with a mark between them. -/
def dateAndTime (t : Timestamp) (between : Char) : List Char :=
  let d := t.day
  let s := t.secondOfDay
  yearText d.year ++ ['-'] ++ padded 2 d.month ++ ['-'] ++ padded 2 d.day ++ [between] ++
    padded 2 (s / 3600) ++ [':'] ++ padded 2 (s / 60 % 60) ++ [':'] ++
    padded 2 (s % 60 + t.nanos / 1000000000)

/-- The text of an instant, in universal time. -/
def toText (t : Timestamp) : String :=
  String.ofList (t.dateAndTime 'T' ++ fractionText (t.nanos % 1000000000) ++ ['Z'])

/-- The instant to the second, as it stands in a table. -/
def tableText (t : Timestamp) : String := String.ofList (t.dateAndTime ' ')

end Loyalty.Timestamp
