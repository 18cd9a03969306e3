/-!
# Digits, bytes and parts of a text

Hexadecimal digits, the bytes that a text takes or stands for, and the parts between marks.

In an address a percent sign and two hexadecimal digits stand for a byte; a percent sign that is not
followed by two of them stands for itself. A text that is divided at a mark has one part more than
there are marks, and any part may be empty.

A set of characters is kept as ranges of their numbers. It is written in words: two numbers to
base sixteen with a hyphen between them, or one number alone.
-/

namespace Loyalty.Text

/-- The value of a hexadecimal digit of either case. -/
def hexDigit? (c : Char) : Option Nat :=
  if '0' ≤ c ∧ c ≤ '9' then some (c.toNat - '0'.toNat)
  else if 'a' ≤ c ∧ c ≤ 'f' then some (c.toNat - 'a'.toNat + 10)
  else if 'A' ≤ c ∧ c ≤ 'F' then some (c.toNat - 'A'.toNat + 10)
  else none

/-- So many hexadecimal digits of a number in lower case, the last ones. -/
def lastHexDigits (n : Nat) : Nat → List Char
  | 0 => []
  | count + 1 => lastHexDigits (n / 16) count ++ [Nat.digitChar (n % 16)]

def byteLength : List Char → Nat
  | [] => 0
  | c :: cs => c.utf8Size + byteLength cs

def bytesOf (c : Char) : List UInt8 := (String.singleton c).toUTF8.toList

/-- The bytes that a text stands for. -/
def percentBytes : List Char → List UInt8
  | [] => []
  | '%' :: a :: b :: cs =>
    match hexDigit? a, hexDigit? b with
    | some x, some y => (x * 16 + y).toUInt8 :: percentBytes cs
    | _, _ => bytesOf '%' ++ percentBytes (a :: b :: cs)
  | c :: cs => bytesOf c ++ percentBytes cs

/-- The text that the bytes of a text stand for, if they stand for one. -/
def percentDecode (cs : List Char) : Option String :=
  String.fromUTF8? ⟨(percentBytes cs).toArray⟩

/-- The parts of a text between marks. -/
def parts (mark : Char) : List Char → List (List Char)
  | [] => [[]]
  | c :: cs =>
    if c = mark then [] :: parts mark cs
    else match parts mark cs with
      | p :: ps => (c :: p) :: ps
      | [] => [[c]]

theorem parts_ne_nil (mark : Char) (cs : List Char) : parts mark cs ≠ [] := by
  cases cs with
  | nil => simp [parts]
  | cons c cs =>
    rw [parts]
    split
    · simp
    · split <;> simp

/-! ### Sets of characters -/

/-- The number that digits to base sixteen stand for. -/
def hexValue (cs : List Char) : Nat := cs.foldl (fun n c => n * 16 + (hexDigit? c).getD 0) 0

/-- Ranges of numbers, both ends included. -/
structure Ranges where
  ends : List (Nat × Nat)
  deriving DecidableEq, Repr

namespace Ranges

def readWord (word : List Char) : Nat × Nat :=
  match parts '-' word with
  | [low, high] => (hexValue low, hexValue high)
  | _ => (hexValue word, hexValue word)

/-- The words of some lines. -/
def wordsOf (lines : List String) : List (List Char) :=
  lines.flatMap fun line => parts ' ' line.toList

def ofLines (lines : List String) : Ranges := ⟨(wordsOf lines).map readWord⟩

def hasNumber (r : Ranges) (n : Nat) : Bool := r.ends.any fun (low, high) => low ≤ n && n ≤ high

def has (r : Ranges) (c : Char) : Bool := r.hasNumber c.toNat

end Ranges

end Loyalty.Text
