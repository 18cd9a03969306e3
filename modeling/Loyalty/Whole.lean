/-!
# Whole numbers

The places of a decimal are powers of ten, those of a machine word powers of two.

The text of a whole number is an optional sign and ASCII digits, nothing else. It is read from the
left, and the first thing that is wrong is the cause that is reported: a character that is no digit,
or the digit by which the value leaves the range.
-/

namespace Loyalty

def tenTo (n : Nat) : Nat := Nat.pow 10 n

def twoTo (n : Nat) : Nat := Nat.pow 2 n

@[simp] theorem tenTo_zero : tenTo 0 = 1 := rfl

theorem tenTo_succ (n : Nat) : tenTo (n + 1) = tenTo n * 10 := rfl

theorem tenTo_pos (n : Nat) : 0 < tenTo n := by
  induction n with
  | zero => decide
  | succ n ih =>
    rw [tenTo_succ]
    omega

namespace Text

inductive WholeError where
  | empty
  | invalidDigit
  | tooLarge
  | tooSmall
  deriving DecidableEq, Repr

def WholeError.message : WholeError → String
  | .empty => "cannot parse integer from empty string"
  | .invalidDigit => "invalid digit found in string"
  | .tooLarge => "number too large to fit in target type"
  | .tooSmall => "number too small to fit in target type"

def digit? (c : Char) : Option Nat :=
  if c.isDigit then some (c.toNat - '0'.toNat) else none

/-- Reads digits from the left onto `acc`; a value above `max` is the error `beyond`. -/
def readDigits (max : Nat) (beyond : WholeError) : Nat → List Char → Except WholeError Nat
  | acc, [] => .ok acc
  | acc, c :: cs =>
    match digit? c with
    | none => .error .invalidDigit
    | some d => if acc * 10 + d ≤ max then readDigits max beyond (acc * 10 + d) cs else .error beyond

/-- A number from 0 to `max`; one leading `+` is allowed. -/
def parseNat (max : Nat) : List Char → Except WholeError Nat
  | [] => .error .empty
  | ['+'] => .error .invalidDigit
  | '+' :: cs => readDigits max .tooLarge 0 cs
  | cs => readDigits max .tooLarge 0 cs

/-- A number from `-(bound + 1)` to `bound`; one leading sign is allowed. -/
def parseInt (bound : Nat) : List Char → Except WholeError Int
  | [] => .error .empty
  | ['+'] => .error .invalidDigit
  | ['-'] => .error .invalidDigit
  | '+' :: cs => (readDigits bound .tooLarge 0 cs).map Int.ofNat
  | '-' :: cs => (readDigits (bound + 1) .tooSmall 0 cs).map fun n => -Int.ofNat n
  | cs => (readDigits bound .tooLarge 0 cs).map Int.ofNat

/-- The largest number of 16, 32 and 64 bits, and the largest signed one of 64 bits. -/
def max16 : Nat := 65535
@[inherit_doc max16] def max32 : Nat := 4294967295
@[inherit_doc max16] def max64 : Nat := 18446744073709551615
@[inherit_doc max16] def maxSigned64 : Nat := 9223372036854775807

end Text

end Loyalty
