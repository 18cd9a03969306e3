import Loyalty.Text.Quoted
import Loyalty.Text.Utf8

/-!
# Text from outside

What the system hands over as text is a row of bytes, and need not be text at all.
-/

namespace Loyalty.Text

/-- A row of bytes. -/
structure Raw where
  bytes : List UInt8
  deriving DecidableEq, Repr

namespace Raw

def ofString (s : String) : Raw := ⟨s.toUTF8.toList⟩

def text? (r : Raw) : Option String := String.fromUTF8? ⟨r.bytes.toArray⟩

/-- A digit of base sixteen in upper case. -/
def upperDigit (d : Nat) : Char := (Nat.digitChar d).toUpper

/-- The bytes behind so many, with every character shown and every other byte by its number. -/
def shown : Nat → List UInt8 → List Char
  | _, [] => []
  | skipped + 1, _ :: bs => shown skipped bs
  | 0, b :: bs =>
    match Utf8.front b bs with
    | .character '\'' _ => ['\\', '\''] ++ shown 0 bs
    | .character c n => showChar c ++ shown (n - 1) bs
    | .malformed _ | .cut _ =>
      ['\\', 'x', upperDigit (b.toNat / 16), upperDigit (b.toNat % 16)] ++ shown 0 bs

def quoted (r : Raw) : String := String.ofList ('"' :: (shown 0 r.bytes ++ ['"']))

end Raw

end Loyalty.Text
