/-!
# Text as bytes

A character takes one to four bytes. The first one tells how many follow, and which values the
second may have; the others have two bits of their own in front. Where a row of bytes is no text,
the bytes up to the first that cannot follow are at fault.
-/

namespace Loyalty.Text.Utf8

/-- What stands in front in a row of bytes, and how many bytes it takes. -/
inductive Front where
  | character (c : Char) (width : Nat)
  /-- Bytes that begin no character. -/
  | malformed (width : Nat)
  /-- The row ends within a character. -/
  | cut (width : Nat)
  deriving DecidableEq, Repr

def Front.width : Front → Nat
  | .character _ n | .malformed n | .cut n => n

/-- How many bytes follow the first byte of a character, the part of the character it holds, and
the least and largest value of the second. -/
def lead? (b : Nat) : Option (Nat × Nat × Nat × Nat) :=
  if b < 0x80 then some (0, b, 0x80, 0xBF)
  else if b < 0xC2 then none
  else if b < 0xE0 then some (1, b - 0xC0, 0x80, 0xBF)
  else if b = 0xE0 then some (2, 0, 0xA0, 0xBF)
  else if b = 0xED then some (2, 13, 0x80, 0x9F)
  else if b < 0xF0 then some (2, b - 0xE0, 0x80, 0xBF)
  else if b = 0xF0 then some (3, 0, 0x90, 0xBF)
  else if b < 0xF4 then some (3, b - 0xF0, 0x80, 0xBF)
  else if b = 0xF4 then some (3, 4, 0x80, 0x8F)
  else none

/-- Reads so many bytes behind the first `width`, which hold the part `value` of a character. -/
def readTail (width value : Nat) : Nat → Nat → Nat → List UInt8 → Front
  | 0, _, _, _ => .character (Char.ofNat value) width
  | _ + 1, _, _, [] => .cut width
  | n + 1, low, high, b :: bs =>
    if low ≤ b.toNat ∧ b.toNat ≤ high then
      readTail (width + 1) (value * 64 + b.toNat % 64) n 0x80 0xBF bs
    else .malformed width

/-- What stands in front in a row of bytes that starts with `b`. -/
def front (b : UInt8) (bs : List UInt8) : Front :=
  match lead? b.toNat with
  | some (count, value, low, high) => readTail 1 value count low high bs
  | none => .malformed 1

/-- The text behind so many bytes; bytes that are none of it are marked. -/
def markFaults : Nat → List UInt8 → List Char
  | _, [] => []
  | skipped + 1, _ :: bs => markFaults skipped bs
  | 0, b :: bs =>
    match front b bs with
    | .character c n => c :: markFaults (n - 1) bs
    | .malformed n | .cut n => '\ufffd' :: markFaults (n - 1) bs

/-- Why a row of bytes is no text, with the place of the fault. -/
inductive Fault where
  | malformed (width : Nat) (at_ : Nat)
  | cut (at_ : Nat)
  deriving DecidableEq, Repr

def Fault.message : Fault → String
  | .malformed n i => s!"invalid utf-8 sequence of {n} bytes from index {i}"
  | .cut i => s!"incomplete utf-8 byte sequence from index {i}"

/-- The first fault behind so many bytes; the row starts at `at_`. -/
def fault? (at_ : Nat) : Nat → List UInt8 → Option Fault
  | _, [] => none
  | skipped + 1, _ :: bs => fault? (at_ + 1) skipped bs
  | 0, b :: bs =>
    match front b bs with
    | .character _ n => fault? (at_ + 1) (n - 1) bs
    | .malformed n => some (.malformed n at_)
    | .cut _ => some (.cut at_)

/-- Refuses a row of bytes that is no text. -/
def check (bytes : List UInt8) : Except Fault Unit :=
  match fault? 0 0 bytes with
  | some f => .error f
  | none => .ok ()

end Loyalty.Text.Utf8
