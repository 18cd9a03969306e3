import Loyalty.Text.Marks
import Loyalty.Text.Unassigned

/-!
# Quoted text in messages

A message shows a text in quotes, with a backslash in front of what would end it. A character
that would not be seen is shown by its number.
-/

namespace Loyalty.Text

/-- Characters that leave no sign: controls, blanks but the plain one, marks of direction and
fillers. -/
def signless : Ranges :=
  .ofLines [
    "0-1f 7f-a0 ad 600-605 61c 6dd 70f 890-891 8e2 115f-1160 1680 180e 2000-200f 2028-202f",
    "205f-2064 2066-206f 3000 3164 feff ffa0 fff9-fffb 110bd 110cd 13430-1343f 1bca0-1bca3",
    "1d173-1d17a e0001 e0020-e007f"]

/-- The character is shown by its number: it would not be seen, or would change the one in front
of it. -/
def isUnseen (c : Char) : Bool :=
  if ' ' ≤ c ∧ c ≤ '~' then false
  else signless.has c || extendsSign c || unassigned.has c

/-- The hexadecimal digits of a number in lower case. -/
def hexText (n : Nat) : List Char := Nat.toDigits 16 n

def showChar (c : Char) : List Char :=
  if c = '"' then ['\\', '"']
  else if c = '\\' then ['\\', '\\']
  else if c = '\n' then ['\\', 'n']
  else if c = '\r' then ['\\', 'r']
  else if c = '\t' then ['\\', 't']
  else if c.toNat = 0 then ['\\', '0']
  else if isUnseen c then ['\\', 'u', '{'] ++ hexText c.toNat ++ ['}']
  else [c]

def quoted (s : String) : String :=
  String.ofList ('"' :: (s.toList.flatMap showChar ++ ['"']))

end Loyalty.Text
