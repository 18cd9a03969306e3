import Loyalty.Text.Basic

/-!
# Identifiers of 128 bits

An identifier is written as 32 hexadecimal digits, alone or in five groups divided by hyphens;
the grouped form may stand in braces or behind `urn:uuid:`. It is always told in groups, in
lower case. A text that is none of these is refused with the first thing that is wrong with it.
-/

namespace Loyalty

structure Uuid where
  bits : BitVec 128
  deriving DecidableEq, Repr

namespace Uuid

open Loyalty.Text

def nil : Uuid := ⟨0⟩

/-- Why a text is no identifier; positions count bytes from zero. -/
inductive ParseError where
  | character (found : Char) (at_ : Nat)
  | length (found : Nat)
  | groupCount (found : Nat)
  | groupLength (group expected found : Nat)
  deriving DecidableEq, Repr

def ParseError.message : ParseError → String
  | .character c i => s!"invalid character: found `" ++ String.singleton c ++ s!"` at {i}"
  | .length n => s!"invalid length: found {n}"
  | .groupCount n => s!"invalid group count: expected 5, found {n}"
  | .groupLength g e n => s!"invalid group length in group {g}: expected {e}, found {n}"

/-- How many digits each group has. -/
def groupLengths : List Nat := [8, 4, 4, 4, 12]

/-- The number that hexadecimal digits stand for. -/
def hexNumber? (acc : Nat) : List Char → Option Nat
  | [] => some acc
  | c :: cs => (hexDigit? c).bind fun d => hexNumber? (acc * 16 + d) cs

/-- The name space of identifiers, which may be written in either case. -/
def nameSpace : List Char := "urn:uuid:".toList

/-- The text within braces or behind its name space, and how many bytes stand in front of it;
whether it stands alone. -/
def unwrap (cs : List Char) : List Char × Nat × Bool :=
  if (cs.take 9).map Char.toLower = nameSpace then (cs.drop 9, 9, false)
  else match cs with
    | '{' :: rest =>
      if rest.getLast? = some '}' then (rest.dropLast, 1, false) else (cs, 0, true)
    | _ => (cs, 0, true)

/-- The identifier that a well-formed text names. -/
def ofChars? (cs : List Char) : Option Uuid :=
  let (inner, _, alone) := unwrap cs
  let gs := parts '-' inner
  let lengths := gs.map List.length
  if lengths = groupLengths ∨ alone ∧ lengths = [32] then
    (hexNumber? 0 gs.flatten).map fun n => ⟨BitVec.ofNat 128 n⟩
  else none

/-- The first character that has no place in an identifier, and the bytes in front of it. -/
def strangeCharacter? (at_ : Nat) : List Char → Option (Char × Nat)
  | [] => none
  | c :: cs =>
    if c = '-' ∨ (hexDigit? c).isSome then strangeCharacter? (at_ + c.utf8Size) cs
    else some (c, at_)

/-- The first of the groups but the last that has a wrong length. -/
def wrongGroup? (group : Nat) : List Nat → List Nat → Option ParseError
  | expected :: es, found :: fs =>
    if es.isEmpty then none
    else if expected = found then wrongGroup? (group + 1) es fs
    else some (.groupLength group expected found)
  | _, _ => none

/-- The most bytes that an identifier takes. -/
def maxLength : Nat := 45

/-- How many bytes an identifier takes in groups, and in digits alone. -/
def groupedLength : Nat := 36
@[inherit_doc groupedLength] def digitsLength : Nat := 32

/-- What is wrong with the groups of a text of so many bytes, in front of which stand `offset`
others; a text that is `plain` may do without groups. -/
def diagnoseGroups (bytes offset : Nat) (plain : Bool) (cs : List Char) : ParseError :=
  match strangeCharacter? offset cs with
  | some (c, i) => .character c i
  | none =>
    let lengths := (parts '-' cs).map List.length
    if plain ∧ lengths.length = 1 then .length bytes
    else if lengths.length ≠ 5 then .groupCount lengths.length
    else (wrongGroup? 0 groupLengths lengths).getD (.groupLength 4 12 (bytes - 24))

/-- What is wrong with a text that names no identifier. A text, or what it wraps, that has just
the length of the grouped form is looked at by itself; of any other, what wraps it is counted. -/
def diagnose (cs : List Char) : ParseError :=
  let bytes := byteLength cs
  let (inner, offset, alone) := unwrap cs
  if maxLength < bytes then .length bytes
  else if bytes = digitsLength then diagnoseGroups bytes 0 true cs
  else if bytes = groupedLength then diagnoseGroups bytes 0 false cs
  else if byteLength inner = groupedLength then diagnoseGroups groupedLength 0 false inner
  else diagnoseGroups bytes offset alone inner

def parse (s : String) : Except ParseError Uuid :=
  match ofChars? s.toList with
  | some u => .ok u
  | none => .error (diagnose s.toList)

/-- Digits with hyphens between the groups. -/
def hyphenate : List Nat → List Char → List Char
  | [], _ => []
  | [n], ds => ds.take n
  | n :: ns, ds => ds.take n ++ '-' :: hyphenate ns (ds.drop n)

def toText (u : Uuid) : String :=
  String.ofList (hyphenate groupLengths (lastHexDigits u.bits.toNat 32))

end Uuid

end Loyalty
