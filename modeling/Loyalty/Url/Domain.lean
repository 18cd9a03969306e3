import Loyalty.Text.Composed
import Loyalty.Text.Direction
import Loyalty.Text.Joining
import Loyalty.Url.DomainLetters
import Loyalty.Url.Punycode

/-!
# Domains

A domain is a row of labels with points between them. It is brought to its plain form, character
by character, and composed; then each label must be one: without characters that have a meaning in
an address, not starting with a mark, and with joiners only where letters join. A label behind
`xn--` stands for one beyond ASCII, which must be plain and composed already. As soon as one letter
is written from right to left, every label must keep to one direction.
-/

namespace Loyalty.Url.Domain

open Loyalty.Text

/-- A domain must not hold the character, which has a meaning in an address. -/
def isForbidden (c : Char) : Bool :=
  c.toNat ≤ 0x20 || c.toNat = 0x7F || "#/:<>?@[\\]^|%".toList.contains c

/-! ### Joiners -/

/-- The sign that keeps letters apart, and the one that joins them. -/
def nonJoiner : Char := '\u200c'
@[inherit_doc nonJoiner] def joiner : Char := '\u200d'

/-- The first character that is not transparent fits. -/
def meets (fits : Char → Bool) (cs : List Char) : Bool :=
  match cs.dropWhile isTransparent with
  | c :: _ => fits c
  | [] => false

/-- A joiner stands where it makes a difference: behind a mark that makes two letters one sign, or
between letters that would join. -/
def joinerFits (c : Char) (before after : List Char) : Bool :=
  match before with
  | [] => false
  | b :: _ =>
    combiningClass b = joinerClass ||
      (c = nonJoiner && meets joinsNext before && meets joinsPrevious after)

/-- All joiners fit; `before` holds what stands in front, the nearest first. -/
def joinersFit (before : List Char) : List Char → Bool
  | [] => true
  | c :: cs =>
    (if c = nonJoiner ∨ c = joiner then joinerFits c before cs else true) &&
      joinersFit (c :: before) cs

/-! ### Labels -/

/-- The characters may make a label. -/
def isPlainLabel (label : List Char) : Bool :=
  (match label with
    | [] => true
    | c :: _ => !isMark c) &&
    !label.any isForbidden && joinersFit [] label

/-- The characters are their own plain and composed form. -/
def isSettled (label : List Char) : Bool :=
  (label.all fun c => plainForm? c = some [c]) && composed label = label

/-- The most characters of a label that is written out, and of one behind `xn--`. -/
def maxPlain : Nat := 1000
@[inherit_doc maxPlain] def maxCoded : Nat := 2000

def isAscii (c : Char) : Bool := c.toNat < 0x80

/-- The label that is meant, if the characters are one. -/
def readLabel? (label : List Char) : Option (List Char) :=
  match label with
  | 'x' :: 'n' :: '-' :: '-' :: coded =>
    if !coded.all isAscii || maxCoded < coded.length then none
    else (Punycode.decode? coded).filter fun meant =>
      !meant.all isAscii && isSettled meant && isPlainLabel meant
  | _ =>
    if !label.all isAscii && maxPlain < label.length then none
    else if isPlainLabel label then some label
    else none

/-! ### Directions -/

/-- A letter or digit of writing from right to left. -/
def isRightward (d : Direction) : Bool := d = .right || d = .arabicDigit

/-- What a label may hold behind a first letter of the direction, and what it may end in. -/
def mayFollow (first d : Direction) : Bool :=
  if first = .left then !isRightward d else d ≠ .left
@[inherit_doc mayFollow] def mayEnd (first d : Direction) : Bool :=
  if first = .left then d = .left || d = .europeanDigit
  else d ≠ .left && d ≠ .neutral && d ≠ .mark

/-- A label keeps to the direction of its first letter: it ends in a letter or digit that goes with
it, marks aside, and has digits of one kind. -/
def keepsDirection (label : List Direction) : Bool :=
  match label with
  | [] => true
  | first :: rest =>
    (first = .left || first = .right) &&
      match rest.reverse.dropWhile (· == .mark) with
      | [] => true
      | last :: middle =>
        mayEnd first last && middle.all (mayFollow first) &&
          (first = .left || !(rest.contains .europeanDigit && rest.contains .arabicDigit))

/-- The labels go together: where one holds writing from right to left, all keep to a direction. -/
def agree (labels : List (List Char)) : Bool :=
  let directions := labels.map (·.map Direction.of)
  !directions.any (·.any isRightward) || directions.all keepsDirection

/-! ### The whole -/

/-- The plain form of a domain, if the text is one. -/
def plain? (cs : List Char) : Option (List Char) := do
  let name := composed (← cs.mapM plainForm?).flatten
  let labels ← (parts '.' name).mapM readLabel?
  if agree labels then some name else none

end Loyalty.Url.Domain
