/-!
# Domain labels beyond ASCII

A label that starts with `xn--` holds characters beyond ASCII in letters and digits: the plain
characters first, then for each of the others how far it lies, in code and in place, from the one
before. Here only the reading side is needed.
-/

namespace Loyalty.Url.Punycode

/-- The value of a digit of base 36. -/
def digit? (c : Char) : Option Nat :=
  if 'a' ≤ c ∧ c ≤ 'z' then some (c.toNat - 'a'.toNat)
  else if '0' ≤ c ∧ c ≤ '9' then some (c.toNat - '0'.toNat + 26)
  else none

/-- The weight beyond which the digit at place `k` is not the last one. -/
def threshold (k bias : Nat) : Nat :=
  if k ≤ bias then 1 else if bias + 26 ≤ k then 26 else k - bias

/-- Divides a distance until it is small, and counts how often. -/
def settle (delta k : Nat) : Nat × Nat :=
  if _big : 455 < delta then settle (delta / 35) (k + 36) else (delta, k)
termination_by delta
decreasing_by omega

/-- The bias after a distance. -/
def adapt (delta points : Nat) (first : Bool) : Nat :=
  let d := if first then delta / 700 else delta / 2
  let (rest, k) := settle (d + d / points) 0
  k + 36 * rest / (rest + 38)

/-- Distances and weights stay below this number. -/
def limit : Nat := 4294967296

/-- A distance from its digits: its value, and the digits behind it. -/
def distance (bias k weight value : Nat) : List Char → Option (Nat × List Char)
  | [] => none
  | c :: cs => do
    let d ← digit? c
    let value := value + d * weight
    let t := threshold k bias
    if limit ≤ value ∨ limit ≤ weight then none
    else if d < t then some (value, cs)
    else distance bias (k + 36) (weight * (36 - t)) value cs

/-- A distance takes at least one digit. -/
theorem length_of_distance {bias k weight value : Nat} {cs rest : List Char} {n : Nat}
    (h : distance bias k weight value cs = some (n, rest)) : rest.length < cs.length := by
  induction cs generalizing k weight value with
  | nil => simp [distance] at h
  | cons c cs ih =>
    rw [distance] at h
    obtain ⟨d, -, h⟩ := Option.bind_eq_some_iff.1 h
    simp only at h
    split at h
    · cases h
    · split at h
      · cases h
        simp
      · have := ih h
        simp only [List.length_cons]
        omega

/-- Puts in the characters beyond ASCII one after the other. -/
def insertAll (code start bias : Nat) (cs out : List Char) : Option (List Char) :=
  match cs with
  | [] => some out
  | c :: cs =>
    match _h : distance bias 36 1 0 (c :: cs) with
    | none => none
    | some (delta, rest) =>
      let points := out.length + 1
      let total := start + delta
      let code := code + total / points
      let place := total % points
      if code.isValidChar then
        insertAll code (place + 1) (adapt delta points (start = 0)) rest
          (out.take place ++ Char.ofNat code :: out.drop place)
      else none
termination_by cs.length
decreasing_by exact length_of_distance ‹_›

/-- The plain characters of a label, up to its last hyphen, and the digits behind it. Without
plain characters there is no hyphen. -/
def splitPlain (label : List Char) : List Char × List Char :=
  match label.reverse.dropWhile (· != '-') with
  | [] | [_] => ([], label)
  | _ :: before => (before.reverse, label.drop (before.length + 1))

/-- The characters of a label from behind its `xn--` on. -/
def decode? (label : List Char) : Option (List Char) :=
  let (plain, rest) := splitPlain label
  insertAll 0x80 0 72 rest plain

end Loyalty.Url.Punycode
