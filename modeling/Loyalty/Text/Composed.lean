import Loyalty.Text.CombiningClass
import Loyalty.Text.Composition

/-!
# The composed form of a text

Letters and marks can be written in several ways that say the same. The composed form is the one
in which every letter is joined with its marks as far as there are characters for that: letters
are taken apart, marks are put in order, and what makes a character is put together again.

Main statement: a text without such letters and marks is composed already.
-/

namespace Loyalty.Text

/-- How often a character can be taken apart. -/
def maxDepth : Nat := 4

/-- The letters and marks that a character is made of, taken apart up to so many times. -/
def takeApart : Nat → Char → List Char
  | 0, c => [c]
  | depth + 1, c =>
    match Composition.split? c.toNat with
    | some (a, b) => takeApart depth (Char.ofNat a) ++ [Char.ofNat b]
    | none => [c]

/-- Puts a mark behind those of its class and of the lower ones; each mark has its class with it. -/
def placeMark (mark : Nat × Char) : List (Nat × Char) → List (Nat × Char)
  | [] => [mark]
  | m :: ms => if m.1 ≤ mark.1 then m :: placeMark mark ms else mark :: m :: ms

/-- The text with its marks in order; `run` is the row of marks in front of it. -/
def orderMarks (run : List (Nat × Char)) : List Char → List Char
  | [] => run.map Prod.snd
  | c :: cs =>
    let k := combiningClass c
    if k = 0 then run.map Prod.snd ++ c :: orderMarks [] cs
    else orderMarks (placeMark (k, c) run) cs

/-- The marks and letters joined: `letter` is the last letter, `marks` stand behind it and did not
join, and the last of them has the class `last`. A mark does not reach across one of its class,
nor a letter across any. -/
def joinAll (letter : Option Char) (marks : List Char) (last : Nat) : List Char → List Char
  | [] => letter.toList ++ marks
  | c :: cs =>
    let k := combiningClass c
    let joined := if marks.isEmpty || last < k then
        letter.bind fun l => (Composition.join? l.toNat c.toNat).map Char.ofNat
      else none
    match joined with
    | some whole => joinAll (some whole) marks last cs
    | none =>
      if k = 0 then letter.toList ++ marks ++ joinAll (some c) [] 0 cs
      else joinAll letter (marks ++ [c]) k cs

def composed (cs : List Char) : List Char :=
  joinAll none [] 0 (orderMarks [] (cs.flatMap (takeApart maxDepth)))

/-! ### Text without letters of two -/

/-- The character comes before all that are made of two, and before all marks. -/
def IsSimple (c : Char) : Prop := c.toNat < Composition.firstWhole

theorem takeApart_of_isSimple {c : Char} (h : IsSimple c) (depth : Nat) :
    takeApart depth c = [c] := by
  cases depth with
  | zero => rfl
  | succ depth => simp [takeApart, Composition.split?_of_lt h]

theorem flatMap_takeApart_of_isSimple {cs : List Char} (h : ∀ c ∈ cs, IsSimple c) (depth : Nat) :
    cs.flatMap (takeApart depth) = cs := by
  induction cs with
  | nil => rfl
  | cons c cs ih =>
    rw [List.flatMap_cons, takeApart_of_isSimple (h c (by simp)),
      ih fun d hd => h d (by simp [hd])]
    rfl

theorem combiningClass_of_isSimple {c : Char} (h : IsSimple c) : combiningClass c = 0 := by
  apply combiningClass_of_lt
  unfold IsSimple Composition.firstWhole at h
  unfold firstMark
  omega

theorem orderMarks_of_isSimple {cs : List Char} (h : ∀ c ∈ cs, IsSimple c) :
    orderMarks [] cs = cs := by
  induction cs with
  | nil => rfl
  | cons c cs ih =>
    have hk := combiningClass_of_isSimple (h c (by simp))
    simp [orderMarks, hk, ih fun d hd => h d (by simp [hd])]

theorem joinAll_of_isSimple {cs : List Char} (h : ∀ c ∈ cs, IsSimple c) (letter : Option Char) :
    joinAll letter [] 0 cs = letter.toList ++ cs := by
  induction cs generalizing letter with
  | nil => simp [joinAll]
  | cons c cs ih =>
    have hc := h c (by simp)
    have hk := combiningClass_of_isSimple hc
    have hj (a : Nat) : Composition.join? a c.toNat = none := by
      apply Composition.join?_of_lt
      unfold IsSimple Composition.firstWhole at hc
      unfold Composition.firstSecond
      omega
    simp [joinAll, hk, hj, ih fun d hd => h d (by simp [hd])]

/-- A text of simple characters is composed already. -/
theorem composed_of_isSimple {cs : List Char} (h : ∀ c ∈ cs, IsSimple c) : composed cs = cs := by
  simp [composed, flatMap_takeApart_of_isSimple h, orderMarks_of_isSimple h, joinAll_of_isSimple h]

end Loyalty.Text
