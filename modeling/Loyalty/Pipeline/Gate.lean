import Loyalty.Whole

/-!
# The rate-limit gate

All workers share one instant before which none of them may call the accrual service. Who
defers the gate overwrites that instant; the last one wins. `Control.await` is what a worker
does at the gate: it sleeps until the instant it read, reads again, and goes on when no
instant lies ahead. A stop signal ends a sleep at once, unless it is taken back at that instant.

Times are milliseconds since the start of the run.
-/

namespace Loyalty.Pipeline

/-- The first time that can't be told. Seconds are counted in 63 bits from a point that lies
at least one second before the start of the run. -/
def horizon : Nat := Text.maxSigned64 * 1000

/-- The instant before which no worker may call, if one was ever set. -/
structure Gate where
  opensAt : Option Nat := none
  deriving DecidableEq, Repr

namespace Gate

/-- Moves the instant to `wait` from now; `none` when that lies beyond the horizon. -/
def defer (_ : Gate) (now wait : Nat) : Option Gate :=
  if now + wait < horizon then some ⟨some (now + wait)⟩ else none

/-- The instant, if it lies ahead. -/
def deadline? (g : Gate) (now : Nat) : Option Nat :=
  g.opensAt.filter fun t => now < t

theorem deadline?_eq_some_iff {g : Gate} {now t : Nat} :
    g.deadline? now = some t ↔ g.opensAt = some t ∧ now < t := by
  simp [deadline?, Option.filter_eq_some_iff]

theorem deadline?_eq_none_iff {g : Gate} {now : Nat} :
    g.deadline? now = none ↔ ∀ t, g.opensAt = some t → t ≤ now := by
  cases h : g.opensAt <;> simp [deadline?, h, Option.filter]

end Gate

/-- The shutdown switch: its flag, and whether the one who could turn it is gone. -/
structure StopSignal where
  raised : Bool := false
  dropped : Bool := false
  deriving DecidableEq, Repr

/-- A task that watches the switch is told to stop. -/
def StopSignal.isStopped (s : StopSignal) : Bool := s.raised || s.dropped

/-- The switch after its owner turned it; without an owner it stays as it is. -/
def StopSignal.turn (s : StopSignal) (raised : Bool) : StopSignal :=
  if s.dropped then s else { s with raised }

/-- What others do to the gate and the switch. -/
inductive Change where
  | defer (wait : Nat)
  | signal (raised : Bool)
  | drop
  deriving DecidableEq, Repr

structure Control where
  gate : Gate := {}
  stop : StopSignal := {}
  deriving DecidableEq, Repr

namespace Control

/-- The control after a change at `now`; a deferral beyond the horizon changes nothing. -/
def change (c : Control) (now : Nat) : Change → Control
  | .defer wait => { c with gate := (c.gate.defer now wait).getD c.gate }
  | .signal raised => { c with stop := c.stop.turn raised }
  | .drop => { c with stop := { c.stop with dropped := true } }

/-- Changes to come and the times at which they come, earliest first. -/
abbrev Schedule := List (Nat × Change)

/-- How a sleep ended: at `wokenAt`, with what was left of the schedule. -/
structure Sleep where
  wokenAt : Nat
  stopped : Bool
  control : Control
  rest : Schedule

/-- Sleeps until `until_`, living through the changes on the way. Once all that is due at an instant
has come about, a stop signal wakes at once. -/
def sleep (until_ : Nat) : Nat → Control → Schedule → Sleep
  | now, c, [] =>
    if c.stop.isStopped then ⟨now, true, c, []⟩ else ⟨until_, false, c, []⟩
  | now, c, (t, ch) :: rest =>
    if t ≤ now then sleep until_ now (c.change now ch) rest
    else if c.stop.isStopped then ⟨now, true, c, (t, ch) :: rest⟩
    else if t < until_ then sleep until_ t (c.change t ch) rest
    else ⟨until_, false, c, (t, ch) :: rest⟩

structure Wait where
  endedAt : Nat
  proceeds : Bool
  control : Control
  rest : Schedule

theorem sleep_rest_length_le (u now : Nat) (c : Control) (s : Schedule) :
    (sleep u now c s).rest.length ≤ s.length := by
  induction s generalizing now c with
  | nil => simp only [sleep]; split <;> simp
  | cons e rest ih =>
    obtain ⟨t, ch⟩ := e
    simp only [sleep]
    split
    · exact Nat.le_succ_of_le (ih _ _)
    · split
      · simp
      · split
        · exact Nat.le_succ_of_le (ih _ _)
        · simp

theorem sleep_of_rest_length_eq {u now : Nat} {c : Control} {s : Schedule}
    (h : (sleep u now c s).rest.length = s.length) (hs : (sleep u now c s).stopped = false) :
    (sleep u now c s).control = c ∧ (sleep u now c s).wokenAt = u := by
  cases s with
  | nil =>
    by_cases hc : c.stop.isStopped = true
    · simp [sleep, hc] at hs
    · simp [sleep, hc]
  | cons e rest =>
    obtain ⟨t, ch⟩ := e
    by_cases hn : t ≤ now
    · have hle := sleep_rest_length_le u now (c.change now ch) rest
      rw [sleep, if_pos hn, List.length_cons] at h
      omega
    · by_cases hc : c.stop.isStopped = true
      · simp [sleep, hn, hc] at hs
      · by_cases ht : t < u
        · have hle := sleep_rest_length_le u t (c.change t ch) rest
          rw [sleep, if_neg hn, if_neg hc, if_pos ht, List.length_cons] at h
          omega
        · rw [sleep, if_neg hn, if_neg hc, if_neg ht]
          exact ⟨rfl, rfl⟩

/-- Waits out the gate from `now` on. Without an instant ahead the wait is over at once, and
the worker proceeds unless the flag is raised; who is told to stop already does not go to sleep. -/
def await (now : Nat) (c : Control) (s : Schedule) : Wait :=
  match _ahead : c.gate.deadline? now with
  | none => ⟨now, !c.stop.raised, c, s⟩
  | some d =>
    if c.stop.isStopped then ⟨now, false, c, s⟩
    else match _slept : sleep d now c s with
      | ⟨at_, true, c', rest⟩ => ⟨at_, false, c', rest⟩
      | ⟨at_, false, c', rest⟩ => await at_ c' rest
termination_by (s.length, c.gate.opensAt.getD 0 - now)
decreasing_by
  have hle := sleep_rest_length_le d now c s
  have heq := @sleep_of_rest_length_eq d now c s
  obtain ⟨ho, hlt⟩ := Gate.deadline?_eq_some_iff.1 _ahead
  simp only [_slept] at hle heq
  rcases Nat.lt_or_eq_of_le hle with hlen | hlen
  · exact Prod.Lex.left _ _ hlen
  · obtain ⟨hc, hw⟩ := heq hlen trivial
    rw [hlen, hc, hw, ho]
    exact Prod.Lex.right _ (show d - d < d - now by omega)

end Control

end Loyalty.Pipeline
