import Loyalty.Pipeline.Run
import Loyalty.Proofs.Pipeline.Move

/-!
# Courses of a machine

A run lets the runnable tasks move in the order in which they became runnable. A course is more
than that: any task may move at any point, the clock may move on at any point, and what comes from
outside may come at any point. So what holds on every course holds however the tasks interleave.

Main statement: the tasks come to rest by a course (`settle_eq_course`).
-/

namespace Loyalty.Pipeline

/-- What can happen to a machine. -/
inductive Occurrence where
  | move (t : Task)
  /-- Time passes, and nobody is woken. -/
  | pass (time : Nat)
  /-- Time passes up to a time at which tasks are woken. -/
  | ring (time : Nat)
  | act (a : Machine.Action)

namespace Machine

def moveTask (m : Machine) : Task → Machine
  | .producer => m.moveProducer
  | .worker i => m.moveWorker i

/-- The machine after an occurrence. -/
def after (m : Machine) : Occurrence → Machine
  | .move t => ({ m with ready := m.ready.erase t }).moveTask t
  | .pass time => { m with now := max m.now time }
  | .ring time => if m.now ≤ time then m.jump time else m
  | .act a => (m.act? a).2

/-- The machine after occurrences, one after the other. -/
def course (m : Machine) (os : List Occurrence) : Machine := os.foldl after m

def turns (t : Task) (n : Nat) : List Occurrence := List.replicate n (.move t)

theorem course_append (m : Machine) (os rest : List Occurrence) :
    m.course (os ++ rest) = (m.course os).course rest :=
  List.foldl_append

@[simp] theorem course_append_singleton (m : Machine) (os : List Occurrence) (o : Occurrence) :
    m.course (os ++ [o]) = (m.course os).after o := by
  rw [course_append]
  rfl

/-- What an observer notes of a course, the latest first. -/
def noted {α : Type} (f : Machine → Occurrence → Option α) (m : Machine) :
    List Occurrence → List α
  | [] => []
  | o :: os => noted f (m.after o) os ++ (f m o).toList

theorem noted_append {α : Type} (f : Machine → Occurrence → Option α) (m : Machine)
    (os rest : List Occurrence) :
    noted f m (os ++ rest) = noted f (m.course os) rest ++ noted f m os := by
  induction os generalizing m with
  | nil => exact (List.append_nil _).symm
  | cons o os ih =>
    rw [List.cons_append, noted, ih, noted, List.append_assoc]
    rfl

theorem noted_append_singleton {α : Type} (f : Machine → Occurrence → Option α) (m : Machine)
    (os : List Occurrence) (o : Occurrence) :
    noted f m (os ++ [o]) = (f (m.course os) o).toList ++ noted f m os :=
  noted_append f m os [o]

/-- Who notes less notes a part of it. -/
theorem noted_subset {α : Type} {f g : Machine → Occurrence → Option α}
    (less : ∀ x o a, f x o = some a → g x o = some a) (m : Machine) (os : List Occurrence) :
    noted f m os ⊆ noted g m os := by
  induction os generalizing m with
  | nil => exact List.Subset.refl _
  | cons o os ih =>
    intro a among
    rw [noted, List.mem_append, Option.mem_toList] at among ⊢
    obtain later | here := among
    · exact .inl (ih _ later)
    · exact .inr (less m o a here)

/-! ### Tasks that come to rest take a course -/

theorem step_eq_after {m m' : Machine} (h : m.step = some m') : ∃ t, m' = m.after (.move t) := by
  unfold step at h
  split at h
  next => cases h
  next ready runnable =>
    cases h
    exact ⟨.producer, by simp [after, runnable, moveTask]⟩
  next i ready runnable =>
    cases h
    exact ⟨.worker i, by simp [after, runnable, moveTask]⟩

theorem moves_eq_course (n : Nat) (m : Machine) :
    ∃ ts : List Task, moves n m = m.course (ts.map .move) := by
  induction n generalizing m with
  | zero => exact ⟨[], rfl⟩
  | succ n ih =>
    unfold moves
    split
    next => exact ⟨[], rfl⟩
    next m' moved =>
      obtain ⟨t, rfl⟩ := step_eq_after moved
      obtain ⟨ts, rest⟩ := ih (m.after (.move t))
      exact ⟨t :: ts, rest⟩

theorem settle_eq_course (m : Machine) : ∃ ts : List Task, m.settle = m.course (ts.map .move) :=
  moves_eq_course _ m

end Machine

end Loyalty.Pipeline
