import Loyalty.Pipeline.Machine

/-!
# Running a pipeline

The tasks of a machine run until none is runnable; only then does the clock move, to the next
time at which a task is to be woken. What comes from outside (`Action`) happens at a time when
all tasks are at rest, and the tasks come to rest again before anything else happens.
-/

namespace Loyalty.Pipeline

namespace Machine

/-- More moves than the tasks can make before they are at rest. An order gives a worker less
than ten of them, and wakes fewer than ten tasks on its way. -/
def patience (m : Machine) : Nat :=
  let pushed := match m.producer with
    | .pushing batch _ => batch.length
    | _ => 0
  let scripted := match m.site.repository.listings with
    | some answers => answers.foldl (fun total a => match a with
        | .ok batch => total + batch.length
        | .error _ => total) 0
    | none => 0
  let orders := m.queue.items.length + pushed + scripted + m.site.repository.orders.length
  100 * (m.workers.length + m.ready.length + 2) * (orders + 2)

def moves : Nat → Machine → Machine
  | 0, m => m
  | n + 1, m =>
    match m.step with
    | none => m
    | some m => moves n m

/-- Lets the tasks run until they are at rest. -/
def settle (m : Machine) : Machine := moves m.patience m

@[simp] theorem now_moves (n : Nat) (m : Machine) : (moves n m).now = m.now := by
  induction n generalizing m with
  | zero => rfl
  | succ n ih =>
    unfold moves
    split
    · rfl
    · next h => rw [ih, now_of_step h]

@[simp] theorem now_settle (m : Machine) : m.settle.now = m.now := now_moves _ _

/-- The earliest time at which a task is to be woken. -/
def nextTimer? (m : Machine) : Option Nat :=
  (m.timers.map (·.1)).min?

/-- Moves the clock and wakes the tasks whose time has come. -/
def jump (m : Machine) (time : Nat) : Machine :=
  let due := m.timers.filter (·.1 ≤ time)
  let rest := m.timers.filter fun t => !(t.1 ≤ time : Bool)
  (due.map (·.2)).foldl wake { m with now := time, timers := rest }

@[simp] theorem now_jump (m : Machine) (time : Nat) : (m.jump time).now = time := by
  have h : ∀ (ts : List Task) (m : Machine), (ts.foldl wake m).now = m.now := by
    intro ts
    induction ts with
    | nil => intro m; rfl
    | cons t ts ih => intro m; simp [ih]
  simp [jump, h]

/-- Lets time pass until the given one, and the tasks run at all times on the way. -/
def passUntil (time : Nat) (m : Machine) : Machine :=
  match m.nextTimer? with
  | none => { m with now := max m.now time }
  | some t =>
    if _ahead : m.now < t ∧ t ≤ time then passUntil time (m.jump t).settle
    else { m with now := max m.now time }
termination_by time - m.now
decreasing_by
  rw [now_settle, now_jump]
  omega

inductive Action where
  | idle
  /-- Turns the shutdown switch on. -/
  | shutdown
  /-- The one who could turn the switch is gone. -/
  | dropSwitch
  /-- Puts an order on the queue, if there is room. -/
  | send (o : Ticket)
  /-- Nobody outside feeds the queue any more. -/
  | closeFeed
  /-- Takes the next order from the queue. -/
  | receive
  /-- Takes all orders from the queue. -/
  | drain
  /-- Nobody outside reads the queue any more. -/
  | closeReader
  /-- Registers an order in the store. -/
  | register (o : StoredOrder)
  /-- Looks at the orders in the store. -/
  | inspect
  deriving DecidableEq

inductive Effect where
  | done
  | sent
  | full
  | closed
  | received (o : Option Ticket)
  | drained (os : List Ticket)
  | orders (os : List StoredOrder)
  deriving DecidableEq

/-- Wakes all tasks, the producer first. -/
def wakeAll (m : Machine) : Machine :=
  (List.range m.workers.length).foldl (fun m i => m.wake (.worker i)) (m.wake .producer)

def act? (m : Machine) : Action → Effect × Machine
  | .idle => (.done, m)
  | .shutdown =>
    (.done, ({ m with control := m.control.change m.now (.signal true) }).wakeAll)
  | .dropSwitch => (.done, ({ m with control := m.control.change m.now .drop }).wakeAll)
  | .send o =>
    if !m.queue.read then (.closed, m)
    else if m.queue.hasRoom then
      (.sent, ({ m with queue := { m.queue with items := m.queue.items ++ [o] } }).wakeReceiver)
    else (.full, m)
  | .closeFeed => (.done, ({ m with queue := { m.queue with fed := false } }).wakeReceiver)
  | .receive =>
    match m.queue.items with
    | [] => (.received none, m)
    | o :: rest =>
      (.received (some o), ({ m with queue := { m.queue with items := rest } }).wakeProducer)
  | .drain =>
    (.drained m.queue.items, ({ m with queue := { m.queue with items := [] } }).wakeProducer)
  | .closeReader => (.done, ({ m with queue := { m.queue with read := false } }).wakeProducer)
  | .register o =>
    (.done, { m with site := { m.site with repository :=
      { m.site.repository with orders := m.site.repository.orders ++ [o] } } })
  | .inspect => (.orders m.site.repository.orders, m)

/-- An action at a time, or now if that is past, with the tasks at rest before and after. -/
def perform (m : Machine) (time : Nat) (a : Action) : Effect × Machine :=
  let (effect, after) := ((m.settle).passUntil time).act? a
  (effect, after.settle)

/-- The effects of actions in turn, each with its time, and the machine at the end. -/
def run (m : Machine) : List (Nat × Action) → List (Nat × Effect) × Machine
  | [] => ([], m)
  | (time, a) :: rest =>
    let (effect, after) := m.perform time a
    let (effects, last) := after.run rest
    ((after.now, effect) :: effects, last)

/-! ### Machines at the start -/

inductive SetupError where
  | noRoom
  deriving DecidableEq, Repr

def SetupError.message : SetupError → String
  | .noRoom => "mpsc bounded channel requires buffer > 0"

/-- A machine needs room for one order at least in its queue. -/
def checkRoom (m : Machine) : Except SetupError Machine :=
  if m.queue.capacity = 0 then .error .noRoom else .ok m

/-- A producer alone; its queue is read from outside. -/
def producerOnly (polling : Polling) (capacity : Nat) (site : Site) : Machine :=
  { queue := { capacity }, polling, site, producer := .starting, ready := [.producer] }

def idleWorkers (n : Nat) : List WorkerPhase := List.replicate n (.atGate none)

def workerTasks (n : Nat) : List Task := (List.range n).map Task.worker

/-- Workers alone; their queue is fed from outside. -/
def pool (workers capacity : Nat) (site : Site) : Machine :=
  noteEnd {
    queue := { capacity, read := 0 < workers }
    polling := ⟨0, 0⟩
    site
    workers := idleWorkers workers
    ready := workerTasks workers }

/-- Producer and workers, with a place in the queue for each worker. -/
def pipeline (polling : Polling) (workers : Nat) (site : Site) : Machine :=
  { queue := { capacity := max workers 1, read := 0 < workers }
    polling
    site
    workers := idleWorkers workers
    producer := .starting
    ready := .producer :: workerTasks workers }

end Machine

end Loyalty.Pipeline
