import Loyalty.Pipeline.Site

/-!
# The tasks of a pipeline

A producer lists the orders that still have to be resolved, once per interval, and puts them on
a queue of limited capacity. Workers take them from it, one worker at a time having the turn,
and wait out the gate before they ask for an order and again before they call the service.

All tasks share one thread. A task runs until it has to wait, and the runnable tasks run in the
order in which they became runnable. `Machine.step` is one move of the first of them: from one
point at which it could wait to the next. Time passes only when no task is runnable, which is
the business of `Loyalty.Pipeline.Run`.

A task that waits is woken by its timer, by the stop signal, by its turn, or by the queue. Being
woken says nothing: the task looks again at what it waits for.
-/

namespace Loyalty.Pipeline

inductive Task where
  | producer
  | worker (id : Nat)
  deriving DecidableEq, Repr

inductive WorkerPhase where
  /-- About to look at the gate, with the order it holds if it has one already. -/
  | atGate (held : Option Ticket)
  /-- Waiting for an instant that it has read from the gate. -/
  | napping (held : Option Ticket) (until_ : Nat)
  /-- About to ask for its turn at the queue. -/
  | asking
  | inLine
  /-- Its turn: waiting for an order. -/
  | receiving
  /-- The service has been asked and answers at the given time. -/
  | calling (held : Ticket) (reply : Reply) (until_ : Nat)
  /-- The store has been asked and answers at the given time. -/
  | storing (request : Request) (until_ : Nat)
  | ended
  /-- Stopped by a wait that lies beyond the horizon. -/
  | lost

def WorkerPhase.isOver : WorkerPhase → Bool
  | .ended | .lost => true
  | _ => false

/-- Where the producer is. `scheduled` and `next` are times of ticks. -/
inductive ProducerPhase where
  | starting
  | ticking (scheduled : Nat)
  /-- The store has been asked for a listing and answers at the given time. -/
  | listing (next until_ : Nat)
  /-- Putting what is left of a listing on the queue. -/
  | pushing (batch : List Ticket) (next : Nat)
  | ended
  /-- Stopped at the start by an interval of no length. -/
  | lost
  deriving DecidableEq

def ProducerPhase.isOver : ProducerPhase → Bool
  | .ended | .lost => true
  | _ => false

structure Queue where
  capacity : Nat
  items : List Ticket := []
  /-- Somebody may still put an order on it. -/
  fed : Bool := true
  /-- Somebody may still take an order from it. -/
  read : Bool := true

def Queue.hasRoom (q : Queue) : Bool := q.items.length < q.capacity

/-- The turn at the queue: who has it, and who waits for it. -/
structure Turn where
  holder : Option Nat := none
  line : List Nat := []
  deriving DecidableEq, Repr

structure Polling where
  interval : Nat
  batch : Int

namespace Polling

/-- How late a tick may come and still count as being on time. -/
def tolerance : Nat := 5

/-- The time of the tick after one that was due at `scheduled` and came at `now`. A tick that
came too late moves the later ones by its delay. -/
def next (p : Polling) (scheduled now : Nat) : Nat :=
  if scheduled + tolerance < now then now + p.interval else scheduled + p.interval

theorem next_of_le {p : Polling} {scheduled now : Nat} (h : now ≤ scheduled + tolerance) :
    p.next scheduled now = scheduled + p.interval := by
  simp [next, Nat.not_lt.2 h]

theorem next_of_lt {p : Polling} {scheduled now : Nat} (h : scheduled + tolerance < now) :
    p.next scheduled now = now + p.interval := by
  simp [next, h]

end Polling

/-- The state of all tasks and of what they share. -/
structure Machine where
  now : Nat := 0
  control : Control := {}
  queue : Queue
  turn : Turn := {}
  workers : List WorkerPhase := []
  producer : ProducerPhase := .ended
  polling : Polling
  site : Site
  /-- The runnable tasks, the first to run in front. -/
  ready : List Task := []
  /-- When a waiting task is to be woken, in the order in which the tasks asked for it. -/
  timers : List (Nat × Task) := []
  /-- When the last task was over. -/
  endedAt : Option Nat := none

namespace Machine

/-! ### Waking and waiting -/

def wake (m : Machine) (t : Task) : Machine :=
  if t ∈ m.ready then m else { m with ready := m.ready ++ [t] }

/-- The task that has just run goes on. -/
def again (m : Machine) (t : Task) : Machine :=
  { m with ready := t :: m.ready }

/-- Asks for a task to be woken at a time; its earlier wish lapses. -/
def wakeAt (m : Machine) (time : Nat) (t : Task) : Machine :=
  { m with timers := m.timers.filter (·.2 ≠ t) ++ [(time, t)] }

/-- Drops the wish of a task to be woken. -/
def forget (m : Machine) (t : Task) : Machine :=
  { m with timers := m.timers.filter (·.2 ≠ t) }

def isOver (m : Machine) : Bool :=
  m.producer.isOver && m.workers.all WorkerPhase.isOver

def noteEnd (m : Machine) : Machine :=
  if m.endedAt.isNone && m.isOver then { m with endedAt := some m.now } else m

/-- The producer looks again at the queue if it waits for room. -/
def wakeProducer (m : Machine) : Machine :=
  match m.producer with
  | .pushing _ _ => m.wake .producer
  | _ => m

/-- The worker whose turn it is looks again at the queue if it waits there. -/
def wakeReceiver (m : Machine) : Machine :=
  match m.turn.holder with
  | some i => m.wake (.worker i)
  | none => m

/-! ### The turn at the queue -/

/-- The turn goes to the next in line. -/
def passTurn (m : Machine) : Machine :=
  match m.turn.line with
  | [] => { m with turn := {} }
  | i :: line => ({ m with turn := ⟨some i, line⟩ }).wake (.worker i)

/-- A worker that stops gives up its turn, or its place in line. -/
def giveUpTurn (m : Machine) (i : Nat) : Machine :=
  if m.turn.holder = some i then m.passTurn
  else { m with turn := { m.turn with line := m.turn.line.filter (· ≠ i) } }

/-! ### A worker -/

def setWorker (m : Machine) (i : Nat) (p : WorkerPhase) : Machine :=
  { m with workers := m.workers.set i p }

/-- The worker goes on in the given phase. -/
def proceed (m : Machine) (i : Nat) (p : WorkerPhase) : Machine :=
  ((m.setWorker i p).forget (.worker i)).again (.worker i)

/-- The worker waits in the given phase until the time, or goes on if that has come. -/
def waitUntil (m : Machine) (i : Nat) (time : Nat) (p : WorkerPhase) : Machine :=
  if time ≤ m.now then m.proceed i p
  else (m.setWorker i p).wakeAt time (.worker i)

/-- The worker is over. With the last one the queue has no reader left. -/
def leave (m : Machine) (i : Nat) (p : WorkerPhase) : Machine :=
  let left := ((m.giveUpTurn i).forget (.worker i)).setWorker i p
  let left :=
    if left.workers.all WorkerPhase.isOver then
      ({ left with queue := { left.queue with read := false } }).wakeProducer
    else left
  left.noteEnd

def call (m : Machine) (i : Nat) (held : Ticket) : Machine :=
  let (reply, site) := m.site.ask m.now held.number
  ({ m with site }).waitUntil i (m.now + reply.delay) (.calling held reply (m.now + reply.delay))

/-- The worker acts on the answer of the service. -/
def act (m : Machine) (i : Nat) (held : Ticket) (reply : Reply) : Machine :=
  match followUp held reply.answer with
  | .leave _ => m.proceed i (.atGate none)
  | .defer wait =>
    match m.control.gate.defer m.now wait with
    | none => m.leave i .lost
    | some gate =>
      ({ m with control := { m.control with gate } }).proceed i (.atGate none)
  | .request r =>
    let until_ := m.now + m.site.repository.delay
    ({ m with site := m.site.note m.now (.store r) }).waitUntil i until_ (.storing r until_)

/-- The worker takes the first order of the queue and lets the next in line have the turn. -/
def take (m : Machine) (i : Nat) (o : Ticket) (rest : List Ticket) : Machine :=
  ((({ m with queue := { m.queue with items := rest } }).wakeProducer).passTurn).proceed i
    (.atGate (some o))

def moveWorker (m : Machine) (i : Nat) : Machine :=
  match m.workers[i]? with
  | none | some .ended | some .lost => m
  | some (.atGate held) =>
    match m.control.gate.deadline? m.now with
    | some until_ =>
      if m.control.stop.isStopped then m.leave i .ended else m.waitUntil i until_ (.napping held until_)
    | none =>
      if m.control.stop.raised then m.leave i .ended
      else match held with
        | none => m.proceed i .asking
        | some o => m.call i o
  | some (.napping held until_) =>
    if m.control.stop.isStopped then m.leave i .ended
    else if until_ ≤ m.now then m.proceed i (.atGate held)
    else m
  | some .asking =>
    if m.control.stop.isStopped then m.leave i .ended
    else if m.turn.holder.isNone then
      ({ m with turn := { m.turn with holder := some i } }).proceed i .receiving
    else
      ({ m with turn := { m.turn with line := m.turn.line ++ [i] } }).setWorker i .inLine
  | some .inLine =>
    if m.control.stop.isStopped then m.leave i .ended
    else if m.turn.holder = some i then m.proceed i .receiving
    else m
  | some .receiving =>
    if m.control.stop.isStopped then m.leave i .ended
    else match m.queue.items with
      | o :: rest => m.take i o rest
      | [] => if m.queue.fed then m else m.leave i .ended
  | some (.calling held reply until_) =>
    if until_ ≤ m.now then m.act i held reply else m
  | some (.storing r until_) =>
    if until_ ≤ m.now then
      ({ m with site := (m.site.answer r).2 }).proceed i (.atGate none)
    else m

/-! ### The producer -/

def produce (m : Machine) (p : ProducerPhase) : Machine :=
  (({ m with producer := p }).forget .producer).again .producer

/-- The producer waits in the given phase until the time, or goes on if that has come. -/
def produceAt (m : Machine) (time : Nat) (p : ProducerPhase) : Machine :=
  if time ≤ m.now then m.produce p
  else ({ m with producer := p }).wakeAt time .producer

/-- The producer is over, and nobody feeds the queue any more. -/
def leaveProducer (m : Machine) (p : ProducerPhase) : Machine :=
  let left := ({ m with producer := p, queue := { m.queue with fed := false } }).forget .producer
  left.wakeReceiver.noteEnd

def moveProducer (m : Machine) : Machine :=
  match m.producer with
  | .ended | .lost => m
  | .starting =>
    if m.polling.interval = 0 then m.leaveProducer .lost
    else m.produce (.ticking m.now)
  | .ticking scheduled =>
    if m.control.stop.isStopped then m.leaveProducer .ended
    else if scheduled ≤ m.now then
      let until_ := m.now + m.site.repository.delay
      ({ m with site := m.site.note m.now (.list OrderStatus.pending m.polling.batch) }).produceAt
        until_ (.listing (m.polling.next scheduled m.now) until_)
    else m.produceAt scheduled (.ticking scheduled)
  | .listing next until_ =>
    if until_ ≤ m.now then
      let (answer, site) := m.site.list m.polling.batch
      match answer with
      | .error _ => ({ m with site }).produce (.ticking next)
      | .ok batch => ({ m with site }).produce (.pushing batch next)
    else m
  | .pushing [] next => m.produce (.ticking next)
  | .pushing (o :: batch) next =>
    if m.control.stop.isStopped then m.leaveProducer .ended
    else if !m.queue.read then m.leaveProducer .ended
    else if m.queue.hasRoom then
      (({ m with queue := { m.queue with items := m.queue.items ++ [o] } }).wakeReceiver).produce
        (.pushing batch next)
    else m

/-! ### The clock stands while tasks move -/

@[simp] theorem now_wake (m : Machine) (t : Task) : (m.wake t).now = m.now := by
  unfold wake; split <;> rfl

@[simp] theorem now_noteEnd (m : Machine) : m.noteEnd.now = m.now := by
  unfold noteEnd; split <;> rfl

@[simp] theorem now_wakeProducer (m : Machine) : m.wakeProducer.now = m.now := by
  unfold wakeProducer; split <;> simp

@[simp] theorem now_wakeReceiver (m : Machine) : m.wakeReceiver.now = m.now := by
  unfold wakeReceiver; split <;> simp

@[simp] theorem now_passTurn (m : Machine) : m.passTurn.now = m.now := by
  unfold passTurn; split <;> simp

@[simp] theorem now_giveUpTurn (m : Machine) (i : Nat) : (m.giveUpTurn i).now = m.now := by
  unfold giveUpTurn; split <;> simp

@[simp] theorem now_waitUntil (m : Machine) (i time : Nat) (p : WorkerPhase) :
    (m.waitUntil i time p).now = m.now := by
  unfold waitUntil; split <;> rfl

@[simp] theorem now_leave (m : Machine) (i : Nat) (p : WorkerPhase) :
    (m.leave i p).now = m.now := by
  unfold leave
  simp only [now_noteEnd]
  split <;> simp [setWorker, forget]

@[simp] theorem now_call (m : Machine) (i : Nat) (held : Ticket) :
    (m.call i held).now = m.now := by
  simp [call]

@[simp] theorem now_act (m : Machine) (i : Nat) (held : Ticket) (reply : Reply) :
    (m.act i held reply).now = m.now := by
  unfold act
  split
  · rfl
  · split
    · exact now_leave m i .lost
    · rfl
  · exact now_waitUntil _ i _ _

@[simp] theorem now_take (m : Machine) (i : Nat) (o : Ticket) (rest : List Ticket) :
    (m.take i o rest).now = m.now := by
  show (({ m with queue := { m.queue with items := rest } }.wakeProducer).passTurn).now = m.now
  simp

@[simp] theorem now_moveWorker (m : Machine) (i : Nat) : (m.moveWorker i).now = m.now := by
  unfold moveWorker
  repeat' split
  all_goals simp [setWorker, proceed, forget, again]

@[simp] theorem now_produceAt (m : Machine) (time : Nat) (p : ProducerPhase) :
    (m.produceAt time p).now = m.now := by
  unfold produceAt; split <;> rfl

@[simp] theorem now_leaveProducer (m : Machine) (p : ProducerPhase) :
    (m.leaveProducer p).now = m.now := by
  simp [leaveProducer, forget]

@[simp] theorem now_moveProducer (m : Machine) : m.moveProducer.now = m.now := by
  unfold moveProducer
  repeat' split
  all_goals simp [produce, forget, again]

/-- One move of the first runnable task; none if no task is runnable. -/
def step (m : Machine) : Option Machine :=
  match m.ready with
  | [] => none
  | .producer :: ready => some (({ m with ready }).moveProducer)
  | .worker i :: ready => some (({ m with ready }).moveWorker i)

theorem now_of_step {m m' : Machine} (h : m.step = some m') : m'.now = m.now := by
  unfold step at h
  split at h <;> cases h <;> simp

end Machine

end Loyalty.Pipeline
