import Mathlib
import Loyalty.Pipeline.Run

/-!
# The moves of a worker

`WorkerWay` lists the ways in which a worker can go on, one for each branch of its move, with what it
has found on the way and all that the move does to the schedule.

What a move comes to does not depend on who else is about to move. `bare` forgets the turn at the
queue, the runnable tasks and the timers, and `WorkerMove` says what a move makes of the rest.

Main statements: `workerWay_moveWorker`, after which no proof opens `moveWorker` again, and
`workerMove_moveWorker`, which is read off it.
-/

namespace Loyalty.Pipeline

/-- The worker is between two orders, or holds one that it has not asked about. -/
def WorkerPhase.isIdle : WorkerPhase → Bool
  | .atGate _ | .napping _ _ | .asking | .inLine | .receiving => true
  | _ => false

theorem WorkerPhase.isOver_of_isIdle {p : WorkerPhase} (idle : p.isIdle = true) :
    p.isOver = false := by
  cases p <;> first | rfl | cases idle

/-- The order that a worker holds and has not asked about yet. -/
def WorkerPhase.held : WorkerPhase → Option Ticket
  | .atGate held | .napping held _ => held
  | _ => none

namespace Machine

/-! ### What is left of a machine without its schedule -/

/-- The machine but for what decides which task moves when. -/
def bare (m : Machine) : Machine :=
  { m with turn := {}, ready := [], timers := [], endedAt := none }

/-- Once the last worker is over, nobody reads the queue. -/
def hangUp (m : Machine) : Machine :=
  if m.workers.all WorkerPhase.isOver then { m with queue := { m.queue with read := false } }
  else m

@[simp] theorem hangUp_control (m : Machine) : m.hangUp.control = m.control := by
  unfold hangUp
  split <;> rfl

@[simp] theorem hangUp_site (m : Machine) : m.hangUp.site = m.site := by
  unfold hangUp
  split <;> rfl

@[simp] theorem hangUp_producer (m : Machine) : m.hangUp.producer = m.producer := by
  unfold hangUp
  split <;> rfl

@[simp] theorem hangUp_polling (m : Machine) : m.hangUp.polling = m.polling := by
  unfold hangUp
  split <;> rfl

@[simp] theorem hangUp_workers (m : Machine) : m.hangUp.workers = m.workers := by
  unfold hangUp
  split <;> rfl

@[simp] theorem hangUp_fed (m : Machine) : m.hangUp.queue.fed = m.queue.fed := by
  unfold hangUp
  split <;> rfl

@[simp] theorem hangUp_items (m : Machine) : m.hangUp.queue.items = m.queue.items := by
  unfold hangUp
  split <;> rfl

theorem hangUp_read {m : Machine} (over_ : m.workers.all WorkerPhase.isOver = true) :
    m.hangUp.queue.read = false := by
  rw [hangUp, if_pos over_]

@[simp] theorem bare_wake (m : Machine) (t : Task) : (m.wake t).bare = m.bare := by
  unfold wake
  split <;> rfl

@[simp] theorem bare_noteEnd (m : Machine) : m.noteEnd.bare = m.bare := by
  unfold noteEnd
  split <;> rfl

@[simp] theorem bare_wakeProducer (m : Machine) : m.wakeProducer.bare = m.bare := by
  unfold wakeProducer
  split <;> simp

@[simp] theorem bare_wakeReceiver (m : Machine) : m.wakeReceiver.bare = m.bare := by
  unfold wakeReceiver
  split <;> simp

@[simp] theorem bare_passTurn (m : Machine) : m.passTurn.bare = m.bare := by
  unfold passTurn
  split
  · rfl
  · rw [bare_wake]
    rfl

@[simp] theorem bare_giveUpTurn (m : Machine) (i : Nat) : (m.giveUpTurn i).bare = m.bare := by
  unfold giveUpTurn
  split
  · exact bare_passTurn m
  · rfl

theorem bare_forget (m : Machine) (t : Task) : (m.forget t).bare = m.bare := rfl

@[simp] theorem bare_setWorker (m : Machine) (i : Nat) (p : WorkerPhase) :
    (m.setWorker i p).bare = m.bare.setWorker i p := rfl

@[simp] theorem bare_proceed (m : Machine) (i : Nat) (p : WorkerPhase) :
    (m.proceed i p).bare = m.bare.setWorker i p := rfl

@[simp] theorem bare_waitUntil (m : Machine) (i time : Nat) (p : WorkerPhase) :
    (m.waitUntil i time p).bare = m.bare.setWorker i p := by
  unfold waitUntil
  split <;> rfl

theorem bare_foldl_wake (ts : List Task) (m : Machine) : (ts.foldl wake m).bare = m.bare := by
  induction ts generalizing m with
  | nil => rfl
  | cons t ts ih => rw [List.foldl_cons, ih, bare_wake]

theorem bare_leave (m : Machine) (i : Nat) (p : WorkerPhase) :
    (m.leave i p).bare = (m.bare.setWorker i p).hangUp := by
  have left : (((m.giveUpTurn i).forget (.worker i)).setWorker i p).bare = m.bare.setWorker i p := by
    rw [bare_setWorker, bare_forget, bare_giveUpTurn]
  generalize hx : ((m.giveUpTurn i).forget (.worker i)).setWorker i p = x at left
  have same : (m.leave i p).bare = x.bare.hangUp := by
    unfold leave hangUp
    simp only [hx, bare_noteEnd]
    by_cases gone : x.workers.all WorkerPhase.isOver
    · rw [if_pos gone, if_pos (show x.bare.workers.all _ from gone), bare_wakeProducer]
      rfl
    · rw [if_neg gone, if_neg (show ¬ x.bare.workers.all _ from gone)]
  rw [same, left]

theorem bare_call (m : Machine) (i : Nat) (held : Ticket) :
    (m.call i held).bare =
      { m.bare with site := (m.site.ask m.now held.number).2 }.setWorker i
        (.calling held (m.site.ask m.now held.number).1
          (m.now + (m.site.ask m.now held.number).1.delay)) := by
  rw [call, bare_waitUntil]
  rfl

theorem bare_take (m : Machine) (i : Nat) (o : Ticket) (rest : List Ticket) :
    (m.take i o rest).bare =
      { m.bare with queue := { m.queue with items := rest } }.setWorker i (.atGate (some o)) := by
  rw [take, bare_proceed, bare_passTurn, bare_wakeProducer]
  rfl

/-! ### One move of a worker -/

/-- The ways on for worker `i`, one for each branch of its move, with all that the move does to the
schedule. -/
inductive WorkerWay (m : Machine) (i : Nat) (m' : Machine) : Prop where
  /-- It waits on, or is over. -/
  | rests (unanswered : ∀ held reply until_, m.workers[i]? = some (.calling held reply until_) →
        m.now < until_)
      (unstored : ∀ r until_, m.workers[i]? = some (.storing r until_) → m.now < until_)
      (unheard : ∀ p, m.workers[i]? = some p → p.isIdle = true →
        m.control.stop.isStopped = false ∧ ∀ held, p ≠ .atGate held)
      (same : m' = m)
  | naps (held : Option Ticket) (until_ : Nat) (here : m.workers[i]? = some (.atGate held))
      (shut : m.control.gate.deadline? m.now = some until_)
      (going : m.control.stop.isStopped = false)
      (same : m' = m.waitUntil i until_ (.napping held until_))
  | rises (held : Option Ticket) (until_ : Nat) (here : m.workers[i]? = some (.napping held until_))
      (going : m.control.stop.isStopped = false) (due : until_ ≤ m.now)
      (same : m' = m.proceed i (.atGate held))
  | walks (here : m.workers[i]? = some (.atGate none)) (same : m' = m.proceed i .asking)
  | gets (here : m.workers[i]? = some .asking) (going : m.control.stop.isStopped = false)
      (same : m' = { m with turn := { m.turn with holder := some i } }.proceed i .receiving)
  | lines (here : m.workers[i]? = some .asking) (going : m.control.stop.isStopped = false)
      (same : m' = { m with turn := { m.turn with line := m.turn.line ++ [i] } }.setWorker i .inLine)
  | follows (here : m.workers[i]? = some .inLine) (going : m.control.stop.isStopped = false)
      (same : m' = m.proceed i .receiving)
  | takes (o : Ticket) (rest : List Ticket) (here : m.workers[i]? = some .receiving)
      (items : m.queue.items = o :: rest) (going : m.control.stop.isStopped = false)
      (same : m' = m.take i o rest)
  | ends (p : WorkerPhase) (here : m.workers[i]? = some p) (idle : p.isIdle = true)
      (told : m.control.stop.isStopped = true ∨
        p = .receiving ∧ m.queue.items = [] ∧ m.queue.fed = false)
      (same : m' = m.leave i .ended)
  | calls (o : Ticket) (here : m.workers[i]? = some (.atGate (some o)))
      (opened : m.control.gate.deadline? m.now = none) (unraised : m.control.stop.raised = false)
      (same : m' = m.call i o)
  | lets (held : Ticket) (reply : Reply) (until_ : Nat) (outcome : Outcome)
      (here : m.workers[i]? = some (.calling held reply until_)) (due : until_ ≤ m.now)
      (decided : followUp held reply.answer = .leave outcome)
      (same : m' = m.proceed i (.atGate none))
  | defers (held : Ticket) (reply : Reply) (until_ wait : Nat) (gate : Gate)
      (here : m.workers[i]? = some (.calling held reply until_)) (due : until_ ≤ m.now)
      (decided : followUp held reply.answer = .defer wait)
      (fits : m.control.gate.defer m.now wait = some gate)
      (same : m' = { m with control := { m.control with gate } }.proceed i (.atGate none))
  | loses (held : Ticket) (reply : Reply) (until_ wait : Nat)
      (here : m.workers[i]? = some (.calling held reply until_)) (due : until_ ≤ m.now)
      (decided : followUp held reply.answer = .defer wait)
      (beyond : m.control.gate.defer m.now wait = none)
      (same : m' = m.leave i .lost)
  | requests (held : Ticket) (reply : Reply) (until_ : Nat) (r : Request)
      (here : m.workers[i]? = some (.calling held reply until_)) (due : until_ ≤ m.now)
      (decided : followUp held reply.answer = .request r)
      (same : m' = { m with site := m.site.note m.now (.store r) }.waitUntil i
        (m.now + m.site.repository.delay) (.storing r (m.now + m.site.repository.delay)))
  | stores (r : Request) (until_ : Nat) (here : m.workers[i]? = some (.storing r until_))
      (due : until_ ≤ m.now)
      (same : m' = { m with site := (m.site.answer r).2 }.proceed i (.atGate none))

theorem workerWay_act {m : Machine} {i : Nat} {held : Ticket} {reply : Reply} {until_ : Nat}
    (here : m.workers[i]? = some (.calling held reply until_)) (due : until_ ≤ m.now) :
    WorkerWay m i (m.act i held reply) := by
  unfold act
  split
  next outcome decided => exact .lets held reply until_ outcome here due decided rfl
  next wait decided =>
    split
    next beyond => exact .loses held reply until_ wait here due decided beyond rfl
    next gate fits => exact .defers held reply until_ wait gate here due decided fits rfl
  next r decided => exact .requests held reply until_ r here due decided rfl

/-- The inversion of a worker's move. -/
theorem workerWay_moveWorker (m : Machine) (i : Nat) : WorkerWay m i (m.moveWorker i) := by
  have leaves : ∀ p, m.workers[i]? = some p → p.isIdle = true →
      m.control.stop.isStopped = true ∨
        p = .receiving ∧ m.queue.items = [] ∧ m.queue.fed = false →
      WorkerWay m i (m.leave i .ended) :=
    fun p here idle told => .ends p here idle told rfl
  -- what a worker that waits on still waits for
  have stays : ∀ p, m.workers[i]? = some p →
      (∀ held reply until_, p = .calling held reply until_ → m.now < until_) →
      (∀ r until_, p = .storing r until_ → m.now < until_) →
      (p.isIdle = true → m.control.stop.isStopped = false ∧ ∀ held, p ≠ .atGate held) →
      WorkerWay m i m := by
    intro p here unanswered unstored unheard
    refine .rests ?_ ?_ ?_ rfl
    · intro held reply until_ there
      exact unanswered held reply until_ (Option.some.inj (here.symm.trans there))
    · intro r until_ there
      exact unstored r until_ (Option.some.inj (here.symm.trans there))
    · intro q there idle
      obtain rfl := Option.some.inj (here.symm.trans there)
      exact unheard idle
  unfold moveWorker
  cases here : m.workers[i]? with
  | none => exact .rests (by simp [here]) (by simp [here]) (by simp [here]) rfl
  | some p =>
    cases p with
    | ended => exact stays _ here nofun nofun nofun
    | lost => exact stays _ here nofun nofun nofun
    | atGate held =>
      dsimp only
      split
      next until_ shut =>
        split
        next stopped => exact leaves _ here rfl (.inl stopped)
        next going => exact .naps held until_ here shut (eq_false_of_ne_true going) rfl
      next opened =>
        split
        next raised => exact leaves _ here rfl (.inl (by simp [StopSignal.isStopped, raised]))
        next unraised =>
          cases held with
          | none => exact .walks here rfl
          | some o => exact .calls o here opened (eq_false_of_ne_true unraised) rfl
    | napping held until_ =>
      dsimp only
      split
      next stopped => exact leaves _ here rfl (.inl stopped)
      next going =>
        have going := eq_false_of_ne_true going
        split
        next due => exact .rises held until_ here going due rfl
        next => exact stays _ here nofun nofun fun _ => ⟨going, nofun⟩
    | asking =>
      dsimp only
      split
      next stopped => exact leaves _ here rfl (.inl stopped)
      next going =>
        split
        next => exact .gets here (eq_false_of_ne_true going) rfl
        next => exact .lines here (eq_false_of_ne_true going) rfl
    | inLine =>
      dsimp only
      split
      next stopped => exact leaves _ here rfl (.inl stopped)
      next going =>
        have going := eq_false_of_ne_true going
        split
        next => exact .follows here going rfl
        next => exact stays _ here nofun nofun fun _ => ⟨going, nofun⟩
    | receiving =>
      dsimp only
      split
      next stopped => exact leaves _ here rfl (.inl stopped)
      next going =>
        have going := eq_false_of_ne_true going
        split
        next o rest items => exact .takes o rest here items going rfl
        next items =>
          split
          next => exact stays _ here nofun nofun fun _ => ⟨going, nofun⟩
          next unfed => exact leaves _ here rfl (.inr ⟨rfl, items, eq_false_of_ne_true unfed⟩)
    | calling held reply until_ =>
      dsimp only
      split
      next due => exact workerWay_act here due
      next early =>
        refine stays _ here (fun held' reply' until' same => ?_) nofun nofun
        cases same
        exact Nat.lt_of_not_le early
    | storing r until_ =>
      dsimp only
      split
      next due => exact .stores r until_ here due rfl
      next early =>
        refine stays _ here nofun (fun r' until' same => ?_) nofun
        cases same
        exact Nat.lt_of_not_le early

/-! ### The move without its schedule -/

/-- What a move of worker `i` makes of a machine, both without their schedules. -/
inductive WorkerMove (m : Machine) (i : Nat) (m' : Machine) : Prop where
  /-- It waits on, or is over. -/
  | rests (unanswered : ∀ held reply until_, m.workers[i]? = some (.calling held reply until_) →
        m.now < until_)
      (unstored : ∀ r until_, m.workers[i]? = some (.storing r until_) → m.now < until_)
      (same : m' = m)
  /-- It goes on by itself, with the order that it holds. Told to stop, it gets no further than to
  the queue. -/
  | walks (p q : WorkerPhase) (here : m.workers[i]? = some p) (idle : p.isIdle = true)
      (next : q.isIdle = true) (held : q.held = p.held)
      (heard : m.control.stop.isStopped = true → p = .atGate none ∧ q = .asking)
      (same : m' = m.setWorker i q)
  | ends (p : WorkerPhase) (here : m.workers[i]? = some p) (idle : p.isIdle = true)
      (told : m.control.stop.isStopped = true ∨
        p = .receiving ∧ m.queue.items = [] ∧ m.queue.fed = false)
      (same : m' = (m.setWorker i .ended).hangUp)
  | takes (o : Ticket) (rest : List Ticket) (here : m.workers[i]? = some .receiving)
      (items : m.queue.items = o :: rest) (going : m.control.stop.isStopped = false)
      (same : m' = { m with queue := { m.queue with items := rest } }.setWorker i
        (.atGate (some o)))
  /-- It asks the service; the gate has just been found open. -/
  | calls (o : Ticket) (here : m.workers[i]? = some (.atGate (some o)))
      (opened : m.control.gate.deadline? m.now = none) (unraised : m.control.stop.raised = false)
      (same : m' = { m with site := (m.site.ask m.now o.number).2 }.setWorker i
        (.calling o (m.site.ask m.now o.number).1
          (m.now + (m.site.ask m.now o.number).1.delay)))
  | lets (held : Ticket) (reply : Reply) (until_ : Nat) (outcome : Outcome)
      (here : m.workers[i]? = some (.calling held reply until_)) (due : until_ ≤ m.now)
      (decided : followUp held reply.answer = .leave outcome)
      (same : m' = m.setWorker i (.atGate none))
  | defers (held : Ticket) (reply : Reply) (until_ wait : Nat) (gate : Gate)
      (here : m.workers[i]? = some (.calling held reply until_)) (due : until_ ≤ m.now)
      (decided : followUp held reply.answer = .defer wait)
      (fits : m.control.gate.defer m.now wait = some gate)
      (same : m' = { m with control := { m.control with gate } }.setWorker i (.atGate none))
  /-- It is told to wait beyond the horizon, and is lost. -/
  | loses (held : Ticket) (reply : Reply) (until_ wait : Nat)
      (here : m.workers[i]? = some (.calling held reply until_)) (due : until_ ≤ m.now)
      (decided : followUp held reply.answer = .defer wait)
      (beyond : m.control.gate.defer m.now wait = none)
      (same : m' = (m.setWorker i .lost).hangUp)
  | requests (held : Ticket) (reply : Reply) (until_ : Nat) (r : Request)
      (here : m.workers[i]? = some (.calling held reply until_)) (due : until_ ≤ m.now)
      (decided : followUp held reply.answer = .request r)
      (same : m' = { m with site := m.site.note m.now (.store r) }.setWorker i
        (.storing r (m.now + m.site.repository.delay)))
  | stores (r : Request) (until_ : Nat) (here : m.workers[i]? = some (.storing r until_))
      (due : until_ ≤ m.now)
      (same : m' = { m with site := (m.site.answer r).2 }.setWorker i (.atGate none))

/-- Whichever way a worker goes on, this is what becomes of the rest. -/
theorem WorkerWay.bare {m m' : Machine} {i : Nat} (way : WorkerWay m i m') :
    WorkerMove m.bare i m'.bare := by
  cases way with
  | rests unanswered unstored unheard same => exact .rests unanswered unstored (by rw [same])
  | naps held until_ here shut going same =>
    refine .walks _ (.napping held until_) here rfl rfl rfl (fun told => ?_) ?_
    · exact absurd (going.symm.trans told) Bool.false_ne_true
    · rw [same, bare_waitUntil]
  | rises held until_ here going due same =>
    refine .walks _ (.atGate held) here rfl rfl rfl (fun told => ?_) ?_
    · exact absurd (going.symm.trans told) Bool.false_ne_true
    · rw [same, bare_proceed]
  | walks here same =>
    exact .walks _ .asking here rfl rfl rfl (fun _ => ⟨rfl, rfl⟩) (by rw [same, bare_proceed])
  | gets here going same =>
    refine .walks _ .receiving here rfl rfl rfl (fun told => ?_) ?_
    · exact absurd (going.symm.trans told) Bool.false_ne_true
    · rw [same, bare_proceed]
      rfl
  | lines here going same =>
    refine .walks _ .inLine here rfl rfl rfl (fun told => ?_) ?_
    · exact absurd (going.symm.trans told) Bool.false_ne_true
    · rw [same, bare_setWorker]
      rfl
  | follows here going same =>
    refine .walks _ .receiving here rfl rfl rfl (fun told => ?_) ?_
    · exact absurd (going.symm.trans told) Bool.false_ne_true
    · rw [same, bare_proceed]
  | takes o rest here items going same =>
    exact .takes o rest here items going (by rw [same, bare_take]; rfl)
  | ends p here idle told same => exact .ends p here idle told (by rw [same, bare_leave])
  | calls o here opened unraised same =>
    exact .calls o here opened unraised (by rw [same, bare_call]; rfl)
  | lets held reply until_ outcome here due decided same =>
    exact .lets held reply until_ outcome here due decided (by rw [same, bare_proceed])
  | defers held reply until_ wait gate here due decided fits same =>
    refine .defers held reply until_ wait gate here due decided fits ?_
    rw [same, bare_proceed]
    rfl
  | loses held reply until_ wait here due decided beyond same =>
    exact .loses held reply until_ wait here due decided beyond (by rw [same, bare_leave])
  | requests held reply until_ r here due decided same =>
    refine .requests held reply until_ r here due decided ?_
    rw [same, bare_waitUntil]
    rfl
  | stores r until_ here due same =>
    exact .stores r until_ here due (by rw [same, bare_proceed]; rfl)

/-- The step lemma of the workers, without their schedule. -/
theorem workerMove_moveWorker (m : Machine) (i : Nat) :
    WorkerMove m.bare i (m.moveWorker i).bare :=
  (workerWay_moveWorker m i).bare

end Machine

end Loyalty.Pipeline
