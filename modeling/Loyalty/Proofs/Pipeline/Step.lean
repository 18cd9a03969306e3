import Loyalty.Proofs.Pipeline.Course

/-!
# The steps of a pipeline

As the moves of a worker, those of the producer come down to a few cases once the schedule is left
out (`ProducerMove`). With them an occurrence on any machine is a move of a worker, a move of the
producer, a step of the clock, or something from outside.

Main statements: `producerWay_moveProducer`, after which no proof opens `moveProducer` again, and
`step_after`, from which the steps of a machine without a producer are read off (`poolStep_after`).
-/

namespace Loyalty.Pipeline

namespace Machine

/-! ### One move of the producer -/

@[simp] theorem bare_produce (m : Machine) (p : ProducerPhase) :
    (m.produce p).bare = { m.bare with producer := p } := rfl

@[simp] theorem bare_produceAt (m : Machine) (time : Nat) (p : ProducerPhase) :
    (m.produceAt time p).bare = { m.bare with producer := p } := by
  unfold produceAt
  split <;> rfl

theorem bare_leaveProducer (m : Machine) (p : ProducerPhase) :
    (m.leaveProducer p).bare =
      { m.bare with producer := p, queue := { m.queue with fed := false } } := by
  rw [leaveProducer, bare_noteEnd, bare_wakeReceiver]
  rfl

/-- The ways on for the producer, one for each branch of its move, with all that the move does to the
schedule. -/
inductive ProducerWay (m m' : Machine) : Prop where
  | rests (done : m.producer.isOver = true) (same : m' = m)
  | starts (here : m.producer = .starting) (interval : m.polling.interval ≠ 0)
      (same : m' = m.produce (.ticking m.now))
  | fails (here : m.producer = .starting) (interval : m.polling.interval = 0)
      (same : m' = m.leaveProducer .lost)
  | stops (here : (∃ scheduled, m.producer = .ticking scheduled) ∨
        ∃ o batch next, m.producer = .pushing (o :: batch) next)
      (told : m.control.stop.isStopped = true) (same : m' = m.leaveProducer .ended)
  | waits (scheduled : Nat) (here : m.producer = .ticking scheduled)
      (going : m.control.stop.isStopped = false) (early : m.now < scheduled)
      (same : m' = m.produceAt scheduled (.ticking scheduled))
  | asks (scheduled : Nat) (here : m.producer = .ticking scheduled)
      (going : m.control.stop.isStopped = false) (due : scheduled ≤ m.now)
      (same : m' = { m with
        site := m.site.note m.now (.list OrderStatus.pending m.polling.batch) }.produceAt
          (m.now + m.site.repository.delay)
          (.listing (m.polling.next scheduled m.now) (m.now + m.site.repository.delay)))
  | listens (next until_ : Nat) (here : m.producer = .listing next until_) (early : m.now < until_)
      (same : m' = m)
  | misses (next until_ : Nat) (cause : Failure) (here : m.producer = .listing next until_)
      (due : until_ ≤ m.now) (listed : (m.site.list m.polling.batch).1 = .error cause)
      (same : m' = { m with site := (m.site.list m.polling.batch).2 }.produce (.ticking next))
  | lists (next until_ : Nat) (batch : List Ticket) (here : m.producer = .listing next until_)
      (due : until_ ≤ m.now) (listed : (m.site.list m.polling.batch).1 = .ok batch)
      (same : m' = { m with site := (m.site.list m.polling.batch).2 }.produce (.pushing batch next))
  | finishes (next : Nat) (here : m.producer = .pushing [] next)
      (same : m' = m.produce (.ticking next))
  /-- Nobody reads the queue any more. -/
  | hangs (o : Ticket) (batch : List Ticket) (next : Nat)
      (here : m.producer = .pushing (o :: batch) next)
      (going : m.control.stop.isStopped = false) (unread : m.queue.read = false)
      (same : m' = m.leaveProducer .ended)
  | pushes (o : Ticket) (batch : List Ticket) (next : Nat)
      (here : m.producer = .pushing (o :: batch) next)
      (going : m.control.stop.isStopped = false) (read : m.queue.read = true)
      (room : m.queue.hasRoom = true)
      (same : m' = { m with queue := { m.queue with items := m.queue.items ++ [o] } }.wakeReceiver.produce
        (.pushing batch next))
  | blocks (o : Ticket) (batch : List Ticket) (next : Nat)
      (here : m.producer = .pushing (o :: batch) next)
      (going : m.control.stop.isStopped = false) (full : m.queue.hasRoom = false) (same : m' = m)

/-- The inversion of the producer's move. -/
theorem producerWay_moveProducer (m : Machine) : ProducerWay m m.moveProducer := by
  unfold moveProducer
  split
  next here => exact .rests (by rw [here]; rfl) rfl
  next here => exact .rests (by rw [here]; rfl) rfl
  next here =>
    split
    next still => exact .fails here still rfl
    next interval => exact .starts here interval rfl
  next scheduled here =>
    split
    next stopped => exact .stops (.inl ⟨scheduled, here⟩) stopped rfl
    next going =>
      have going := eq_false_of_ne_true going
      split
      next due => exact .asks scheduled here going due rfl
      next early => exact .waits scheduled here going (Nat.lt_of_not_le early) rfl
  next next until_ here =>
    split
    next due =>
      dsimp only
      split
      next cause listed => exact .misses next until_ cause here due listed rfl
      next batch listed => exact .lists next until_ batch here due listed rfl
    next early => exact .listens next until_ here (Nat.lt_of_not_le early) rfl
  next next here => exact .finishes next here rfl
  next o batch next here =>
    split
    next stopped => exact .stops (.inr ⟨o, batch, next, here⟩) stopped rfl
    next going =>
      have going := eq_false_of_ne_true going
      split
      next unread => exact .hangs o batch next here going (by simpa using unread) rfl
      next read =>
        split
        next room => exact .pushes o batch next here going (by simpa using read) room rfl
        next full => exact .blocks o batch next here going (eq_false_of_ne_true full) rfl

/-! ### The move without its schedule -/

/-- What a move of the producer makes of a machine, both without their schedules. -/
inductive ProducerMove (m m' : Machine) : Prop where
  /-- It waits on, or is over. -/
  | rests (unlisted : ∀ next until_, m.producer = .listing next until_ → m.now < until_)
      (blocked : ∀ batch next, m.producer = .pushing batch next →
        batch ≠ [] ∧ m.queue.hasRoom = false)
      (same : m' = m)
  | starts (here : m.producer = .starting) (interval : m.polling.interval ≠ 0)
      (same : m' = { m with producer := .ticking m.now })
  /-- It is over, told to stop, or before a queue that nobody reads; or it could not start. -/
  | ends (p : ProducerPhase) (done : p.isOver = true)
      (told : m.producer = .starting ∧ m.polling.interval = 0 ∨
        (m.control.stop.isStopped = true ∨ m.queue.read = false) ∧
          ((∃ scheduled, m.producer = .ticking scheduled) ∨
            ∃ o batch next, m.producer = .pushing (o :: batch) next))
      (same : m' = { m with producer := p, queue := { m.queue with fed := false } })
  | asks (scheduled : Nat) (here : m.producer = .ticking scheduled) (due : scheduled ≤ m.now)
      (going : m.control.stop.isStopped = false)
      (same : m' = { m with
        site := m.site.note m.now (.list OrderStatus.pending m.polling.batch)
        producer := .listing (m.polling.next scheduled m.now)
          (m.now + m.site.repository.delay) })
  | misses (next until_ : Nat) (cause : Failure) (here : m.producer = .listing next until_)
      (due : until_ ≤ m.now) (listed : (m.site.list m.polling.batch).1 = .error cause)
      (same : m' = { m with
        site := (m.site.list m.polling.batch).2
        producer := .ticking next })
  | lists (next until_ : Nat) (batch : List Ticket) (here : m.producer = .listing next until_)
      (due : until_ ≤ m.now) (listed : (m.site.list m.polling.batch).1 = .ok batch)
      (same : m' = { m with
        site := (m.site.list m.polling.batch).2
        producer := .pushing batch next })
  | pushes (o : Ticket) (batch : List Ticket) (next : Nat)
      (here : m.producer = .pushing (o :: batch) next)
      (going : m.control.stop.isStopped = false) (read : m.queue.read = true)
      (room : m.queue.hasRoom = true)
      (same : m' = { m with
        queue := { m.queue with items := m.queue.items ++ [o] }
        producer := .pushing batch next })
  /-- The whole batch is on the queue. -/
  | finishes (next : Nat) (here : m.producer = .pushing [] next)
      (same : m' = { m with producer := .ticking next })

/-- Whichever way the producer goes on, this is what becomes of the rest. -/
theorem ProducerWay.bare {m m' : Machine} (way : ProducerWay m m') :
    ProducerMove m.bare m'.bare := by
  -- who waits on is neither due nor has room
  have stays : (∀ next until_, m.producer = .listing next until_ → m.now < until_) →
      (∀ batch next, m.producer = .pushing batch next → batch ≠ [] ∧ m.queue.hasRoom = false) →
      m'.bare = m.bare → ProducerMove m.bare m'.bare :=
    fun unlisted blocked same => .rests unlisted blocked same
  cases way with
  | rests done same =>
    refine stays (fun next until_ here => ?_) (fun batch next here => ?_) (by rw [same])
    · rw [here] at done
      cases done
    · rw [here] at done
      cases done
  | starts here interval same => exact .starts here interval (by rw [same, bare_produce]; rfl)
  | fails here interval same =>
    exact .ends .lost rfl (.inl ⟨here, interval⟩) (by rw [same, bare_leaveProducer]; rfl)
  | stops here told same =>
    exact .ends .ended rfl (.inr ⟨.inl told, here⟩) (by rw [same, bare_leaveProducer]; rfl)
  | waits scheduled here going early same =>
    refine stays (by simp [here]) (by simp [here]) ?_
    rw [same, bare_produceAt, ← here]
    rfl
  | asks scheduled here going due same =>
    exact .asks scheduled here due going (by rw [same, bare_produceAt]; rfl)
  | listens next until_ here early same =>
    refine stays (fun next' until' here' => ?_) (by simp [here]) (by rw [same])
    cases here.symm.trans here'
    exact early
  | misses next until_ cause here due listed same =>
    exact .misses next until_ cause here due listed (by rw [same, bare_produce]; rfl)
  | lists next until_ batch here due listed same =>
    exact .lists next until_ batch here due listed (by rw [same, bare_produce]; rfl)
  | finishes next here same => exact .finishes next here (by rw [same, bare_produce])
  | hangs o batch next here going unread same =>
    refine .ends .ended rfl (.inr ⟨.inr unread, .inr ⟨o, batch, next, here⟩⟩) ?_
    rw [same, bare_leaveProducer]
    rfl
  | pushes o batch next here going read room same =>
    refine .pushes o batch next here going read room ?_
    rw [same, bare_produce, bare_wakeReceiver]
    rfl
  | blocks o batch next here going full same =>
    refine stays (by simp [here]) (fun batch' next' here' => ?_) (by rw [same])
    cases here.symm.trans here'
    exact ⟨List.cons_ne_nil _ _, full⟩

/-- The step lemma of the producer, without its schedule. -/
theorem producerMove_moveProducer (m : Machine) : ProducerMove m.bare m.moveProducer.bare :=
  (producerWay_moveProducer m).bare

/-- A producer that is over stays where it is. -/
theorem ProducerMove.eq_of_isOver {m m' : Machine} (h : ProducerMove m m') (done : m.producer.isOver = true) :
    m' = m := by
  cases h with
  | rests unlisted blocked same => exact same
  | ends p done' told same =>
    rcases told with ⟨here, -⟩ | ⟨-, ⟨scheduled, here⟩ | ⟨o, batch, next, here⟩⟩
    all_goals
      rw [here] at done
      cases done
  | starts here | asks scheduled here | misses next until_ cause here | lists next until_ batch here
  | pushes o batch next here | finishes next here =>
    rw [here] at done
    cases done

/-! ### One occurrence -/

/-- What an action makes of the shutdown switch. -/
def Action.turned (a : Action) (s : StopSignal) : StopSignal :=
  match a with
  | .shutdown => s.turn true
  | .dropSwitch => { s with dropped := true }
  | _ => s

def Action.registered : Action → List StoredOrder
  | .register o => [o]
  | _ => []

/-- The order that an action puts on the queue. -/
def put? (m : Machine) : Action → Option Ticket
  | .send o => if m.queue.read = true ∧ m.queue.hasRoom = true then some o else none
  | _ => none

/-- What an action makes of the queue. -/
structure QueueStep (m : Machine) (a : Action) (queue : Queue) : Prop where
  fed : a ≠ .closeFeed → queue.fed = m.queue.fed
  items : a ≠ .receive → a ≠ .drain → queue.items = m.queue.items ++ (m.put? a).toList
  /-- What is taken is taken from the front. -/
  suffix : queue.items <:+ m.queue.items ++ (m.put? a).toList
  read : a ≠ .closeReader → queue.read = m.queue.read

/-- What an occurrence makes of a machine, both without their schedules. -/
inductive Step (m : Machine) (o : Occurrence) (m' : Machine) : Prop where
  | worker (i : Nat) (what : o = .move (.worker i)) (moved : WorkerMove m i m')
  | producer (what : o = .move .producer) (moved : ProducerMove m m')
  | clock (time : Nat) (what : o = .pass time ∨ o = .ring time) (now : Nat) (later : m.now ≤ now)
      (same : m' = { m with now })
  /-- From outside comes nothing that touches the gate, the tasks or the calls made. -/
  | outside (a : Action) (what : o = .act a) (queue : Queue)
      (same : m' = { m with
        control := { m.control with stop := a.turned m.control.stop }
        queue
        site := { m.site with repository := { m.site.repository with
          orders := m.site.repository.orders ++ a.registered } } })
      (queued : QueueStep m a queue)

theorem bare_wakeAll (m : Machine) : m.wakeAll.bare = m.bare := by
  have all : ∀ (is : List Nat) (m : Machine),
      (is.foldl (fun m i => m.wake (.worker i)) m).bare = m.bare := by
    intro is
    induction is with
    | nil => exact fun m => rfl
    | cons i is ih =>
      intro m
      rw [List.foldl_cons, ih, bare_wake]
  rw [wakeAll, all, bare_wake]

theorem bare_jump (m : Machine) (time : Nat) : (m.jump time).bare = { m.bare with now := time } := by
  rw [jump, bare_foldl_wake]
  rfl

/-- What an action makes of a machine. -/
theorem bare_act (m : Machine) (a : Action) : ∃ queue, QueueStep m.bare a queue ∧
    (m.act? a).2.bare = { m.bare with
      control := { m.control with stop := a.turned m.control.stop }
      queue
      site := { m.site with repository := { m.site.repository with
        orders := m.site.repository.orders ++ a.registered } } } := by
  -- most actions touch the queue alone
  have queued : ∀ queue : Queue, QueueStep m.bare a queue →
      a.turned m.control.stop = m.control.stop → a.registered = [] →
      (m.act? a).2.bare = { m.bare with queue } → ∃ queue, QueueStep m.bare a queue ∧
        (m.act? a).2.bare = { m.bare with
          control := { m.control with stop := a.turned m.control.stop }
          queue
          site := { m.site with repository := { m.site.repository with
            orders := m.site.repository.orders ++ a.registered } } } := by
    intro queue step turned registered same
    refine ⟨queue, step, ?_⟩
    rw [same, registered, List.append_nil, turned]
    rfl
  have untouched : m.bare.put? a = none → QueueStep m.bare a m.queue := by
    intro nothing
    have same : m.queue.items = m.queue.items ++ (m.bare.put? a).toList := by
      rw [nothing]
      exact (List.append_nil _).symm
    exact ⟨fun _ => rfl, fun _ _ => same, ⟨[], same⟩, fun _ => rfl⟩
  cases a with
  | idle => exact queued m.queue (untouched rfl) rfl rfl rfl
  | inspect => exact queued m.queue (untouched rfl) rfl rfl rfl
  | shutdown =>
    refine ⟨m.queue, untouched rfl, (bare_wakeAll _).trans ?_⟩
    simp [bare, Action.turned, Action.registered, Control.change]
  | dropSwitch =>
    refine ⟨m.queue, untouched rfl, (bare_wakeAll _).trans ?_⟩
    simp [bare, Action.turned, Action.registered, Control.change]
  | register o => exact ⟨m.queue, untouched rfl, rfl⟩
  | send o =>
    by_cases unread : m.queue.read = false
    · refine queued m.queue (untouched ?_) rfl rfl ?_
      · simp [put?, bare, unread]
      · simp [act?, unread]
        rfl
    · by_cases room : m.queue.hasRoom
      · have put : m.bare.put? (.send o) = some o := by simp [put?, bare, unread, room]
        refine queued { m.queue with items := m.queue.items ++ [o] }
          ⟨fun _ => rfl, fun _ _ => by rw [put]; rfl, ⟨[], by rw [put]; rfl⟩, fun _ => rfl⟩ rfl rfl ?_
        simp only [act?, unread, room]
        exact bare_wakeReceiver _
      · refine queued m.queue (untouched ?_) rfl rfl ?_
        · simp [put?, bare, room]
        · simp [act?, unread, room]
          rfl
  | closeFeed =>
    exact queued { m.queue with fed := false }
      ⟨fun other => absurd rfl other, fun _ _ => (List.append_nil _).symm,
        ⟨[], (List.append_nil _).symm⟩, fun _ => rfl⟩ rfl rfl
      (bare_wakeReceiver _)
  | receive =>
    cases items : m.queue.items with
    | nil => exact queued m.queue (untouched rfl) rfl rfl (by simp [act?, items]; rfl)
    | cons o rest =>
      refine queued { m.queue with items := rest }
        ⟨fun _ => rfl, fun other => absurd rfl other, ⟨[o], ?_⟩, fun _ => rfl⟩ rfl rfl ?_
      · exact items.symm.trans (List.append_nil _).symm
      simp only [act?, items]
      exact bare_wakeProducer _
  | drain =>
    exact queued { m.queue with items := [] }
      ⟨fun _ => rfl, fun _ other => absurd rfl other, List.nil_suffix, fun _ => rfl⟩ rfl rfl
      (bare_wakeProducer _)
  | closeReader =>
    exact queued { m.queue with read := false }
      ⟨fun _ => rfl, fun _ _ => (List.append_nil _).symm, ⟨[], (List.append_nil _).symm⟩,
        fun other => absurd rfl other⟩ rfl rfl
      (bare_wakeProducer _)

theorem workerMove_after (m : Machine) (i : Nat) :
    WorkerMove m.bare i (m.after (.move (.worker i))).bare :=
  workerMove_moveWorker { m with ready := m.ready.erase (.worker i) } i

theorem producerMove_after (m : Machine) : ProducerMove m.bare (m.after (.move .producer)).bare :=
  producerMove_moveProducer { m with ready := m.ready.erase .producer }

/-- The step lemma of every machine. -/
theorem step_after (m : Machine) (o : Occurrence) : Step m.bare o (m.after o).bare := by
  cases o with
  | move t =>
    cases t with
    | worker i => exact .worker i rfl (workerMove_after m i)
    | producer => exact .producer rfl (producerMove_after m)
  | pass time => exact .clock time (.inl rfl) (max m.now time) (le_max_left _ _) rfl
  | ring time =>
    simp only [after]
    split
    next later => exact .clock time (.inr rfl) time later (bare_jump m time)
    next => exact .clock time (.inr rfl) m.now le_rfl rfl
  | act a =>
    obtain ⟨queue, queued, same⟩ := bare_act m a
    exact .outside a rfl queue same queued

/-! ### What an occurrence is to a pool -/

/-- What an occurrence makes of a machine without a producer, both without their schedules. -/
inductive PoolStep (m : Machine) (o : Occurrence) (m' : Machine) : Prop where
  | worker (i : Nat) (what : o = .move (.worker i)) (moved : WorkerMove m i m')
  | elsewhere (what : o = .move .producer) (same : m' = m)
  | clock (time : Nat) (what : o = .pass time ∨ o = .ring time) (now : Nat) (later : m.now ≤ now)
      (same : m' = { m with now })
  /-- From outside comes nothing that touches the gate, the workers or the calls made. -/
  | outside (a : Action) (what : o = .act a) (stop : StopSignal) (queue : Queue)
      (repository : Repository) (signal : a ≠ .shutdown → a ≠ .dropSwitch → stop = m.control.stop)
      (queued : QueueStep m a queue)
      (same : m' = { m with
        control := { m.control with stop }
        queue
        site := { m.site with repository } })

/-- In a pool the producer has nothing to do with an occurrence. -/
theorem Step.pool {m m' : Machine} {o : Occurrence} (step : Step m o m')
    (alone : m.producer = .ended) : PoolStep m o m' := by
  cases step with
  | worker i what moved => exact .worker i what moved
  | producer what moved =>
    refine .elsewhere what (moved.eq_of_isOver ?_)
    rw [alone]
    rfl
  | clock time what now later same => exact .clock time what now later same
  | outside a what queue same queued =>
    refine .outside a what _ queue _ (fun other other' => ?_) queued same
    cases a with
    | shutdown => exact absurd rfl other
    | dropSwitch => exact absurd rfl other'
    | _ => rfl

/-- The step lemma of a pool. -/
theorem poolStep_after {m : Machine} (alone : m.producer = .ended) (o : Occurrence) :
    PoolStep m.bare o (m.after o).bare :=
  (step_after m o).pool alone

end Machine

end Loyalty.Pipeline
