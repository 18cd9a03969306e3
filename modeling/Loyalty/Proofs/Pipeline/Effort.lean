import Loyalty.Proofs.Pipeline.Lifecycle
import Loyalty.Proofs.Pipeline.Schedule

/-!
# How many moves are left

At one instant the tasks of a pipeline make only so many moves. Each order on the queue gives a worker a
few of them, and each tick of the producer brings no more orders than one listing holds; a tick that is
late brings others with it, but never more than six, because a tick that comes too late moves the next
ones. `effort` counts the moves that are left.

Main statements: `tires_moveTask`, that no move adds to them, and `effort_le_patience`, that `settle` has
patience for all of them.
-/

namespace Loyalty.Pipeline

/-! ### How many orders a listing gives -/

/-- The number of orders in an answer to a listing. -/
def ordersIn : Except Failure (List Ticket) → Nat
  | .ok batch => batch.length
  | .error _ => 0

/-- The orders in all listings that the store has been told to answer. -/
def Repository.scripted (r : Repository) : Nat :=
  match r.listings with
  | some answers => (answers.map ordersIn).sum
  | none => 0

/-- No listing gives more orders than this. -/
def Repository.breadth (r : Repository) : Nat := r.orders.length + r.scripted

theorem sum_ordersIn_advance (answers : List (Except Failure (List Ticket))) :
    ((advance answers).map ordersIn).sum ≤ (answers.map ordersIn).sum := by
  match answers with
  | [] => exact Nat.le_refl _
  | [a] => exact Nat.le_refl _
  | a :: b :: rest =>
    show ((b :: rest).map ordersIn).sum ≤ ordersIn a + ((b :: rest).map ordersIn).sum
    exact Nat.le_add_left _ _

/-- A listing gives no more orders than there may be, and leaves no more for the next ones. -/
theorem Repository.breadth_list (r : Repository) (statuses : List OrderStatus) (limit : Int) :
    (r.list statuses limit).2.breadth ≤ r.breadth ∧
      ∀ batch, (r.list statuses limit).1 = .ok batch → batch.length ≤ r.breadth := by
  have selected : (r.select statuses limit).length ≤ r.breadth := by
    rw [select, List.length_map]
    have listed := List.length_take_le' limit.toNat (r.orders.filter fun o => o.status ∈ statuses)
    have among := List.length_filter_le (fun o => decide (o.status ∈ statuses)) r.orders
    exact (listed.trans among).trans (Nat.le_add_right _ _)
  have answered : ∀ answer more, r.listings = some (answer :: more) →
      { r.called .list with listings := some (advance (answer :: more)) }.breadth ≤ r.breadth ∧
        ∀ batch, answer = .ok batch → batch.length ≤ r.breadth := by
    intro answer more listings
    have scripted : r.scripted = ((answer :: more).map ordersIn).sum := by
      rw [Repository.scripted, listings]
    refine ⟨Nat.add_le_add_left ?_ _, ?_⟩
    · rw [scripted]
      exact sum_ordersIn_advance (answer :: more)
    · rintro batch rfl
      rw [breadth, scripted, List.map_cons, List.sum_cons, ordersIn]
      omega
  unfold list
  dsimp only
  cases r.fault .list with
  | failure cause => exact ⟨Nat.le_refl _, nofun⟩
  | _ =>
    dsimp only
    split
    · refine ⟨Nat.le_refl _, fun batch listed => ?_⟩
      obtain rfl := Except.ok.inj listed
      exact selected
    · refine ⟨Nat.le_refl _, fun batch listed => ?_⟩
      obtain rfl := Except.ok.inj listed
      exact Nat.zero_le _
    next answer more listings => exact answered answer more listings

theorem Repository.breadth_answer (r : Repository) (req : Request) :
    (r.answer req).2.breadth = r.breadth := by
  have modified : ∀ (r : Repository) number f, (r.modify number f).breadth = r.breadth := by
    intro r number f
    rw [breadth, modify, List.length_map]
    rfl
  obtain ⟨-, same⟩ | carried := r.answer_eq req
  · rw [same]
    rfl
  · rw [carried]
    obtain ⟨-, o, -, -, changed⟩ | ⟨-, unchanged⟩ := carryOut_cases (r.called req.operation) req
    · rw [changed, modified]
      rfl
    · rw [unchanged]
      rfl

/-! ### How many moves are left -/

/-- The moves that are left to a worker at this instant, unless it takes another order. Those of the tasks that
it wakes when it goes for good are counted with them, so that nobody who can still go has fewer than two. -/
def WorkerPhase.effort (now : Nat) : WorkerPhase → Nat
  | .ended | .lost => 0
  | .receiving => 3
  | .inLine => 4
  | .asking => 5
  | .atGate none => 6
  | .storing _ until_ => if until_ ≤ now then 7 else 0
  | .calling _ _ until_ => if until_ ≤ now then 8 else 0
  | .atGate (some _) => 9
  | .napping _ until_ => if until_ ≤ now then 10 else 3

/-- How many ticks are due, the first of them at `scheduled`. -/
def ticksDue (scheduled now : Nat) : Nat :=
  if scheduled + Polling.tolerance < now then 1 else now + 1 - scheduled

theorem ticksDue_le (scheduled now : Nat) : ticksDue scheduled now ≤ 6 := by
  unfold ticksDue Polling.tolerance
  split <;> omega

/-- A tick that is due is followed by fewer. -/
theorem ticksDue_next {p : Polling} (paced : p.interval ≠ 0) {scheduled now : Nat}
    (due : scheduled ≤ now) : ticksDue (p.next scheduled now) now + 1 ≤ ticksDue scheduled now := by
  unfold ticksDue Polling.next Polling.tolerance
  split
  next => split <;> omega
  next => split <;> omega

/-- The moves that are left to the producer before its next tick, and in the ticks that are due. -/
def tickEffort (breadth scheduled now : Nat) : Nat :=
  3 + ticksDue scheduled now * (11 * breadth + 5)

theorem tickEffort_mono {breadth breadth' : Nat} (fewer : breadth' ≤ breadth)
    (scheduled now : Nat) : tickEffort breadth' scheduled now ≤ tickEffort breadth scheduled now := by
  unfold tickEffort
  gcongr

/-- The moves that are left to the producer at this instant, with those of others that it brings. -/
def ProducerPhase.effort (breadth now : Nat) : ProducerPhase → Nat
  | .ended | .lost => 0
  | .starting => 1 + tickEffort breadth now now
  | .ticking scheduled => tickEffort breadth scheduled now
  | .listing next until_ =>
    if until_ ≤ now then 11 * breadth + 2 + tickEffort breadth next now else 0
  | .pushing batch next => 11 * batch.length + 1 + tickEffort breadth next now

theorem WorkerPhase.effort_le (p : WorkerPhase) (now : Nat) : p.effort now ≤ 10 := by
  unfold WorkerPhase.effort
  repeat' split
  all_goals omega

/-- The orders of the last listing that are still to be put on the queue. -/
def ProducerPhase.unpushed : ProducerPhase → Nat
  | .pushing batch _ => batch.length
  | _ => 0

theorem tickEffort_le (breadth scheduled now : Nat) :
    tickEffort breadth scheduled now ≤ 66 * breadth + 33 := by
  have bound := Nat.mul_le_mul_right (11 * breadth + 5) (ticksDue_le scheduled now)
  rw [tickEffort]
  omega

theorem ProducerPhase.effort_le (p : ProducerPhase) (breadth now : Nat) :
    p.effort breadth now ≤ 77 * breadth + 35 + 11 * p.unpushed := by
  cases p with
  | ended => exact Nat.zero_le _
  | lost => exact Nat.zero_le _
  | starting =>
    have bound := tickEffort_le breadth now now
    rw [ProducerPhase.effort]
    omega
  | ticking scheduled =>
    have bound := tickEffort_le breadth scheduled now
    rw [ProducerPhase.effort]
    omega
  | listing next until_ =>
    have bound := tickEffort_le breadth next now
    rw [ProducerPhase.effort]
    split <;> omega
  | pushing batch next =>
    have bound := tickEffort_le breadth next now
    rw [ProducerPhase.effort, ProducerPhase.unpushed]
    omega

namespace Machine

/-- The moves that are left to all tasks at this instant. An order on the queue stands for those of the worker
that takes it, and of the two tasks that this worker wakes. -/
def effort (m : Machine) : Nat :=
  (m.workers.map (WorkerPhase.effort m.now)).sum +
    m.producer.effort m.site.repository.breadth m.now + 9 * m.queue.items.length + m.ready.length

/-- What a task that has had its turn makes of a machine: no more is left to do, and nobody asks to be woken at
a time that has come. -/
structure Tires (m m' : Machine) : Prop where
  effort : m'.effort ≤ m.effort
  timers : ∀ w ∈ m'.timers, w ∈ m.timers ∨ m.now < w.1

section

variable {m m' x : Machine} {i : Nat}

theorem sum_effort_set {ws : List WorkerPhase} {p : WorkerPhase} (here : ws[i]? = some p)
    (q : WorkerPhase) (now : Nat) :
    ((ws.set i q).map (WorkerPhase.effort now)).sum + p.effort now =
      (ws.map (WorkerPhase.effort now)).sum + q.effort now := by
  have perm := (perm_filterMap_set (fun p => some (WorkerPhase.effort now p)) here q).sum_eq
  simpa using perm

/-- Whoever wakes at most `n` tasks leaves that much more to do. -/
theorem effort_of_bare (bare : m'.bare = m.bare) {n : Nat}
    (ready : m'.ready.length ≤ m.ready.length + n) : m'.effort ≤ m.effort + n := by
  have same : m'.bare.effort = m.bare.effort := congrArg Machine.effort bare
  have split : ∀ x : Machine, x.effort = x.bare.effort + x.ready.length := fun _ => rfl
  rw [split m', split m, same]
  omega

theorem length_ready_wake (m : Machine) (t : Task) :
    (m.wake t).ready.length ≤ m.ready.length + 1 := by
  unfold wake
  split
  · exact Nat.le_succ _
  · exact Nat.le_of_eq (List.length_append)

theorem effort_wakeProducer (m : Machine) : m.wakeProducer.effort ≤ m.effort + 1 := by
  refine effort_of_bare (bare_wakeProducer m) ?_
  unfold wakeProducer
  split
  · exact length_ready_wake m _
  · exact Nat.le_succ _

theorem effort_wakeReceiver (m : Machine) : m.wakeReceiver.effort ≤ m.effort + 1 := by
  refine effort_of_bare (bare_wakeReceiver m) ?_
  unfold wakeReceiver
  split
  · exact length_ready_wake m _
  · exact Nat.le_succ _

theorem length_ready_passTurn (m : Machine) : m.passTurn.ready.length ≤ m.ready.length + 1 := by
  unfold passTurn
  split
  · exact Nat.le_succ _
  · exact length_ready_wake _ _

theorem effort_passTurn (m : Machine) : m.passTurn.effort ≤ m.effort + 1 :=
  effort_of_bare (bare_passTurn m) (length_ready_passTurn m)

theorem effort_giveUpTurn (m : Machine) (i : Nat) : (m.giveUpTurn i).effort ≤ m.effort + 1 := by
  refine effort_of_bare (bare_giveUpTurn m i) ?_
  unfold giveUpTurn
  split
  · exact length_ready_passTurn m
  · exact Nat.le_succ _

/-! ### Moves of a worker -/

theorem Tires.refl (m : Machine) : Tires m m := ⟨Nat.le_refl _, fun _ among => .inl among⟩

/-- A change that costs nothing comes first. -/
theorem Tires.of_before (cheap : x.effort ≤ m.effort) (timers : x.timers = m.timers)
    (now : x.now = m.now) (rest : Tires x m') : Tires m m' where
  effort := rest.effort.trans cheap
  timers := by
    rw [← timers, ← now]
    exact rest.timers

theorem effort_setWorker {p : WorkerPhase} (here : m.workers[i]? = some p) (q : WorkerPhase) :
    (m.setWorker i q).effort + p.effort m.now = m.effort + q.effort m.now := by
  have workers := sum_effort_set here q m.now
  show ((m.workers.set i q).map (WorkerPhase.effort m.now)).sum +
    m.producer.effort m.site.repository.breadth m.now + 9 * m.queue.items.length +
      m.ready.length + _ = _
  rw [Machine.effort]
  omega

theorem effort_proceed {p : WorkerPhase} (here : m.workers[i]? = some p) (q : WorkerPhase) :
    (m.proceed i q).effort + p.effort m.now = m.effort + q.effort m.now + 1 := by
  have set := effort_setWorker here q
  have again_ : (m.proceed i q).effort = (m.setWorker i q).effort + 1 := rfl
  omega

theorem tires_proceed {p q : WorkerPhase} (here : m.workers[i]? = some p)
    (less : q.effort m.now + 1 ≤ p.effort m.now) : Tires m (m.proceed i q) := by
  refine ⟨?_, fun w among => .inl (List.mem_filter.1 among).1⟩
  have proceeds := effort_proceed here q
  omega

theorem tires_waitUntil {p q : WorkerPhase} {time : Nat} (here : m.workers[i]? = some p)
    (less : time ≤ m.now → q.effort m.now + 1 ≤ p.effort m.now)
    (fewer : m.now < time → q.effort m.now ≤ p.effort m.now) : Tires m (m.waitUntil i time q) := by
  unfold waitUntil
  split
  next come => exact tires_proceed here (less come)
  next early =>
    have ahead := Nat.lt_of_not_le early
    refine ⟨?_, fun w among => ?_⟩
    · have set := effort_setWorker here q
      have less := fewer ahead
      have waits : ((m.setWorker i q).wakeAt time (.worker i)).effort = (m.setWorker i q).effort := rfl
      omega
    · obtain old | new := List.mem_append.1 among
      · exact .inl (List.mem_filter.1 old).1
      · obtain rfl := List.mem_singleton.1 new
        exact .inr ahead

theorem effort_noteEnd (m : Machine) : m.noteEnd.effort = m.effort := by
  unfold noteEnd
  split <;> rfl

theorem timers_noteEnd (m : Machine) : m.noteEnd.timers = m.timers := by
  unfold noteEnd
  split <;> rfl

theorem tires_leave {p q : WorkerPhase} (here : m.workers[i]? = some p) (busy : 2 ≤ p.effort m.now)
    (done : q.isOver = true) : Tires m (m.leave i q) := by
  have gaveUp := wakes_giveUpTurn m i
  let left := ((m.giveUpTurn i).forget (.worker i)).setWorker i q
  have nothing : ∀ now, q.effort now = 0 := by
    intro now
    cases q <;> first | rfl | cases done
  have effort_left : left.effort + 1 ≤ m.effort := by
    have here' : ((m.giveUpTurn i).forget (.worker i)).workers[i]? = some p := by
      show (m.giveUpTurn i).workers[i]? = some p
      rw [gaveUp.workers]
      exact here
    have set := effort_setWorker here' q
    have turn := effort_giveUpTurn m i
    have now : ((m.giveUpTurn i).forget (.worker i)).now = m.now := gaveUp.now
    rw [now, nothing] at set
    have less : left.effort + p.effort m.now = (m.giveUpTurn i).effort := set
    omega
  have timers_left : ∀ w ∈ left.timers, w ∈ m.timers := by
    intro w among
    rw [← gaveUp.timers]
    exact (List.mem_filter.1 among).1
  show Tires m (if left.workers.all WorkerPhase.isOver then
    ({ left with queue := { left.queue with read := false } }).wakeProducer else left).noteEnd
  split
  next =>
    have woken := effort_wakeProducer { left with queue := { left.queue with read := false } }
    have same : Machine.effort { left with queue := { left.queue with read := false } } =
        left.effort := rfl
    refine ⟨?_, fun w among => .inl (timers_left w ?_)⟩
    · rw [effort_noteEnd]
      omega
    · rw [timers_noteEnd, (wakes_wakeProducer _).timers] at among
      exact among
  next =>
    refine ⟨?_, fun w among => .inl (timers_left w ?_)⟩
    · rw [effort_noteEnd]
      omega
    · rw [timers_noteEnd] at among
      exact among

/-- An order that is taken from the queue pays for what the worker does with it. -/
theorem tires_take {o : Ticket} {rest : List Ticket} (here : m.workers[i]? = some .receiving)
    (items : m.queue.items = o :: rest) : Tires m (m.take i o rest) := by
  let taken : Machine := { m with queue := { m.queue with items := rest } }
  have paid : taken.effort + 9 = m.effort := by
    have fewer : m.queue.items.length = rest.length + 1 := congrArg List.length items
    show (m.workers.map (WorkerPhase.effort m.now)).sum +
      m.producer.effort m.site.repository.breadth m.now + 9 * rest.length + m.ready.length + 9 = _
    rw [Machine.effort]
    omega
  have woken := (wakes_wakeProducer taken).trans (wakes_passTurn _)
  have producer := effort_wakeProducer taken
  have turn := effort_passTurn taken.wakeProducer
  have here' : taken.wakeProducer.passTurn.workers[i]? = some .receiving := by
    rw [woken.workers]
    exact here
  have proceeds := effort_proceed here' (.atGate (some o))
  refine ⟨?_, fun w among => .inl ?_⟩
  · have three : WorkerPhase.receiving.effort taken.wakeProducer.passTurn.now = 3 := rfl
    have nine : (WorkerPhase.atGate (some o)).effort taken.wakeProducer.passTurn.now = 9 := rfl
    show (taken.wakeProducer.passTurn.proceed i (.atGate (some o))).effort ≤ m.effort
    omega
  · have old := (List.mem_filter.1 among).1
    rw [show (taken.wakeProducer.passTurn.setWorker i (.atGate (some o))).timers = m.timers from
      woken.timers] at old
    exact old

/-- Whichever way a worker goes on, there is no more to do than before. -/
theorem WorkerWay.tires (way : WorkerWay m i m') : Tires m m' := by
  -- who goes on at once to the gate, to the line or to the queue has less to do there
  have onward : ∀ {p q : WorkerPhase} {x : Machine}, m.workers[i]? = some p → x.workers = m.workers →
      x.effort ≤ m.effort → x.timers = m.timers → x.now = m.now →
      q.effort m.now + 1 ≤ p.effort m.now → Tires m (x.proceed i q) := by
    intro p q x here workers cheap timers now less
    refine .of_before cheap timers now (tires_proceed (p := p) ?_ ?_)
    · rw [workers]
      exact here
    · rw [now]
      exact less
  have asleep : ∀ {until_ : Nat} {p : WorkerPhase}, m.now < until_ → ∀ n,
      (if until_ ≤ m.now then n else 0) ≤ p.effort m.now := by
    intro until_ p early n
    rw [if_neg (Nat.not_le.2 early)]
    exact Nat.zero_le _
  cases way with
  | rests unanswered unstored unheard same =>
    rw [same]
    exact Tires.refl m
  | naps held until_ here shut going same =>
    have later := (Gate.deadline?_eq_some_iff.1 shut).2
    rw [same]
    refine tires_waitUntil here (fun come => absurd come (Nat.not_le.2 later)) fun _ => ?_
    rw [WorkerPhase.effort, if_neg (Nat.not_le.2 later)]
    cases held <;> simp [WorkerPhase.effort]
  | rises held until_ here going due same =>
    rw [same]
    refine onward here rfl (Nat.le_refl _) rfl rfl ?_
    rw [show (WorkerPhase.napping held until_).effort m.now = 10 from if_pos due]
    cases held <;> simp [WorkerPhase.effort]
  | walks here same =>
    rw [same]
    exact onward here rfl (Nat.le_refl _) rfl rfl (by simp [WorkerPhase.effort])
  | gets here going same =>
    rw [same]
    exact onward here rfl (Nat.le_refl _) rfl rfl (by simp [WorkerPhase.effort])
  | follows here going same =>
    rw [same]
    exact onward here rfl (Nat.le_refl _) rfl rfl (by simp [WorkerPhase.effort])
  | lines here going same =>
    rw [same]
    refine ⟨?_, fun w among => .inl among⟩
    have set : (m.setWorker i .inLine).effort + 5 = m.effort + 4 := effort_setWorker here .inLine
    show (m.setWorker i .inLine).effort ≤ m.effort
    omega
  | takes o rest here items going same =>
    rw [same]
    exact tires_take here items
  | ends p here idle told same =>
    rw [same]
    refine tires_leave here ?_ rfl
    cases p with
    | ended | lost | calling | storing => cases idle
    | atGate held => cases held <;> simp [WorkerPhase.effort]
    | napping held until_ =>
      rw [WorkerPhase.effort]
      split <;> omega
    | _ => simp [WorkerPhase.effort]
  | calls o here opened unraised same =>
    rw [same]
    refine .of_before (x := { m with site := (m.site.ask m.now o.number).2 })
      (Nat.le_refl _) rfl rfl ?_
    refine tires_waitUntil here (fun come => ?_) fun early => asleep early 8
    rw [WorkerPhase.effort, if_pos come]
    exact Nat.le_refl _
  | lets held reply until_ outcome here due decided same =>
    rw [same]
    refine onward here rfl (Nat.le_refl _) rfl rfl ?_
    rw [show (WorkerPhase.calling held reply until_).effort m.now = 8 from if_pos due]
    exact Nat.le_succ 7
  | defers held reply until_ wait gate here due decided fits same =>
    rw [same]
    refine onward here rfl (Nat.le_refl _) rfl rfl ?_
    rw [show (WorkerPhase.calling held reply until_).effort m.now = 8 from if_pos due]
    exact Nat.le_succ 7
  | loses held reply until_ wait here due decided beyond same =>
    have busy : (WorkerPhase.calling held reply until_).effort m.now = 8 := if_pos due
    rw [same]
    exact tires_leave here (by omega) rfl
  | requests held reply until_ r here due decided same =>
    have busy : (WorkerPhase.calling held reply until_).effort m.now = 8 := if_pos due
    rw [same]
    refine .of_before (x := { m with site := m.site.note m.now (.store r) }) (Nat.le_refl _) rfl rfl ?_
    refine tires_waitUntil here (fun come => ?_) fun early => asleep early 7
    rw [busy, WorkerPhase.effort, if_pos come]
  | stores r until_ here due same =>
    have cheap : Machine.effort { m with site := (m.site.answer r).2 } = m.effort := by
      rw [Machine.effort, Machine.effort, ← m.site.repository.breadth_answer r]
      rfl
    rw [same]
    exact onward here rfl (Nat.le_of_eq cheap) rfl rfl (Nat.le_of_eq (if_pos due).symm)

/-! ### Moves of the producer -/

theorem effort_setProducer (m : Machine) (site : Site) (p : ProducerPhase) :
    Machine.effort { m with site, producer := p } +
        m.producer.effort m.site.repository.breadth m.now =
      m.effort + p.effort site.repository.breadth m.now := by
  show (m.workers.map (WorkerPhase.effort m.now)).sum +
    p.effort site.repository.breadth m.now + 9 * m.queue.items.length + m.ready.length + _ = _
  rw [Machine.effort]
  omega

theorem tires_answered {p : ProducerPhase} {site : Site}
    (less : p.effort site.repository.breadth m.now + 1 ≤
      m.producer.effort m.site.repository.breadth m.now) :
    Tires m (({ m with site }).produce p) := by
  refine ⟨?_, fun w among => .inl (List.mem_filter.1 among).1⟩
  have set := effort_setProducer m site p
  have again_ : (({ m with site }).produce p).effort =
      Machine.effort { m with site, producer := p } + 1 := rfl
  omega

theorem tires_produce {p : ProducerPhase}
    (less : p.effort m.site.repository.breadth m.now + 1 ≤
      m.producer.effort m.site.repository.breadth m.now) : Tires m (m.produce p) :=
  tires_answered less

theorem tires_produceAt {p : ProducerPhase} {time : Nat}
    (less : time ≤ m.now → p.effort m.site.repository.breadth m.now + 1 ≤
      m.producer.effort m.site.repository.breadth m.now)
    (fewer : m.now < time → p.effort m.site.repository.breadth m.now ≤
      m.producer.effort m.site.repository.breadth m.now) : Tires m (m.produceAt time p) := by
  unfold produceAt
  split
  next come => exact tires_produce (less come)
  next early =>
    have ahead := Nat.lt_of_not_le early
    refine ⟨?_, fun w among => ?_⟩
    · have set := effort_setProducer m m.site p
      have less := fewer ahead
      have waits : (({ m with producer := p }).wakeAt time .producer).effort =
          Machine.effort { m with producer := p } := rfl
      omega
    · obtain old | new := List.mem_append.1 among
      · exact .inl (List.mem_filter.1 old).1
      · obtain rfl := List.mem_singleton.1 new
        exact .inr ahead

theorem tires_leaveProducer {p : ProducerPhase}
    (busy : 1 ≤ m.producer.effort m.site.repository.breadth m.now) (done : p.isOver = true) :
    Tires m (m.leaveProducer p) := by
  let left := ({ m with producer := p, queue := { m.queue with fed := false } }).forget .producer
  have nothing : p.effort m.site.repository.breadth m.now = 0 := by
    cases p <;> first | rfl | cases done
  have set := effort_setProducer m m.site p
  have same : left.effort = Machine.effort { m with producer := p } := rfl
  have woken := effort_wakeReceiver left
  refine ⟨?_, fun w among => .inl ?_⟩
  · show left.wakeReceiver.noteEnd.effort ≤ m.effort
    rw [effort_noteEnd]
    omega
  · have old : w ∈ left.wakeReceiver.noteEnd.timers := among
    rw [timers_noteEnd, (wakes_wakeReceiver left).timers] at old
    exact (List.mem_filter.1 old).1

/-- An order that is put on the queue pays for what comes of it. -/
theorem tires_push {o : Ticket} {batch : List Ticket} {next : Nat}
    (here : m.producer = .pushing (o :: batch) next) :
    Tires m ({ m with queue := { m.queue with items := m.queue.items ++ [o] } }.wakeReceiver.produce
      (.pushing batch next)) := by
  let put : Machine := { m with queue := { m.queue with items := m.queue.items ++ [o] } }
  have more : put.effort = m.effort + 9 := by
    have longer : (m.queue.items ++ [o]).length = m.queue.items.length + 1 := List.length_append
    rw [Machine.effort, Machine.effort]
    show (m.workers.map (WorkerPhase.effort m.now)).sum +
      m.producer.effort m.site.repository.breadth m.now +
        9 * (m.queue.items ++ [o]).length + m.ready.length = _
    rw [longer]
    omega
  have woken := wakes_wakeReceiver put
  let waking := put.wakeReceiver
  have receiver : waking.effort ≤ put.effort + 1 := effort_wakeReceiver put
  have set := effort_setProducer waking waking.site (.pushing batch next)
  have shorter : waking.producer.effort waking.site.repository.breadth waking.now =
      (ProducerPhase.pushing batch next).effort waking.site.repository.breadth waking.now + 11 := by
    rw [show waking.producer = .pushing (o :: batch) next from woken.producer.trans here]
    show 11 * (batch.length + 1) + 1 + _ = 11 * batch.length + 1 + _ + 11
    omega
  refine ⟨?_, fun w among => .inl ?_⟩
  · have again_ : (waking.produce (.pushing batch next)).effort =
        Machine.effort { waking with producer := .pushing batch next } + 1 := rfl
    show (waking.produce (.pushing batch next)).effort ≤ m.effort
    omega
  · have old : w ∈ put.wakeReceiver.timers := (List.mem_filter.1 among).1
    rw [woken.timers] at old
    exact old

/-- A pipeline without an interval between its ticks does not come to its first one. -/
def Paced (m : Machine) : Prop :=
  m.polling.interval = 0 → m.producer = .starting ∨ m.producer.isOver = true

/-- Whichever way the producer goes on, there is no more to do than before. -/
theorem ProducerWay.tires (way : ProducerWay m m') (paced : m.Paced) : Tires m m' := by
  have breadth := m.site.repository.breadth_list OrderStatus.pending m.polling.batch
  have busy : ∀ {next until_}, m.producer = .listing next until_ → until_ ≤ m.now →
      m.producer.effort m.site.repository.breadth m.now =
        11 * m.site.repository.breadth + 2 + tickEffort m.site.repository.breadth next m.now := by
    intro next until_ here due
    rw [here]
    exact if_pos due
  cases way with
  | rests done same =>
    rw [same]
    exact Tires.refl m
  | listens next until_ here early same =>
    rw [same]
    exact Tires.refl m
  | blocks o batch next here going full same =>
    rw [same]
    exact Tires.refl m
  | starts here interval same =>
    rw [same]
    refine tires_produce ?_
    rw [here, ProducerPhase.effort, ProducerPhase.effort, Nat.add_comm]
  | fails here interval same =>
    rw [same]
    refine tires_leaveProducer ?_ rfl
    rw [here, ProducerPhase.effort]
    omega
  | stops here told same =>
    rw [same]
    refine tires_leaveProducer ?_ rfl
    obtain ⟨scheduled, here⟩ | ⟨o, batch, next, here⟩ := here
    · rw [here, ProducerPhase.effort, tickEffort]
      omega
    · rw [here, ProducerPhase.effort]
      omega
  | hangs o batch next here going unread same =>
    rw [same]
    refine tires_leaveProducer ?_ rfl
    rw [here, ProducerPhase.effort]
    omega
  | waits scheduled here going early same =>
    rw [same]
    refine tires_produceAt (fun come => absurd come (Nat.not_le.2 early)) fun _ => ?_
    rw [here]
  | asks scheduled here going due same =>
    have interval : m.polling.interval ≠ 0 := by
      intro none_
      obtain starting | done := paced none_
      · cases here.symm.trans starting
      · rw [here] at done
        cases done
    -- the tick pays for the listing that it brings
    have fewer := Nat.mul_le_mul_right (11 * m.site.repository.breadth + 5) (ticksDue_next interval due)
    rw [Nat.succ_mul] at fewer
    have busy : m.producer.effort m.site.repository.breadth m.now =
        3 + ticksDue scheduled m.now * (11 * m.site.repository.breadth + 5) := by
      rw [here]
      rfl
    rw [same]
    refine .of_before (x := { m with
      site := m.site.note m.now (.list OrderStatus.pending m.polling.batch) })
      (Nat.le_refl _) rfl rfl ?_
    refine tires_produceAt (fun come => ?_) fun early => ?_
    · show (if _ then _ else _) + 1 ≤ m.producer.effort m.site.repository.breadth m.now
      rw [if_pos come, busy]
      show 11 * m.site.repository.breadth + 2 + (3 + ticksDue (m.polling.next scheduled m.now)
        m.now * (11 * m.site.repository.breadth + 5)) + 1 ≤ _
      omega
    · show (if _ then _ else _) ≤ m.producer.effort m.site.repository.breadth m.now
      rw [if_neg (Nat.not_le.2 early)]
      exact Nat.zero_le _
  | misses next until_ cause here due listed same =>
    have later := tickEffort_mono breadth.1 next m.now
    rw [same]
    refine tires_answered ?_
    rw [busy here due]
    show tickEffort (m.site.repository.list OrderStatus.pending m.polling.batch).2.breadth next
      m.now + 1 ≤ _
    omega
  | lists next until_ batch here due listed same =>
    have later := tickEffort_mono breadth.1 next m.now
    have size := breadth.2 batch listed
    rw [same]
    refine tires_answered ?_
    rw [busy here due]
    show 11 * batch.length + 1 + tickEffort
      (m.site.repository.list OrderStatus.pending m.polling.batch).2.breadth next m.now + 1 ≤ _
    omega
  | finishes next here same =>
    rw [same]
    refine tires_produce ?_
    rw [here]
    show tickEffort _ _ _ + 1 ≤ 11 * 0 + 1 + tickEffort _ _ _
    omega
  | pushes o batch next here going read room same =>
    rw [same]
    exact tires_push here

/-- A move leaves no more to do. -/
theorem tires_moveTask (paced : m.Paced) (t : Task) : Tires m (m.moveTask t) := by
  cases t with
  | producer => exact (producerWay_moveProducer m).tires paced
  | worker i => exact (workerWay_moveWorker m i).tires

/-! ### Patience -/

theorem foldl_ordersIn (answers : List (Except Failure (List Ticket))) (total : Nat) :
    answers.foldl (fun total a => match a with
      | .ok batch => total + batch.length
      | .error _ => total) total = total + (answers.map ordersIn).sum := by
  induction answers generalizing total with
  | nil => rfl
  | cons a rest ih =>
    rw [List.foldl_cons, ih, List.map_cons, List.sum_cons, ← Nat.add_assoc]
    cases a <;> rfl

theorem patience_eq (m : Machine) : m.patience =
    100 * ((m.workers.length + m.ready.length + 2) *
      (m.queue.items.length + m.producer.unpushed + m.site.repository.scripted +
        m.site.repository.orders.length + 2)) := by
  rw [← Nat.mul_assoc]
  unfold patience Repository.scripted
  cases m.site.repository.listings with
  | none => rfl
  | some answers =>
    have total := foldl_ordersIn answers 0
    rw [Nat.zero_add] at total
    exact congrArg (fun n => 100 * (m.workers.length + m.ready.length + 2) *
      (m.queue.items.length + m.producer.unpushed + n + m.site.repository.orders.length + 2)) total

/-- There is patience for all the moves that are left. -/
theorem effort_le_patience (m : Machine) : m.effort ≤ m.patience := by
  have workers : (m.workers.map (WorkerPhase.effort m.now)).sum ≤ m.workers.length * 10 := by
    have bound := List.sum_le_card_nsmul (m.workers.map (WorkerPhase.effort m.now)) 10
    rw [List.length_map, smul_eq_mul] at bound
    refine bound fun n among => ?_
    obtain ⟨p, -, rfl⟩ := List.mem_map.1 among
    exact p.effort_le m.now
  have producer := m.producer.effort_le m.site.repository.breadth m.now
  have breadth : m.site.repository.breadth =
      m.site.repository.orders.length + m.site.repository.scripted := rfl
  have product : ∀ a b : Nat, a + 2 + (b + 2) ≤ (a + 2) * (b + 2) :=
    fun a b => add_le_mul (Nat.le_add_left 2 a) (Nat.le_add_left 2 b)
  have bound := product (m.workers.length + m.ready.length)
    (m.queue.items.length + m.producer.unpushed + m.site.repository.scripted +
      m.site.repository.orders.length)
  rw [patience_eq, effort]
  omega

end

end Machine

end Loyalty.Pipeline
