import Loyalty.Proofs.Pipeline.Traffic

/-!
# What a task waits for

A task waits for its timer, for the answer to a call, for its turn, or for the queue. A move is followed
here with its schedule, which `WorkerMove` and `ProducerMove` leave out: `Moved` says that all other tasks
keep their wishes, and that the task that has moved is not forgotten (`Attended`): if it waits for the
answer to a call it is to be woken when that comes, and if there is anything that it must do before it may
stop it is runnable.

Main statements: `moved_moveWorker` and `moved_moveProducer`, for every move in every state.
-/

namespace Loyalty.Pipeline

inductive Phase where
  | worker (p : WorkerPhase)
  | producer (p : ProducerPhase)

/-- When the call that the task waits for is answered. -/
def Phase.due : Phase → Option Nat
  | .worker (.calling _ _ until_) | .worker (.storing _ until_) => some until_
  | .producer (.listing _ until_) => some until_
  | _ => none

def Phase.isOver : Phase → Bool
  | .worker p => p.isOver
  | .producer p => p.isOver

theorem Phase.due_of_isOver {p : Phase} (done : p.isOver = true) : p.due = none := by
  cases p with
  | worker p => cases p <;> first | rfl | cases done
  | producer p => cases p <;> first | rfl | cases done

def Phase.isAtGate : Phase → Bool
  | .worker (.atGate _) => true
  | _ => false

namespace Machine

def phase? (m : Machine) : Task → Option Phase
  | .producer => some (.producer m.producer)
  | .worker i => m.workers[i]?.map Phase.worker

/-- The task is not forgotten: who waits for an answer is woken when it comes, and who is at the gate, or
has anything else to do before it may stop, is runnable. -/
structure Attended (m : Machine) (t : Task) : Prop where
  due : ∀ p u, m.phase? t = some p → p.due = some u →
    (m.now < u ∧ (u, t) ∈ m.timers) ∨ (u = m.now ∧ t ∈ m.ready)
  idle : ∀ p, m.phase? t = some p → p.due = none → p.isOver = false →
    (m.control.stop.isStopped = true ∨ p.isAtGate = true) → t ∈ m.ready

section

variable {m m' x : Machine} {t : Task} {i : Nat}

theorem phase?_worker {p : WorkerPhase} (here : m.workers[i]? = some p) :
    m.phase? (.worker i) = some (.worker p) :=
  congrArg (Option.map Phase.worker) here

theorem phase?_producer {p : ProducerPhase} (here : m.producer = p) :
    m.phase? .producer = some (.producer p) :=
  congrArg (some ∘ Phase.producer) here

/-- A runnable task is not forgotten, unless it should have run before. -/
theorem attended_of_ready (runnable : t ∈ m.ready)
    (due : ∀ p u, m.phase? t = some p → p.due = some u → u = m.now) : m.Attended t where
  due := fun p u here comes => .inr ⟨due p u here comes, runnable⟩
  idle := fun _ _ _ _ _ => runnable

theorem attended_of_isOver {p : Phase} (here : m.phase? t = some p) (done : p.isOver = true) :
    m.Attended t := by
  constructor
  · intro p' u here' comes
    obtain rfl := Option.some.inj (here.symm.trans here')
    rw [Phase.due_of_isOver done] at comes
    cases comes
  · intro p' here' _ awake
    obtain rfl := Option.some.inj (here.symm.trans here')
    rw [done] at awake
    cases awake

theorem isOver_of_worker {p : WorkerPhase} (here : m.workers[i]? = some p)
    (awake : p.isOver = false) : m.isOver = false := by
  have among := List.mem_of_getElem? here
  rw [isOver, Bool.and_eq_false_iff]
  right
  rw [List.all_eq_false]
  exact ⟨p, among, by simp [awake]⟩

theorem isOver_of_producer (awake : m.producer.isOver = false) : m.isOver = false := by
  rw [isOver, awake]
  rfl

theorem phase?_congr (workers : m'.workers = m.workers) (producer : m'.producer = m.producer)
    (t : Task) : m'.phase? t = m.phase? t := by
  cases t with
  | producer => rw [Machine.phase?, producer, Machine.phase?]
  | worker i => rw [Machine.phase?, workers, Machine.phase?]

theorem isOver_congr (workers : m'.workers = m.workers) (producer : m'.producer = m.producer) :
    m'.isOver = m.isOver := by
  rw [Machine.isOver, workers, producer, Machine.isOver]

/-- A machine is over when all its tasks are. -/
theorem isOver_iff : m.isOver = true ↔ ∀ t p, m.phase? t = some p → p.isOver = true := by
  constructor
  · intro done t p here
    refine eq_true_of_ne_false fun awake => ?_
    have going : m.isOver = false := by
      cases t with
      | producer =>
        cases here
        exact isOver_of_producer awake
      | worker i =>
        obtain ⟨q, there, rfl⟩ := Option.map_eq_some_iff.1 here
        exact isOver_of_worker there awake
    exact absurd (going.symm.trans done) Bool.false_ne_true
  · intro all
    rw [isOver, Bool.and_eq_true, List.all_eq_true]
    refine ⟨all .producer _ rfl, fun p among => ?_⟩
    obtain ⟨i, here⟩ := List.mem_iff_getElem?.1 among
    exact all (.worker i) (.worker p) (phase?_worker here)

/-! ### Waking others -/

/-- What waking tasks makes of a machine: some are runnable that were not. -/
structure Wakes (m m' : Machine) : Prop where
  ready : m.ready ⊆ m'.ready
  timers : m'.timers = m.timers
  endedAt : m'.endedAt = m.endedAt
  now : m'.now = m.now
  workers : m'.workers = m.workers
  producer : m'.producer = m.producer

theorem Wakes.refl (m : Machine) : Wakes m m :=
  ⟨List.Subset.refl _, rfl, rfl, rfl, rfl, rfl⟩

/-- Nobody waits for these to change. -/
theorem wakes_turn (m : Machine) (turn : Turn) : Wakes m { m with turn } :=
  ⟨List.Subset.refl _, rfl, rfl, rfl, rfl, rfl⟩

theorem wakes_queue (m : Machine) (queue : Queue) : Wakes m { m with queue } :=
  ⟨List.Subset.refl _, rfl, rfl, rfl, rfl, rfl⟩

theorem wakes_site (m : Machine) (site : Site) : Wakes m { m with site } :=
  ⟨List.Subset.refl _, rfl, rfl, rfl, rfl, rfl⟩

theorem wakes_control (m : Machine) (control : Control) : Wakes m { m with control } :=
  ⟨List.Subset.refl _, rfl, rfl, rfl, rfl, rfl⟩

theorem Wakes.trans (first : Wakes m x) (second : Wakes x m') : Wakes m m' where
  ready := List.Subset.trans first.ready second.ready
  timers := second.timers.trans first.timers
  endedAt := second.endedAt.trans first.endedAt
  now := second.now.trans first.now
  workers := second.workers.trans first.workers
  producer := second.producer.trans first.producer

theorem Wakes.isOver (wakes : Wakes m m') : m'.isOver = m.isOver :=
  isOver_congr wakes.workers wakes.producer

theorem Wakes.phase? (wakes : Wakes m m') (t : Task) : m'.phase? t = m.phase? t :=
  phase?_congr wakes.workers wakes.producer t

theorem Wakes.inside (wakes : Wakes m m') (inside : i < m.workers.length) :
    i < m'.workers.length := by
  rw [wakes.workers]
  exact inside

theorem wakes_wake (m : Machine) (t : Task) : Wakes m (m.wake t) := by
  unfold wake
  split
  · exact Wakes.refl m
  · exact ⟨List.subset_append_left _ _, rfl, rfl, rfl, rfl, rfl⟩

theorem mem_ready_wake (m : Machine) (t : Task) : t ∈ (m.wake t).ready := by
  unfold wake
  split
  next already => exact already
  next => exact List.mem_append_right _ (List.mem_singleton_self t)

theorem wakes_foldl_wake (ts : List Task) (m : Machine) : Wakes m (ts.foldl wake m) := by
  induction ts generalizing m with
  | nil => exact Wakes.refl m
  | cons t ts ih => exact (wakes_wake m t).trans (ih (m.wake t))

theorem mem_ready_foldl_wake {ts : List Task} (among : t ∈ ts) (m : Machine) :
    t ∈ (ts.foldl wake m).ready := by
  induction ts generalizing m with
  | nil => cases among
  | cons s ts ih =>
    obtain rfl | among := List.mem_cons.1 among
    · exact (wakes_foldl_wake ts (m.wake t)).ready (mem_ready_wake m t)
    · exact ih among (m.wake s)

/-- The clock goes to a time at which tasks are woken. -/
theorem wakes_jump (m : Machine) (time : Nat) :
    Wakes { m with now := time, timers := m.timers.filter fun w => !(w.1 ≤ time : Bool) }
      (m.jump time) :=
  wakes_foldl_wake _ _

theorem timers_jump (m : Machine) (time : Nat) :
    (m.jump time).timers = m.timers.filter fun w => !(w.1 ≤ time : Bool) :=
  (wakes_jump m time).timers

theorem wakeAll_eq_foldl (m : Machine) :
    m.wakeAll = (.producer :: (List.range m.workers.length).map Task.worker).foldl wake m := by
  rw [wakeAll, List.foldl_cons, List.foldl_map]

theorem wakes_wakeAll (m : Machine) : Wakes m m.wakeAll := by
  rw [wakeAll_eq_foldl]
  exact wakes_foldl_wake _ m

/-- Every task is woken by the switch. -/
theorem mem_ready_wakeAll {p : Phase} (here : m.phase? t = some p) : t ∈ m.wakeAll.ready := by
  rw [wakeAll_eq_foldl]
  refine mem_ready_foldl_wake ?_ m
  cases t with
  | producer => exact List.mem_cons_self
  | worker i =>
    obtain ⟨q, here, -⟩ := Option.map_eq_some_iff.1 here
    have inside := (List.getElem?_eq_some_iff.1 here).1
    exact List.mem_cons_of_mem _ (List.mem_map_of_mem (List.mem_range.2 inside))

theorem wakes_wakeProducer (m : Machine) : Wakes m m.wakeProducer := by
  unfold wakeProducer
  split
  · exact wakes_wake m _
  · exact Wakes.refl m

theorem wakes_wakeReceiver (m : Machine) : Wakes m m.wakeReceiver := by
  unfold wakeReceiver
  split
  · exact wakes_wake m _
  · exact Wakes.refl m

theorem wakes_passTurn (m : Machine) : Wakes m m.passTurn := by
  unfold passTurn
  split
  next => exact wakes_turn m _
  next j line _ => exact (wakes_turn m ⟨some j, line⟩).trans (wakes_wake _ _)

theorem wakes_giveUpTurn (m : Machine) (i : Nat) : Wakes m (m.giveUpTurn i) := by
  unfold giveUpTurn
  split
  · exact wakes_passTurn m
  · exact wakes_turn m _

/-! ### One move with its schedule -/

/-- What a move of a task makes of the schedule: the other tasks keep their wishes, the task that has
moved is not forgotten, and the time is noted if it was the last to be over. -/
structure Moved (t : Task) (m m' : Machine) : Prop where
  ready : ∀ s ∈ m.ready, s ≠ t → s ∈ m'.ready
  timers : ∀ w ∈ m.timers, w.2 ≠ t → w ∈ m'.timers
  own : m'.Attended t
  ended : m'.endedAt = if m.endedAt.isNone && m'.isOver then some m.now else m.endedAt

theorem Moved.of_wakes (wakes : Wakes m x) (moved : Moved t x m') : Moved t m m' where
  ready := fun s among other => moved.ready s (wakes.ready among) other
  timers := fun w among other => moved.timers w (by rw [wakes.timers]; exact among) other
  own := moved.own
  ended := by rw [moved.ended, wakes.endedAt, wakes.now]

/-- Nothing happens to a machine of which it is known whether it is over. -/
theorem moved_self (told : m.endedAt.isSome = m.isOver) (own : m.Attended t) : Moved t m m := by
  refine ⟨fun _ among _ => among, fun _ among _ => among, own, ?_⟩
  rw [← told]
  cases m.endedAt <;> rfl

theorem phase?_setWorker (inside : i < m.workers.length) (p : WorkerPhase) :
    (m.setWorker i p).phase? (.worker i) = some (.worker p) := by
  show ((m.workers.set i p)[i]?).map Phase.worker = _
  rw [List.getElem?_set_self inside]
  rfl

theorem isOver_setWorker (inside : i < m.workers.length) {p : WorkerPhase}
    (awake : p.isOver = false) : (m.setWorker i p).isOver = false :=
  isOver_of_worker (List.getElem?_set_self inside) awake

/-- The worker goes on at once. -/
theorem moved_proceed (inside : i < m.workers.length) {p : WorkerPhase} (awake : p.isOver = false)
    (due : ∀ u, (Phase.worker p).due = some u → u = m.now) :
    Moved (.worker i) m (m.proceed i p) := by
  have over_ : (m.proceed i p).isOver = false := isOver_setWorker inside awake
  refine ⟨fun s among _ => List.mem_cons_of_mem _ among,
    fun w among other => List.mem_filter.2 ⟨among, decide_eq_true other⟩, ?_, ?_⟩
  · refine attended_of_ready List.mem_cons_self fun q u here comes => ?_
    have here' : (m.proceed i p).phase? (.worker i) = some (.worker p) := phase?_setWorker inside p
    obtain rfl := Option.some.inj (here'.symm.trans here)
    exact due u comes
  · rw [over_, Bool.and_false]
    rfl

/-- The worker waits, to be woken at a time. -/
theorem moved_wakeAt (inside : i < m.workers.length) {p : WorkerPhase} (awake : p.isOver = false)
    {time : Nat} (ahead : m.now < time)
    (for_ : (Phase.worker p).due = some time ∨
      (Phase.worker p).due = none ∧ m.control.stop.isStopped = false ∧
        (Phase.worker p).isAtGate = false) :
    Moved (.worker i) m ((m.setWorker i p).wakeAt time (.worker i)) := by
  have over_ : ((m.setWorker i p).wakeAt time (.worker i)).isOver = false :=
    isOver_setWorker inside awake
  have here : ((m.setWorker i p).wakeAt time (.worker i)).phase? (.worker i) = some (.worker p) :=
    phase?_setWorker inside p
  refine ⟨fun s among _ => among, fun w among other => List.mem_append_left _
    (List.mem_filter.2 ⟨among, decide_eq_true other⟩), ⟨?_, ?_⟩, ?_⟩
  · intro q u here' comes
    obtain rfl := Option.some.inj (here.symm.trans here')
    obtain due | ⟨none_, -⟩ := for_
    · obtain rfl := Option.some.inj (due.symm.trans comes)
      exact .inl ⟨ahead, List.mem_append_right _ (List.mem_singleton_self _)⟩
    · rw [none_] at comes
      cases comes
  · intro q here' free _ told
    obtain rfl := Option.some.inj (here.symm.trans here')
    obtain due | ⟨-, going, inside⟩ := for_
    · rw [due] at free
      cases free
    · obtain stopped | atGate := told
      · exact absurd (going.symm.trans stopped) Bool.false_ne_true
      · exact absurd (inside.symm.trans atGate) Bool.false_ne_true
  · rw [over_, Bool.and_false]
    rfl

/-- The worker waits for the answer to a call. -/
theorem moved_waitUntil (inside : i < m.workers.length) {p : WorkerPhase}
    (awake : p.isOver = false) {time : Nat} (later : m.now ≤ time)
    (due : (Phase.worker p).due = some time) :
    Moved (.worker i) m (m.waitUntil i time p) := by
  unfold waitUntil
  split
  next come =>
    refine moved_proceed inside awake fun u comes => ?_
    obtain rfl := Option.some.inj (due.symm.trans comes)
    exact Nat.le_antisymm come later
  next ahead => exact moved_wakeAt inside awake (Nat.lt_of_not_le ahead) (.inl due)

theorem attended_noteEnd (own : m.Attended t) : m.noteEnd.Attended t := by
  unfold noteEnd
  split
  · exact ⟨own.due, own.idle⟩
  · exact own

theorem isOver_noteEnd (m : Machine) : m.noteEnd.isOver = m.isOver := by
  unfold noteEnd
  split <;> rfl

/-- A task is over. -/
theorem moved_noteEnd (ready : ∀ s ∈ m.ready, s ≠ t → s ∈ x.ready)
    (timers : ∀ w ∈ m.timers, w.2 ≠ t → w ∈ x.timers) (own : x.Attended t)
    (endedAt : x.endedAt = m.endedAt) (now : x.now = m.now) : Moved t m x.noteEnd := by
  have schedule : x.noteEnd.ready = x.ready ∧ x.noteEnd.timers = x.timers := by
    unfold noteEnd
    split <;> exact ⟨rfl, rfl⟩
  refine ⟨?_, ?_, attended_noteEnd own, ?_⟩
  · rw [schedule.1]
    exact ready
  · rw [schedule.2]
    exact timers
  · rw [isOver_noteEnd, ← endedAt, ← now]
    unfold noteEnd
    split <;> rfl

/-- The worker is over. -/
theorem moved_leave (inside : i < m.workers.length) {p : WorkerPhase} (done : p.isOver = true) :
    Moved (.worker i) m (m.leave i p) := by
  let left := ((m.giveUpTurn i).forget (.worker i)).setWorker i p
  have gaveUp := wakes_giveUpTurn m i
  have ready : ∀ s ∈ m.ready, s ≠ .worker i → s ∈ left.ready := fun s among _ => gaveUp.ready among
  have timers : ∀ w ∈ m.timers, w.2 ≠ .worker i → w ∈ left.timers := by
    intro w among other
    refine List.mem_filter.2 ⟨?_, decide_eq_true other⟩
    rw [gaveUp.timers]
    exact among
  have inside' : i < (m.giveUpTurn i).workers.length := by
    rw [gaveUp.workers]
    exact inside
  have here : left.phase? (.worker i) = some (.worker p) :=
    phase?_setWorker (m := (m.giveUpTurn i).forget (.worker i)) inside' p
  show Moved (.worker i) m (if left.workers.all WorkerPhase.isOver then
    ({ left with queue := { left.queue with read := false } }).wakeProducer else left).noteEnd
  split
  next =>
    have woken := (wakes_queue left { left.queue with read := false }).trans (wakes_wakeProducer _)
    refine moved_noteEnd (fun s among other => woken.ready (ready s among other))
      (fun w among other => ?_) (attended_of_isOver ((woken.phase? _).trans here) done)
      (woken.endedAt.trans gaveUp.endedAt) (woken.now.trans gaveUp.now)
    rw [woken.timers]
    exact timers w among other
  next =>
    exact moved_noteEnd ready timers (attended_of_isOver here done) gaveUp.endedAt gaveUp.now

/-- A worker that has nothing to do before somebody wakes it. -/
theorem attended_of_idle {p : WorkerPhase} (here : m.workers[i]? = some p)
    (free : (Phase.worker p).due = none) (going : m.control.stop.isStopped = false)
    (inside : (Phase.worker p).isAtGate = false) : m.Attended (.worker i) := by
  have here' := phase?_worker here
  constructor
  · intro q u there comes
    obtain rfl := Option.some.inj (here'.symm.trans there)
    rw [free] at comes
    cases comes
  · intro q there _ _ told
    obtain rfl := Option.some.inj (here'.symm.trans there)
    obtain stopped | atGate := told
    · exact absurd (going.symm.trans stopped) Bool.false_ne_true
    · exact absurd (inside.symm.trans atGate) Bool.false_ne_true

/-- A task that waits for an answer that is still to come. -/
theorem attended_of_early {p : Phase} {u : Nat} (here : m.phase? t = some p)
    (due : p.due = some u) (early : m.now < u) (set : (u, t) ∈ m.timers) : m.Attended t := by
  constructor
  · intro q v there comes
    obtain rfl := Option.some.inj (here.symm.trans there)
    obtain rfl := Option.some.inj (due.symm.trans comes)
    exact .inl ⟨early, set⟩
  · intro q there free
    obtain rfl := Option.some.inj (here.symm.trans there)
    rw [due] at free
    cases free

/-- Whichever way a worker goes on, it is not forgotten. -/
theorem WorkerWay.moved (way : WorkerWay m i m') (told : m.endedAt.isSome = m.isOver)
    (set : ∀ p u, m.phase? (.worker i) = some p → p.due = some u → m.now < u →
      (u, .worker i) ∈ m.timers) : Moved (.worker i) m m' := by
  have inside : ∀ {p}, m.workers[i]? = some p → i < m.workers.length :=
    fun here => (List.getElem?_eq_some_iff.1 here).1
  cases way with
  | rests unanswered unstored unheard same =>
    rw [same]
    apply moved_self told
    cases here : m.workers[i]? with
    | none =>
      have nobody : m.phase? (.worker i) = none := by
        rw [phase?, here]
        rfl
      exact ⟨by simp [nobody], by simp [nobody]⟩
    | some p =>
      have phase := phase?_worker here
      cases p with
      | ended | lost => exact attended_of_isOver phase rfl
      | atGate held => exact absurd rfl ((unheard _ here rfl).2 held)
      | napping | asking | inLine | receiving =>
        exact attended_of_idle here rfl (unheard _ here rfl).1 rfl
      | calling held reply until_ =>
        have ahead := unanswered held reply until_ here
        exact attended_of_early phase rfl ahead (set _ until_ phase rfl ahead)
      | storing r until_ =>
        have ahead := unstored r until_ here
        exact attended_of_early phase rfl ahead (set _ until_ phase rfl ahead)
  | naps held until_ here shut going same =>
    have later := (Gate.deadline?_eq_some_iff.1 shut).2
    rw [same, waitUntil, if_neg (Nat.not_le.2 later)]
    exact moved_wakeAt (inside here) rfl later (.inr ⟨rfl, going, rfl⟩)
  | lines here going same =>
    -- the worker waits for its turn and is not to be woken before
    have over_ : (m.setWorker i .inLine).isOver = false := isOver_setWorker (inside here) rfl
    rw [same]
    refine ⟨fun _ among _ => among, fun _ among _ => among, ?_, ?_⟩
    · exact attended_of_idle (List.getElem?_set_self (inside here)) rfl going rfl
    · show m.endedAt = if m.endedAt.isNone && (m.setWorker i .inLine).isOver then _ else _
      rw [over_, Bool.and_false]
      rfl
  | takes o rest here items going same =>
    have taken := wakes_queue m { m.queue with items := rest }
    have passed := (taken.trans (wakes_wakeProducer _)).trans (wakes_passTurn _)
    rw [same]
    exact .of_wakes passed (moved_proceed (passed.inside (inside here)) rfl nofun)
  | ends p here idle told' same =>
    rw [same]
    exact moved_leave (inside here) rfl
  | loses held reply until_ wait here due decided beyond same =>
    rw [same]
    exact moved_leave (inside here) rfl
  | calls o here opened unraised same =>
    have asked := wakes_site m (m.site.ask m.now o.number).2
    rw [same]
    exact .of_wakes asked (moved_waitUntil (asked.inside (inside here)) rfl (Nat.le_add_right _ _) rfl)
  | requests held reply until_ r here due decided same =>
    have noted := wakes_site m (m.site.note m.now (.store r))
    rw [same]
    exact .of_wakes noted (moved_waitUntil (noted.inside (inside here)) rfl (Nat.le_add_right _ _) rfl)
  | rises held until_ here going due same =>
    rw [same]
    exact moved_proceed (inside here) rfl nofun
  | walks here same | follows here going same =>
    rw [same]
    exact moved_proceed (inside here) rfl nofun
  | lets held reply until_ outcome here due decided same =>
    rw [same]
    exact moved_proceed (inside here) rfl nofun
  | gets here going same =>
    have turned := wakes_turn m { m.turn with holder := some i }
    rw [same]
    exact .of_wakes turned (moved_proceed (turned.inside (inside here)) rfl nofun)
  | defers held reply until_ wait gate here due decided fits same =>
    have shut := wakes_control m { m.control with gate }
    rw [same]
    exact .of_wakes shut (moved_proceed (shut.inside (inside here)) rfl nofun)
  | stores r until_ here due same =>
    have answered := wakes_site m (m.site.answer r).2
    rw [same]
    exact .of_wakes answered (moved_proceed (answered.inside (inside here)) rfl nofun)

/-- A move of a worker with its schedule. -/
theorem moved_moveWorker (told : m.endedAt.isSome = m.isOver)
    (set : ∀ p u, m.phase? (.worker i) = some p → p.due = some u → m.now < u →
      (u, .worker i) ∈ m.timers) : Moved (.worker i) m (m.moveWorker i) :=
  (workerWay_moveWorker m i).moved told set

/-- The producer goes on at once. -/
theorem moved_produce {p : ProducerPhase} (awake : p.isOver = false)
    (due : ∀ u, (Phase.producer p).due = some u → u = m.now) :
    Moved .producer m (m.produce p) := by
  have over_ : (m.produce p).isOver = false := isOver_of_producer awake
  refine ⟨fun s among _ => List.mem_cons_of_mem _ among,
    fun w among other => List.mem_filter.2 ⟨among, decide_eq_true other⟩, ?_, ?_⟩
  · refine attended_of_ready List.mem_cons_self fun q u here comes => ?_
    cases here
    exact due u comes
  · rw [over_, Bool.and_false]
    rfl

/-- The producer waits for its tick or for a listing. -/
theorem moved_produceAt {p : ProducerPhase} (awake : p.isOver = false) {time : Nat}
    (for_ : (Phase.producer p).due = some time ∧ m.now ≤ time ∨
      (Phase.producer p).due = none ∧ m.control.stop.isStopped = false) :
    Moved .producer m (m.produceAt time p) := by
  unfold produceAt
  split
  next come =>
    refine moved_produce awake fun u comes => ?_
    obtain ⟨due, later⟩ | ⟨free, -⟩ := for_
    · obtain rfl := Option.some.inj (due.symm.trans comes)
      exact Nat.le_antisymm come later
    · rw [free] at comes
      cases comes
  next ahead =>
    have over_ : (({ m with producer := p }).wakeAt time .producer).isOver = false :=
      isOver_of_producer awake
    refine ⟨fun s among _ => among, fun w among other => List.mem_append_left _
      (List.mem_filter.2 ⟨among, decide_eq_true other⟩), ⟨?_, ?_⟩, ?_⟩
    · intro q u here comes
      cases here
      obtain ⟨due, -⟩ | ⟨free, -⟩ := for_
      · obtain rfl := Option.some.inj (due.symm.trans comes)
        exact .inl ⟨Nat.lt_of_not_le ahead, List.mem_append_right _ (List.mem_singleton_self _)⟩
      · cases free.symm.trans comes
    · intro q here free _ told
      cases here
      obtain ⟨due, -⟩ | ⟨-, going⟩ := for_
      · cases due.symm.trans free
      · obtain stopped | atGate := told
        · exact absurd (going.symm.trans stopped) Bool.false_ne_true
        · cases atGate
    · rw [over_, Bool.and_false]
      rfl

/-- The producer is over. -/
theorem moved_leaveProducer {p : ProducerPhase} (done : p.isOver = true) :
    Moved .producer m (m.leaveProducer p) := by
  have woken := wakes_wakeReceiver
    (({ m with producer := p, queue := { m.queue with fed := false } }).forget .producer)
  refine moved_noteEnd (fun s among _ => woken.ready among) (fun w among other => ?_) ?_
    woken.endedAt woken.now
  · rw [woken.timers]
    exact List.mem_filter.2 ⟨among, decide_eq_true other⟩
  · exact attended_of_isOver (woken.phase? .producer) done

/-- Whichever way the producer goes on, it is not forgotten. -/
theorem ProducerWay.moved (way : ProducerWay m m') (told : m.endedAt.isSome = m.isOver)
    (set : ∀ p u, m.phase? .producer = some p → p.due = some u → m.now < u →
      (u, .producer) ∈ m.timers) : Moved .producer m m' := by
  cases way with
  | rests done same =>
    rw [same]
    exact moved_self told (attended_of_isOver (phase?_producer rfl) done)
  | listens next until_ here early same =>
    have phase := phase?_producer here
    rw [same]
    exact moved_self told (attended_of_early phase rfl early (set _ until_ phase rfl early))
  | blocks o batch next here going full same =>
    have phase := phase?_producer here
    rw [same]
    refine moved_self told ⟨fun p u there comes => ?_, fun p there _ _ waits => ?_⟩
    · cases phase.symm.trans there
      cases comes
    · cases phase.symm.trans there
      obtain stopped | atGate := waits
      · exact absurd (going.symm.trans stopped) Bool.false_ne_true
      · cases atGate
  | fails here interval same =>
    rw [same]
    exact moved_leaveProducer rfl
  | stops here told same =>
    rw [same]
    exact moved_leaveProducer rfl
  | hangs o batch next here going unread same =>
    rw [same]
    exact moved_leaveProducer rfl
  | waits scheduled here going early same =>
    rw [same]
    exact moved_produceAt rfl (.inr ⟨rfl, going⟩)
  | asks scheduled here going due same =>
    rw [same]
    exact .of_wakes (wakes_site m (m.site.note m.now (.list OrderStatus.pending m.polling.batch)))
      (moved_produceAt rfl (.inl ⟨rfl, Nat.le_add_right _ _⟩))
  | starts here interval same =>
    rw [same]
    exact moved_produce rfl nofun
  | finishes next here same =>
    rw [same]
    exact moved_produce rfl nofun
  | misses next until_ cause here due listed same =>
    rw [same]
    exact .of_wakes (wakes_site m _) (moved_produce rfl nofun)
  | lists next until_ batch here due listed same =>
    rw [same]
    exact .of_wakes (wakes_site m _) (moved_produce rfl nofun)
  | pushes o batch next here going read room same =>
    have put := wakes_queue m { m.queue with items := m.queue.items ++ [o] }
    rw [same]
    exact .of_wakes (put.trans (wakes_wakeReceiver _)) (moved_produce rfl nofun)

/-- A move of the producer with its schedule. -/
theorem moved_moveProducer (told : m.endedAt.isSome = m.isOver)
    (set : ∀ p u, m.phase? .producer = some p → p.due = some u → m.now < u →
      (u, .producer) ∈ m.timers) : Moved .producer m m.moveProducer :=
  (producerWay_moveProducer m).moved told set

end

end Machine

end Loyalty.Pipeline
