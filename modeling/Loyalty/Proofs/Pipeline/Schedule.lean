import Loyalty.Proofs.Pipeline.Waking

/-!
# Courses that keep to the clock

A course lets the clock move at any point. In a prompt course it moves only while no task is runnable,
and never beyond a time at which a task is to be woken; so go the runs of a machine, whose tasks take no
time of their own. What a prompt course brings is that no task is ever forgotten, so that while no task
is runnable each waits for an answer that is still to come, or is over, or has nothing to do.

Main statement: `scheduled_course`, for every prompt course of a pipeline.
-/

namespace Loyalty.Pipeline

namespace Machine

section

variable {m m' : Machine} {t : Task} {i : Nat}

/-! ### What a move leaves alone -/

theorem WorkerMove.others (h : WorkerMove m i m') {j : Nat} (other : j ≠ i) :
    m'.workers[j]? = m.workers[j]? := by
  cases h <;> subst m' <;> simp [setWorker, List.getElem?_set_ne (Ne.symm other)]

/-- A worker that moves had something to do: it was not over, and waited for no answer still to come. -/
theorem WorkerMove.cause (h : WorkerMove m i m') : m' = m ∨
    ∃ p, m.workers[i]? = some p ∧ p.isOver = false ∧
      ∀ u, (Phase.worker p).due = some u → u ≤ m.now := by
  have idly : ∀ p : WorkerPhase, m.workers[i]? = some p → p.isIdle = true →
      ∃ p, m.workers[i]? = some p ∧ p.isOver = false ∧
        ∀ u, (Phase.worker p).due = some u → u ≤ m.now := by
    intro p here idle
    have free : (Phase.worker p).due = none := by
      cases p <;> first | rfl | cases idle
    refine ⟨p, here, WorkerPhase.isOver_of_isIdle idle, fun u due => ?_⟩
    cases free.symm.trans due
  have called : ∀ held reply until_, m.workers[i]? = some (.calling held reply until_) →
      until_ ≤ m.now → ∃ p, m.workers[i]? = some p ∧ p.isOver = false ∧
        ∀ u, (Phase.worker p).due = some u → u ≤ m.now := by
    intro held reply until_ here come
    refine ⟨_, here, rfl, fun u due => ?_⟩
    obtain rfl := Option.some.inj due
    exact come
  cases h with
  | rests unanswered unstored same => exact .inl same
  | walks p q here idle => exact .inr (idly p here idle)
  | ends p here idle => exact .inr (idly p here idle)
  | takes o rest here => exact .inr (idly _ here rfl)
  | calls o here => exact .inr (idly _ here rfl)
  | lets held reply until_ outcome here due => exact .inr (called held reply until_ here due)
  | defers held reply until_ wait gate here due => exact .inr (called held reply until_ here due)
  | loses held reply until_ wait here due => exact .inr (called held reply until_ here due)
  | requests held reply until_ r here due => exact .inr (called held reply until_ here due)
  | stores r until_ here due =>
    refine .inr ⟨_, here, rfl, fun u comes => ?_⟩
    obtain rfl := Option.some.inj comes
    exact due

theorem ProducerMove.workers (h : ProducerMove m m') : m'.workers = m.workers := by
  cases h <;> subst m' <;> rfl

theorem ProducerMove.control (h : ProducerMove m m') : m'.control = m.control := by
  cases h <;> subst m' <;> rfl

/-- So it is with the producer. -/
theorem ProducerMove.cause (h : ProducerMove m m') : m' = m ∨
    m.producer.isOver = false ∧ ∀ u, (Phase.producer m.producer).due = some u → u ≤ m.now := by
  have freely : ∀ p, m.producer = p → p.isOver = false → (Phase.producer p).due = none →
      m.producer.isOver = false ∧ ∀ u, (Phase.producer m.producer).due = some u → u ≤ m.now := by
    rintro p rfl awake free
    refine ⟨awake, fun u due => ?_⟩
    rw [free] at due
    cases due
  have listed : ∀ next until_, m.producer = .listing next until_ → until_ ≤ m.now →
      m.producer.isOver = false ∧ ∀ u, (Phase.producer m.producer).due = some u → u ≤ m.now := by
    intro next until_ here come
    rw [here]
    refine ⟨rfl, fun u due => ?_⟩
    obtain rfl := Option.some.inj due
    exact come
  cases h with
  | rests unlisted blocked same => exact .inl same
  | starts here => exact .inr (freely _ here rfl rfl)
  | ends p _ told =>
    rcases told with ⟨here, -⟩ | ⟨-, ⟨scheduled, here⟩ | ⟨o, batch, next, here⟩⟩
    · exact .inr (freely _ here rfl rfl)
    · exact .inr (freely _ here rfl rfl)
    · exact .inr (freely _ here rfl rfl)
  | asks scheduled here => exact .inr (freely _ here rfl rfl)
  | misses next until_ cause here due => exact .inr (listed next until_ here due)
  | lists next until_ batch here due => exact .inr (listed next until_ here due)
  | pushes o batch next here => exact .inr (freely _ here rfl rfl)
  | finishes next here => exact .inr (freely _ here rfl rfl)

/-- A task that moves had something to do. -/
theorem cause_move (m : Machine) (t : Task) : (m.after (.move t)).bare = m.bare ∨
    ∃ p, m.phase? t = some p ∧ p.isOver = false ∧ ∀ u, p.due = some u → u ≤ m.now := by
  cases t with
  | worker i =>
    refine (workerMove_after m i).cause.imp_right fun ⟨p, here, awake, come⟩ => ?_
    exact ⟨.worker p, phase?_worker here, awake, come⟩
  | producer => exact (producerMove_after m).cause.imp_right fun ⟨awake, come⟩ => ⟨_, rfl, awake, come⟩

/-- The other tasks stay where they are. -/
theorem phase?_move (m : Machine) {s : Task} (other : s ≠ t) :
    (m.after (.move t)).phase? s = m.phase? s := by
  cases t with
  | worker i =>
    have moved := workerMove_after m i
    cases s with
    | producer => exact congrArg (some ∘ Phase.producer) moved.producer
    | worker j =>
      have apart : j ≠ i := fun same => other (congrArg Task.worker same)
      exact congrArg (Option.map Phase.worker) (moved.others apart)
  | producer =>
    cases s with
    | producer => exact absurd rfl other
    | worker j =>
      exact congrArg (fun ws => Option.map Phase.worker ws[j]?) (producerMove_after m).workers

theorem stop_move (m : Machine) (t : Task) :
    (m.after (.move t)).control.stop = m.control.stop := by
  cases t with
  | worker i => exact (workerMove_after m i).signals.1
  | producer => exact congrArg Control.stop (producerMove_after m).control

@[simp] theorem now_move (m : Machine) (t : Task) : (m.after (.move t)).now = m.now := by
  cases t <;> simp [after, moveTask]

/-- A machine that is over stays so. -/
theorem isOver_move (t : Task) (done : m.isOver = true) : (m.after (.move t)).isOver = true := by
  obtain same | ⟨p, here, awake, -⟩ := cause_move m t
  · exact (congrArg Machine.isOver same).trans done
  · rw [isOver_iff] at done
    exact absurd (awake.symm.trans (done t p here)) Bool.false_ne_true

/-! ### What comes from outside -/

/-- The switch wakes all tasks; nothing else from outside touches it. -/
theorem wakes_act (m : Machine) (a : Action) :
    Wakes m (m.act? a).2 ∧
      ((m.act? a).2.control.stop = m.control.stop ∨
        ∀ t p, m.phase? t = some p → t ∈ (m.act? a).2.ready) := by
  have stop : ∀ {x : Machine}, x.bare.control = m.control →
      (x.control.stop = m.control.stop ∨ ∀ t p, m.phase? t = some p → t ∈ x.ready) :=
    fun same => .inl (congrArg Control.stop same)
  have receiver : ∀ queue, ({ m with queue }).wakeReceiver.bare.control = m.control := by
    intro queue
    rw [bare_wakeReceiver]
    rfl
  have producer : ∀ queue, ({ m with queue }).wakeProducer.bare.control = m.control := by
    intro queue
    rw [bare_wakeProducer]
    rfl
  cases a with
  | idle => exact ⟨Wakes.refl m, .inl rfl⟩
  | inspect => exact ⟨Wakes.refl m, .inl rfl⟩
  | register o => exact ⟨wakes_site m _, .inl rfl⟩
  | shutdown =>
    exact ⟨(wakes_control m _).trans (wakes_wakeAll _), .inr fun t p here => mem_ready_wakeAll here⟩
  | dropSwitch =>
    exact ⟨(wakes_control m _).trans (wakes_wakeAll _), .inr fun t p here => mem_ready_wakeAll here⟩
  | send o =>
    unfold act?
    dsimp only
    split
    · exact ⟨Wakes.refl m, .inl rfl⟩
    · split
      · exact ⟨(wakes_queue m _).trans (wakes_wakeReceiver _), stop (receiver _)⟩
      · exact ⟨Wakes.refl m, .inl rfl⟩
  | closeFeed => exact ⟨(wakes_queue m _).trans (wakes_wakeReceiver _), stop (receiver _)⟩
  | receive =>
    unfold act?
    dsimp only
    split
    · exact ⟨Wakes.refl m, .inl rfl⟩
    · exact ⟨(wakes_queue m _).trans (wakes_wakeProducer _), stop (producer _)⟩
  | drain => exact ⟨(wakes_queue m _).trans (wakes_wakeProducer _), stop (producer _)⟩
  | closeReader => exact ⟨(wakes_queue m _).trans (wakes_wakeProducer _), stop (producer _)⟩

/-- Unless a task moves, all stay where they are. -/
theorem still_of_not_move {o : Occurrence} (still : ∀ t, o ≠ .move t) :
    (m.after o).workers = m.workers ∧ (m.after o).producer = m.producer ∧
      (m.after o).endedAt = m.endedAt := by
  cases o with
  | move t => exact absurd rfl (still t)
  | pass time => exact ⟨rfl, rfl, rfl⟩
  | ring time =>
    unfold after
    dsimp only
    split
    next =>
      have woken := wakes_jump m time
      exact ⟨woken.workers, woken.producer, woken.endedAt⟩
    next => exact ⟨rfl, rfl, rfl⟩
  | act a =>
    have woken := (wakes_act m a).1
    exact ⟨woken.workers, woken.producer, woken.endedAt⟩

/-! ### Prompt courses -/

/-- The clock moves only while no task is runnable, and not beyond the time at which one is woken. -/
def allows (m : Machine) : Occurrence → Bool
  | .pass time => m.ready.isEmpty && m.timers.all (fun w => time < w.1)
  | .ring time => m.ready.isEmpty && m.timers.all (fun w => time ≤ w.1)
  | _ => true

/-- The clock does so all along. -/
def isPrompt (m : Machine) : List Occurrence → Bool
  | [] => true
  | o :: os => m.allows o && isPrompt (m.after o) os

theorem isPrompt_append (m : Machine) (os rest : List Occurrence) :
    m.isPrompt (os ++ rest) = (m.isPrompt os && (m.course os).isPrompt rest) := by
  induction os generalizing m with
  | nil => rfl
  | cons o os ih =>
    rw [List.cons_append, isPrompt, ih, isPrompt, Bool.and_assoc]
    rfl

/-- No task is forgotten, and the time at which the last was over is known. -/
structure Scheduled (m : Machine) : Prop where
  attended : ∀ t, m.Attended t
  reported : m.endedAt.isSome = m.isOver

theorem Scheduled.moved (scheduled : m.Scheduled) (t : Task) :
    Moved t { m with ready := m.ready.erase t } (m.after (.move t)) := by
  have set : ∀ p u, m.phase? t = some p → p.due = some u → m.now < u → (u, t) ∈ m.timers := by
    intro p u here due early
    obtain ⟨-, set⟩ | ⟨now, -⟩ := (scheduled.attended t).due p u here due
    · exact set
    · exact absurd now (Nat.ne_of_gt early)
  cases t with
  | producer =>
    exact moved_moveProducer (m := { m with ready := m.ready.erase .producer }) scheduled.reported set
  | worker i =>
    exact moved_moveWorker (m := { m with ready := m.ready.erase (.worker i) }) scheduled.reported set

/-- When the last task is over its time is noted, and stays. -/
theorem Scheduled.endedAt_after (scheduled : m.Scheduled) (o : Occurrence) :
    (m.after o).endedAt =
      if m.isOver = false ∧ (m.after o).isOver = true then some m.now else m.endedAt := by
  by_cases moves : ∃ t, o = .move t
  · obtain ⟨t, rfl⟩ := moves
    have ended := (scheduled.moved t).ended
    have reported := scheduled.reported
    rw [ended]
    cases known : m.endedAt with
    | none =>
      rw [known] at reported
      have awake : m.isOver = false := reported.symm
      by_cases over_ : (m.after (.move t)).isOver = true <;> simp [awake, over_]
    | some time =>
      rw [known] at reported
      have done : m.isOver = true := reported.symm
      simp [done]
  · have still : ∀ t, o ≠ .move t := fun t what => moves ⟨t, what⟩
    obtain ⟨workers, producer, endedAt⟩ := still_of_not_move (m := m) still
    rw [isOver_congr workers producer, endedAt, if_neg]
    rintro ⟨awake, done⟩
    exact absurd (awake.symm.trans done) Bool.false_ne_true

/-- A task that another does not touch. -/
theorem Attended.of_wakes (attended : m.Attended t) (wakes : Wakes m m')
    (stop : m'.control.stop = m.control.stop) : m'.Attended t := by
  constructor
  · intro p u here due
    rw [wakes.phase?] at here
    obtain ⟨early, set⟩ | ⟨now, runnable⟩ := attended.due p u here due
    · rw [wakes.now, wakes.timers]
      exact .inl ⟨early, set⟩
    · rw [wakes.now]
      exact .inr ⟨now, wakes.ready runnable⟩
  · intro p here free awake told
    rw [wakes.phase?] at here
    rw [stop] at told
    exact wakes.ready (attended.idle p here free awake told)

/-- A runnable task stays so when the machine goes on to another time, or the switch is turned. -/
theorem Attended.of_turned (attended : m.Attended t) (wakes : Wakes m m')
    (runnable : ∀ p, m.phase? t = some p → t ∈ m'.ready) : m'.Attended t := by
  constructor
  · intro p u here due
    rw [wakes.phase?] at here
    obtain ⟨early, set⟩ | ⟨now, -⟩ := attended.due p u here due
    · rw [wakes.now, wakes.timers]
      exact .inl ⟨early, set⟩
    · rw [wakes.now]
      exact .inr ⟨now, runnable p here⟩
  · intro p here _ _ _
    rw [wakes.phase?] at here
    exact runnable p here

/-- While no task is runnable each waits for an answer, or for somebody else to do something. -/
theorem Scheduled.waits (scheduled : m.Scheduled) (rest : m.ready = []) {p : Phase}
    (here : m.phase? t = some p) : (∀ u, p.due = some u → m.now < u ∧ (u, t) ∈ m.timers) ∧
      (p.due = none → p.isOver = false →
        m.control.stop.isStopped = false ∧ p.isAtGate = false) := by
  have nobody : t ∉ m.ready := by
    rw [rest]
    exact List.not_mem_nil
  constructor
  · intro u due
    obtain waits | ⟨-, runnable⟩ := (scheduled.attended t).due p u here due
    · exact waits
    · exact absurd runnable nobody
  · intro free awake
    constructor
    · exact eq_false_of_ne_true fun stopped =>
        nobody ((scheduled.attended t).idle p here free awake (.inl stopped))
    · exact eq_false_of_ne_true fun atGate =>
        nobody ((scheduled.attended t).idle p here free awake (.inr atGate))

/-- The clock moves on while all tasks wait: to a time at which it wakes some of them, or to one before
that. -/
theorem Scheduled.clock (scheduled : m.Scheduled) (rest : m.ready = []) {time : Nat}
    (workers : m'.workers = m.workers) (producer : m'.producer = m.producer)
    (stop : m'.control.stop = m.control.stop) (endedAt : m'.endedAt = m.endedAt)
    (now : m'.now = time)
    (kept : ∀ w ∈ m.timers, time < w.1 ∧ w ∈ m'.timers ∨ time = w.1 ∧ w.2 ∈ m'.ready) :
    m'.Scheduled := by
  have phase := phase?_congr workers producer
  refine ⟨fun t => ⟨fun p u here due => ?_, fun p here free awake told => ?_⟩, ?_⟩
  · rw [phase] at here
    obtain ⟨-, set⟩ := (scheduled.waits rest here).1 u due
    rw [now]
    obtain ⟨later, still⟩ | ⟨come, woken⟩ := kept _ set
    · exact .inl ⟨later, still⟩
    · exact .inr ⟨come.symm, woken⟩
  · rw [phase] at here
    rw [stop] at told
    obtain ⟨going, away⟩ := (scheduled.waits rest here).2 free awake
    obtain stopped | atGate := told
    · exact absurd (going.symm.trans stopped) Bool.false_ne_true
    · exact absurd (away.symm.trans atGate) Bool.false_ne_true
  · rw [endedAt, isOver_congr workers producer]
    exact scheduled.reported

/-- A move of another task leaves this one its wishes. -/
theorem Attended.of_moved {s : Task} (attended : m.Attended s) (other : s ≠ t)
    (moved : Moved t { m with ready := m.ready.erase t } (m.after (.move t))) :
    (m.after (.move t)).Attended s := by
  have runnable : s ∈ m.ready → s ∈ (m.after (.move t)).ready :=
    fun among => moved.ready s ((List.mem_erase_of_ne other).2 among) other
  constructor
  · intro p u here due
    rw [phase?_move m other] at here
    rw [now_move]
    obtain ⟨early, set⟩ | ⟨now, among⟩ := attended.due p u here due
    · exact .inl ⟨early, moved.timers _ set other⟩
    · exact .inr ⟨now, runnable among⟩
  · intro p here free awake told
    rw [phase?_move m other] at here
    rw [stop_move] at told
    exact runnable (attended.idle p here free awake told)

theorem Scheduled.after_move (scheduled : m.Scheduled) (t : Task) :
    (m.after (.move t)).Scheduled := by
  have moved := scheduled.moved t
  refine ⟨fun s => ?_, ?_⟩
  · by_cases own : s = t
    · rw [own]
      exact moved.own
    · exact (scheduled.attended s).of_moved own moved
  · rw [scheduled.endedAt_after (.move t)]
    cases done : m.isOver with
    | true =>
      rw [isOver_move t done, if_neg (fun h => Bool.false_ne_true h.1.symm), scheduled.reported]
      exact done
    | false =>
      have unended : m.endedAt = none := by
        rw [← Option.isSome_eq_false_iff.trans Option.isNone_iff_eq_none, scheduled.reported]
        exact done
      cases over_ : (m.after (.move t)).isOver <;> simp [unended]

/-- The clock goes to a time at which tasks are woken. -/
theorem Scheduled.after_jump (scheduled : m.Scheduled) (rest : m.ready = []) {time : Nat}
    (before : ∀ w ∈ m.timers, time ≤ w.1) : (m.jump time).Scheduled := by
  have woken := wakes_jump m time
  have stop : (m.jump time).control.stop = m.control.stop :=
    congrArg (fun x => x.control.stop) (bare_jump m time)
  refine scheduled.clock rest woken.workers woken.producer stop woken.endedAt woken.now
    fun w among => ?_
  obtain ahead | come := Nat.lt_or_eq_of_le (before w among)
  · refine .inl ⟨ahead, ?_⟩
    rw [timers_jump]
    exact List.mem_filter.2 ⟨among, by simpa using ahead⟩
  · refine .inr ⟨come, mem_ready_foldl_wake ?_ _⟩
    exact List.mem_map_of_mem (List.mem_filter.2 ⟨among, decide_eq_true (Nat.le_of_eq come.symm)⟩)

/-- The step lemma of the schedule. -/
theorem Scheduled.after (scheduled : m.Scheduled) {o : Occurrence} (allowed : m.allows o = true) :
    (m.after o).Scheduled := by
  cases o with
  | move t => exact scheduled.after_move t
  | pass time =>
    obtain ⟨rest, before⟩ := Bool.and_eq_true_iff.1 allowed
    rw [List.isEmpty_iff] at rest
    rw [List.all_eq_true] at before
    by_cases ahead : m.now ≤ time
    · have now : (m.after (.pass time)).now = time := Nat.max_eq_right ahead
      refine scheduled.clock rest rfl rfl rfl rfl now fun w among => ?_
      exact .inl ⟨of_decide_eq_true (before w among), among⟩
    · -- the clock does not go back
      have same : m.after (.pass time) = m := by
        show { m with now := max m.now time } = m
        rw [Nat.max_eq_left (Nat.le_of_not_le ahead)]
      rw [same]
      exact scheduled
  | ring time =>
    obtain ⟨rest, before⟩ := Bool.and_eq_true_iff.1 allowed
    rw [List.isEmpty_iff] at rest
    rw [List.all_eq_true] at before
    unfold Machine.after
    dsimp only
    split
    next => exact scheduled.after_jump rest fun w among => of_decide_eq_true (before w among)
    next => exact scheduled
  | act a =>
    have woken := wakes_act m a
    refine ⟨fun t => ?_, ?_⟩
    · obtain ⟨wakes, stop | turned⟩ := woken
      · exact (scheduled.attended t).of_wakes wakes stop
      · exact (scheduled.attended t).of_turned wakes (turned t)
    · show (m.act? a).2.endedAt.isSome = (m.act? a).2.isOver
      rw [woken.1.endedAt, woken.1.isOver]
      exact scheduled.reported

end

/-! ### Courses -/

theorem scheduled_course {m : Machine} (scheduled : m.Scheduled) {os : List Occurrence}
    (prompt : m.isPrompt os = true) : (m.course os).Scheduled := by
  induction os generalizing m with
  | nil => exact scheduled
  | cons o os ih =>
    obtain ⟨allowed, rest⟩ := Bool.and_eq_true_iff.1 prompt
    exact ih (scheduled.after allowed) rest

/-- All tasks of a pipeline are runnable at the start. -/
theorem scheduled_pipeline (polling : Polling) (workers : Nat) (site : Site) :
    (pipeline polling workers site).Scheduled := by
  refine ⟨fun t => ?_, rfl⟩
  cases t with
  | producer =>
    refine attended_of_ready List.mem_cons_self fun p u here due => ?_
    cases here
    cases due
  | worker i =>
    by_cases inside : i < workers
    · refine attended_of_ready ?_ fun p u here due => ?_
      · exact List.mem_cons_of_mem _ (List.mem_map_of_mem (List.mem_range.2 inside))
      · obtain ⟨q, among, rfl⟩ := Option.map_eq_some_iff.1 here
        obtain rfl := List.eq_of_mem_replicate (List.mem_of_getElem? among)
        cases due
    · have nobody : (pipeline polling workers site).phase? (.worker i) = none := by
        show ((idleWorkers workers)[i]?).map Phase.worker = none
        rw [idleWorkers, List.getElem?_replicate, if_neg inside]
        rfl
      exact ⟨by simp [nobody], by simp [nobody]⟩

end Machine

end Loyalty.Pipeline
