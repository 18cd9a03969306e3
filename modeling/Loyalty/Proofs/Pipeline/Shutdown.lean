import Loyalty.Proofs.Pipeline.Rest

/-!
# A pipeline that is told to stop

The flag of the shutdown switch may be raised, or its owner may be gone. The two are found out by different
means: the gate looks at the flag alone, and whoever waits hears of both. So a worker that has just taken an
order, and would look at the gate next, would go on to ask about it if the owner went at that very point.
But this is no point at which a worker waits; wherever all tasks wait, either signal is heard (`Heard`).

From then on no call begins but the requests that answers still to come lead to, the calls in flight are
waited for, and the pipeline is over as soon as the last of them has been answered.

Main statement: `clean_shutdown`, for every prompt course of a pipeline.
-/

namespace Loyalty.Pipeline

namespace Machine

/-- Who waits, or comes to wait, hears that it is told to stop. -/
structure Heard (m : Machine) : Prop where
  stopped : m.control.stop.isStopped = true
  away : m.control.stop.raised = true ∨ ∀ o, WorkerPhase.atGate (some o) ∉ m.workers

/-- A task waits for the answer to a call. -/
def InFlight (m : Machine) : Prop := ∃ t p u, m.phase? t = some p ∧ p.due = some u

/-! ### What an observer notes -/

/-- The time for which the answer was due that the task takes up. -/
def landed? (m : Machine) : Occurrence → Option Nat
  | .move t => (m.phase? t).bind fun p => p.due.filter (· ≤ m.now)
  | _ => none

/-- The times for which the answers were due that have been taken up, the latest first. -/
def landed (m : Machine) (os : List Occurrence) : List Nat := m.noted landed? os

section Step

variable {m m' : Machine} {i : Nat} {o : Occurrence} {t : Task}

/-! ### Nothing new begins -/

/-- What a machine that has been told to stop still does: it makes requests, and the queue holds nothing
new but what is put there from outside. -/
structure Winds (put : List Ticket) (m m' : Machine) : Prop where
  heard : m'.Heard
  log : ∃ calls, m'.site.log = calls ++ m.site.log ∧ ∀ c ∈ calls, ∃ r, c.call = .store r
  items : m'.queue.items <:+ m.queue.items ++ put

theorem winds_of_quiet (heard : m'.Heard) (log : m'.site.log = m.site.log)
    (items : m'.queue.items = m.queue.items) : Winds [] m m' := by
  refine ⟨heard, ⟨[], log, nofun⟩, ?_⟩
  rw [items, List.append_nil]

theorem Heard.of_set (heard : m.Heard) {q : WorkerPhase} (free : q.held = none)
    (workers : m'.workers = m.workers.set i q) (stop : m'.control.stop = m.control.stop) :
    m'.Heard := by
  refine ⟨?_, ?_⟩
  · rw [stop]
    exact heard.stopped
  · rw [stop]
    refine heard.away.imp_right fun before o among => ?_
    rw [workers] at among
    obtain old | rfl := List.mem_or_eq_of_mem_set among
    · exact before o old
    · cases free

theorem WorkerMove.winds (h : WorkerMove m i m') (heard : m.Heard) : Winds [] m m' := by
  cases h with
  | rests unanswered unstored same =>
    rw [same]
    exact winds_of_quiet heard rfl rfl
  | walks p q here idle next held told same =>
    obtain ⟨-, rfl⟩ := told heard.stopped
    rw [same]
    exact winds_of_quiet (heard.of_set rfl rfl rfl) rfl rfl
  | ends p here idle told same =>
    rw [same]
    refine winds_of_quiet ?_ (by simp [setWorker]) (by simp [setWorker])
    exact heard.of_set (q := .ended) (i := i) rfl (by simp [setWorker]) (by simp [setWorker])
  | takes o rest here items going same =>
    exact absurd (going.symm.trans heard.stopped) Bool.false_ne_true
  | calls o here opened unraised same =>
    obtain raised | away := heard.away
    · exact absurd (unraised.symm.trans raised) Bool.false_ne_true
    · exact absurd (List.mem_of_getElem? here) (away o)
  | lets held reply until_ outcome here due decided same =>
    rw [same]
    exact winds_of_quiet (heard.of_set rfl rfl rfl) rfl rfl
  | defers held reply until_ wait gate here due decided fits same =>
    rw [same]
    exact winds_of_quiet (heard.of_set rfl rfl rfl) rfl rfl
  | loses held reply until_ wait here due decided beyond same =>
    rw [same]
    refine winds_of_quiet ?_ (by simp [setWorker]) (by simp [setWorker])
    exact heard.of_set (q := .lost) (i := i) rfl (by simp [setWorker]) (by simp [setWorker])
  | requests held reply until_ r here due decided same =>
    rw [same]
    refine ⟨heard.of_set rfl rfl rfl, ⟨[⟨m.now, .store r⟩], rfl, fun c among => ?_⟩, ?_⟩
    · obtain rfl := List.mem_singleton.1 among
      exact ⟨r, rfl⟩
    · rw [List.append_nil]
      exact List.suffix_refl _
  | stores r until_ here due same =>
    rw [same]
    exact winds_of_quiet (heard.of_set rfl rfl rfl) rfl rfl

theorem ProducerMove.winds (h : ProducerMove m m') (heard : m.Heard) : Winds [] m m' := by
  have heard' : m'.Heard := by
    refine ⟨?_, ?_⟩
    · rw [h.control]
      exact heard.stopped
    · rw [h.control, h.workers]
      exact heard.away
  cases h with
  | asks scheduled here due going same =>
    exact absurd (going.symm.trans heard.stopped) Bool.false_ne_true
  | pushes o batch next here going read room same =>
    exact absurd (going.symm.trans heard.stopped) Bool.false_ne_true
  | _ =>
    subst m'
    exact winds_of_quiet heard' rfl rfl

theorem stop_act (m : Machine) (a : Action) :
    (m.act? a).2.control.stop = a.turned m.control.stop := by
  obtain ⟨queue, -, same⟩ := bare_act m a
  exact congrArg (fun x => x.control.stop) same

/-- Nothing from outside takes the signal back. -/
theorem raised_turned (a : Action) {s : StopSignal} (raised : s.raised = true) :
    (a.turned s).raised = true := by
  cases a with
  | shutdown =>
    show (s.turn true).raised = true
    unfold StopSignal.turn
    split
    · exact raised
    · rfl
  | _ => exact raised

theorem isStopped_turned (a : Action) {s : StopSignal} (stopped : s.isStopped = true) :
    (a.turned s).isStopped = true := by
  rw [StopSignal.isStopped, Bool.or_eq_true] at stopped ⊢
  obtain raised | dropped := stopped
  · exact .inl (raised_turned a raised)
  · right
    cases a with
    | shutdown =>
      show (s.turn true).dropped = true
      rw [StopSignal.turn, if_pos dropped]
      exact dropped
    | dropSwitch => rfl
    | _ => exact dropped

theorem winds_after (heard : m.Heard) (o : Occurrence) :
    Winds (m.sent? o).toList m (m.after o) := by
  have before : m.bare.Heard := ⟨heard.stopped, heard.away⟩
  suffices winds : Winds (m.sent? o).toList m.bare (m.after o).bare from
    ⟨⟨winds.heard.stopped, winds.heard.away⟩, winds.log, winds.items⟩
  cases step_after m o with
  | worker i what moved =>
    subst what
    exact moved.winds before
  | producer what moved =>
    subst what
    exact moved.winds before
  | clock time what now later same =>
    have put : m.sent? o = none := by
      obtain rfl | rfl := what <;> rfl
    rw [put, same]
    exact winds_of_quiet ⟨heard.stopped, heard.away⟩ rfl rfl
  | outside a what queue same queued =>
    subst what
    rw [same]
    exact ⟨⟨isStopped_turned a heard.stopped, heard.away.imp_left (raised_turned a)⟩,
      ⟨[], rfl, nofun⟩, queued.suffix⟩

theorem Winds.trans {x : Machine} {put put' : List Ticket} (first : Winds put m x)
    (second : Winds put' x m') : Winds (put ++ put') m m' := by
  obtain ⟨calls, log, stores⟩ := first.log
  obtain ⟨calls', log', stores'⟩ := second.log
  refine ⟨second.heard, ⟨calls' ++ calls, ?_, ?_⟩, ?_⟩
  · rw [log', log, List.append_assoc]
  · intro c among
    exact (List.mem_append.1 among).elim (stores' c) (stores c)
  · obtain ⟨gone, items⟩ := first.items
    refine second.items.trans ⟨gone, ?_⟩
    rw [← List.append_assoc, items, List.append_assoc]

theorem winds_course (heard : m.Heard) (os : List Occurrence) :
    Winds (m.sent os).reverse m (m.course os) := by
  induction os using List.reverseRecOn with
  | nil => exact winds_of_quiet heard rfl rfl
  | append_singleton os o ih =>
    have last := ih.trans (winds_after ih.heard o)
    have put : (m.sent (os ++ [o])).reverse =
        (m.sent os).reverse ++ ((m.course os).sent? o).toList := by
      rw [sent, noted_append_singleton, List.reverse_append]
      cases (m.course os).sent? o <;> rfl
    rw [put, course_append_singleton]
    exact last

/-! ### What was in flight is answered -/

/-- The account of the calls in flight when the signal comes, and of those that their answers lead to. -/
structure Clearing (halted m : Machine) (answers : List (Ticket × Reply)) (finished : List Request)
    (returned : List Unit) : Prop where
  /-- All questions are still waited for, or have been answered. -/
  awaited : halted.awaited.Perm (m.awaited ++ answers)
  /-- The calls begun since are the requests that these answers lead to. -/
  begun : ∃ calls, m.site.log = calls ++ halted.site.log ∧
    (∀ c ∈ calls, ∃ r, c.call = .store r) ∧
    calls.filterMap (fun c => c.call.request?) = answers.filterMap requestOf
  /-- All requests are still waited for, or have been answered. -/
  stored : (halted.unfinished ++ answers.filterMap requestOf).Perm (m.unfinished ++ finished)
  /-- So is the listing. -/
  listed : halted.producer.isListing.toNat = m.producer.isListing.toNat + returned.length

theorem clearing_of_winds {halted : Machine} {put : List Ticket}
    {questions questions' answers answers' : List (Ticket × Reply)} {finished finished' : List Request}
    {returned returned' : List Unit}
    (before : halted.Traffic questions answers finished returned)
    (now : m.Traffic (questions' ++ questions) (answers' ++ answers) (finished' ++ finished)
      (returned' ++ returned))
    (winds : Winds put halted m) : Clearing halted m answers' finished' returned' := by
  obtain ⟨calls, log, stores⟩ := winds.log
  have unasked : calls.filterMap (fun c => c.call.accrual?) = [] := by
    refine List.filterMap_eq_nil_iff.2 fun c among => ?_
    obtain ⟨r, what⟩ := stores c among
    rw [what]
    rfl
  have unlisted : calls.filter (fun c => c.call.isList) = [] := by
    refine List.filter_eq_nil_iff.2 fun c among => ?_
    obtain ⟨r, what⟩ := stores c among
    rw [what]
    exact Bool.false_ne_true
  have asked : m.asked = halted.asked := by
    rw [Machine.asked, log, List.filterMap_append, unasked]
    rfl
  have listings : m.listings = halted.listings := by
    rw [Machine.listings, log, List.filter_append, unlisted]
    rfl
  have requested : m.requested =
      calls.filterMap (fun c => c.call.request?) ++ halted.requested := by
    rw [Machine.requested, log, List.filterMap_append]
    rfl
  have unquestioned : questions' = [] := by
    have same := now.asked
    rw [asked, before.asked, List.map_append] at same
    exact List.map_eq_nil_iff.1 (List.self_eq_append_left.1 same)
  have led : calls.filterMap (fun c => c.call.request?) = answers'.filterMap requestOf := by
    have same := now.requested
    rw [requested, before.requested, List.filterMap_append] at same
    exact List.append_cancel_right same
  refine ⟨?_, ⟨calls, log, stores, led⟩, ?_, ?_⟩
  · have whole := now.awaited
    rw [unquestioned, List.nil_append, ← List.append_assoc] at whole
    exact (List.perm_append_right_iff _).1 (before.awaited.symm.trans whole)
  · have whole := now.stored
    rw [requested, led, ← List.append_assoc] at whole
    have old := (before.stored.append_left (answers'.filterMap requestOf)).symm.trans whole
    rw [← List.append_assoc] at old
    exact List.perm_append_comm.trans ((List.perm_append_right_iff _).1 old)
  · have count := now.listed
    rw [listings, before.listed, List.length_append] at count
    omega

theorem clearing_course {start halted : Machine} (quiet : start.Traffic [] [] [] [])
    {os : List Occurrence} (reached : halted = start.course os) (heard : halted.Heard)
    (later : List Occurrence) :
    Clearing halted (halted.course later) (halted.answers later) (halted.finished later)
      (halted.returned later) := by
  subst reached
  have before := traffic_course quiet os
  have now := traffic_course quiet (os ++ later)
  rw [course_append, questions, answers, finished, returned, noted_append, noted_append,
    noted_append, noted_append] at now
  exact clearing_of_winds before now (winds_course heard later)

/-! ### The end comes with the last answer -/

theorem phase?_bare (m : Machine) (t : Task) : m.bare.phase? t = m.phase? t := by
  cases t <;> rfl

/-- Who waits for an answer still to come stays where it is. -/
theorem phase?_of_early {p : Phase} {u : Nat} (here : m.phase? t = some p) (due : p.due = some u)
    (early : m.now < u) : (m.after (.move t)).phase? t = some p := by
  obtain same | ⟨q, there, -, come⟩ := cause_move m t
  · rw [← phase?_bare, same, phase?_bare]
    exact here
  · obtain rfl := Option.some.inj (there.symm.trans here)
    exact absurd (come u due) (Nat.not_le.2 early)

/-- A call is in flight until its answer is taken up. -/
theorem inFlight_move (flying : m.InFlight) (unlanded : m.landed? (.move t) = none) :
    (m.after (.move t)).InFlight := by
  obtain ⟨s, p, u, here, due⟩ := flying
  by_cases own : s = t
  · subst own
    have early : m.now < u := by
      refine Nat.lt_of_not_le fun come => ?_
      rw [landed?, here, Option.bind_some, due] at unlanded
      exact Option.filter_eq_none_iff.1 unlanded u rfl (decide_eq_true come)
    exact ⟨s, p, u, phase?_of_early here due early, due⟩
  · exact ⟨s, p, u, (phase?_move m own).trans here, due⟩

theorem not_inFlight_of_isOver (done : m.isOver = true) : ¬ m.InFlight := by
  rintro ⟨t, p, u, here, due⟩
  rw [Phase.due_of_isOver (isOver_iff.1 done t p here)] at due
  cases due

/-- Who is told to stop and still waits, waits for an answer. -/
theorem Scheduled.inFlight (scheduled : m.Scheduled) (heard : m.Heard) (rest : m.ready = [])
    (awake : m.isOver = false) : m.InFlight := by
  by_contra grounded
  have done : m.isOver = true := by
    refine isOver_iff.2 fun t p here => eq_true_of_ne_false fun waiting => ?_
    cases due : p.due with
    | some u => exact grounded ⟨t, p, u, here, due⟩
    | none =>
      have going := ((scheduled.waits rest here).2 due waiting).1
      exact absurd (going.symm.trans heard.stopped) Bool.false_ne_true
  exact absurd (awake.symm.trans done) Bool.false_ne_true

/-- An answer is taken up at the time for which it was due. -/
theorem Scheduled.eq_now_of_landed? (scheduled : m.Scheduled) {u : Nat}
    (landed : m.landed? (.move t) = some u) : u = m.now := by
  obtain ⟨p, here, landed⟩ := Option.bind_eq_some_iff.1 landed
  obtain ⟨due, come⟩ := Option.filter_eq_some_iff.1 landed
  obtain ⟨early, -⟩ | ⟨now, -⟩ := (scheduled.attended t).due p u here due
  · exact absurd (of_decide_eq_true come) (Nat.not_le.2 early)
  · exact now

/-- The end of a machine that has been told to stop at the time `since`: it is over when the last answer has
come, and not before. -/
structure Closing (since : Nat) (landed : List Nat) (m : Machine) : Prop where
  past : landed.foldr max since ≤ m.now
  busy : m.isOver = false → m.InFlight ∨ m.now = landed.foldr max since
  closed : m.isOver = true → m.endedAt = some (landed.foldr max since)

theorem Closing.after_move {since : Nat} {landed : List Nat} (closing : Closing since landed m)
    (scheduled : m.Scheduled) (t : Task) :
    Closing since ((m.landed? (.move t)).toList ++ landed) (m.after (.move t)) := by
  have ended := scheduled.endedAt_after (.move t)
  cases done : m.isOver with
  | true =>
    have none_ : m.landed? (.move t) = none := by
      refine Option.eq_none_iff_forall_ne_some.2 fun u landed => ?_
      obtain ⟨p, here, landed⟩ := Option.bind_eq_some_iff.1 landed
      exact not_inFlight_of_isOver done ⟨t, p, u, here, (Option.filter_eq_some_iff.1 landed).1⟩
    rw [none_]
    refine ⟨by rw [now_move]; exact closing.past, fun awake => ?_, fun _ => ?_⟩
    · exact absurd (awake.symm.trans (isOver_move t done)) Bool.false_ne_true
    · rw [ended, if_neg (fun h => Bool.false_ne_true (h.1.symm.trans done))]
      exact closing.closed done
  | false =>
    have ended : (m.after (.move t)).isOver = true → (m.after (.move t)).endedAt = some m.now :=
      fun over_ => ended.trans (if_pos ⟨done, over_⟩)
    cases landed_ : m.landed? (.move t) with
    | some u =>
      obtain rfl := scheduled.eq_now_of_landed? landed_
      have last : ([m.now] ++ landed).foldr max since = m.now := Nat.max_eq_left closing.past
      refine ⟨?_, fun _ => .inr ?_, fun over_ => ?_⟩
      · rw [Option.toList_some, last, now_move]
      · rw [Option.toList_some, last, now_move]
      · rw [Option.toList_some, last]
        exact ended over_
    | none =>
      have busy := (closing.busy done).imp_left fun flying => inFlight_move flying landed_
      refine ⟨by rw [now_move]; exact closing.past, fun _ => by rw [now_move]; exact busy, fun over_ => ?_⟩
      obtain flying | now := busy
      · exact absurd flying (not_inFlight_of_isOver over_)
      · rw [ended over_, now]
        rfl

/-- While all tasks stay where they are, the clock stands unless an answer is waited for. -/
theorem Closing.still {since : Nat} {landed : List Nat} (closing : Closing since landed m)
    (still : m'.workers = m.workers ∧ m'.producer = m.producer ∧ m'.endedAt = m.endedAt)
    (later : m.now ≤ m'.now) (clock : m.isOver = false → m.InFlight ∨ m'.now = m.now) :
    Closing since landed m' := by
  obtain ⟨workers, producer, endedAt⟩ := still
  have same : m'.isOver = m.isOver := isOver_congr workers producer
  have flies : m.InFlight → m'.InFlight := fun ⟨t, p, u, here, due⟩ =>
    ⟨t, p, u, (phase?_congr workers producer t).trans here, due⟩
  refine ⟨closing.past.trans later, fun awake => ?_, fun done => ?_⟩
  · rw [same] at awake
    obtain flying | now := clock awake
    · exact .inl (flies flying)
    · rw [now]
      exact (closing.busy awake).imp_left flies
  · rw [same] at done
    rw [endedAt]
    exact closing.closed done

theorem Closing.after {since : Nat} {landed : List Nat} (closing : Closing since landed m)
    (scheduled : m.Scheduled) (heard : m.Heard) {o : Occurrence} (allowed : m.allows o = true) :
    Closing since ((m.landed? o).toList ++ landed) (m.after o) := by
  -- the clock moves on only while an answer is waited for
  have clock : ∀ time, m.ready.isEmpty = true → m.isOver = false → m.InFlight ∨ time = m.now :=
    fun _ rest awake => .inl (scheduled.inFlight heard (List.isEmpty_iff.1 rest) awake)
  cases o with
  | move t => exact closing.after_move scheduled t
  | pass time =>
    have still := still_of_not_move (m := m) (o := .pass time) nofun
    exact closing.still still (Nat.le_max_left _ _) (clock _ (Bool.and_eq_true_iff.1 allowed).1)
  | ring time =>
    have still := still_of_not_move (m := m) (o := .ring time) nofun
    have later : m.now ≤ (m.after (.ring time)).now := by
      unfold Machine.after
      dsimp only
      split
      next ahead => exact ahead.trans (Nat.le_of_eq (now_jump m time).symm)
      next => exact Nat.le_refl _
    exact closing.still still later (clock _ (Bool.and_eq_true_iff.1 allowed).1)
  | act a =>
    have still := still_of_not_move (m := m) (o := .act a) nofun
    have now : (m.after (.act a)).now = m.now := (wakes_act m a).1.now
    exact closing.still still (Nat.le_of_eq now.symm) fun _ => .inr now

end Step

/-! ### Courses -/

theorem closing_course {m : Machine} (scheduled : m.Scheduled) (heard : m.Heard)
    (awake : m.isOver = false) {os : List Occurrence} (prompt : m.isPrompt os = true) :
    Closing m.now (m.landed os) (m.course os) := by
  induction os using List.reverseRecOn with
  | nil =>
    refine ⟨Nat.le_refl _, fun _ => .inr rfl, fun done => ?_⟩
    exact absurd (awake.symm.trans done) Bool.false_ne_true
  | append_singleton os o ih =>
    rw [isPrompt_append, Bool.and_eq_true] at prompt
    obtain ⟨before, last⟩ := prompt
    have allowed : (m.course os).allows o = true := (Bool.and_eq_true_iff.1 last).1
    rw [course_append_singleton, landed, noted_append_singleton]
    exact (ih before).after (scheduled_course scheduled before) (winds_course heard os).heard allowed

/-- No worker is on its way to the gate with an order in hand. None waits there. -/
def Suspended (m : Machine) : Prop := ∀ o, WorkerPhase.atGate (some o) ∉ m.workers

/-- So it is whenever no task is runnable. -/
theorem Scheduled.suspended {m : Machine} (scheduled : m.Scheduled) (rest : m.ready = []) :
    m.Suspended := by
  intro o among
  obtain ⟨i, here⟩ := List.mem_iff_getElem?.1 among
  obtain ⟨-, away⟩ := (scheduled.waits rest (phase?_worker here)).2 rfl rfl
  cases away

/-- The signal is heard. -/
theorem heard_of_signal {m : Machine} {signal : Action}
    (told : signal = .shutdown ∨ signal = .dropSwitch)
    (waiting : (m.after (.act signal)).control.stop.raised = true ∨ m.Suspended) :
    (m.after (.act signal)).Heard := by
  have stop : (m.after (.act signal)).control.stop = signal.turned m.control.stop := stop_act m signal
  have workers : (m.after (.act signal)).workers = m.workers := (wakes_act m signal).1.workers
  constructor
  · rw [stop, StopSignal.isStopped, Bool.or_eq_true]
    obtain rfl | rfl := told
    · show (m.control.stop.turn true).raised = true ∨ (m.control.stop.turn true).dropped = true
      unfold StopSignal.turn
      split
      next dropped => exact .inr dropped
      next => exact .inl rfl
    · exact .inr rfl
  · rw [workers]
    exact waiting

theorem grounded_iff {m : Machine} : ¬ m.InFlight ↔
    m.awaited = [] ∧ m.unfinished = [] ∧ m.producer.isListing = false := by
  have worker : ∀ p : WorkerPhase,
      (Phase.worker p).due = none ↔ p.awaited = none ∧ p.requested = none := by
    intro p
    cases p <;> simp [Phase.due, WorkerPhase.awaited, WorkerPhase.requested]
  have producer : ∀ p : ProducerPhase, (Phase.producer p).due = none ↔ p.isListing = false := by
    intro p
    cases p <;> simp [Phase.due, ProducerPhase.isListing]
  constructor
  · intro grounded
    have free : ∀ t p, m.phase? t = some p → p.due = none := fun t p here =>
      Option.eq_none_iff_forall_ne_some.2 fun u due => grounded ⟨t, p, u, here, due⟩
    have freely : ∀ p ∈ m.workers, p.awaited = none ∧ p.requested = none := by
      intro p among
      obtain ⟨i, here⟩ := List.mem_iff_getElem?.1 among
      exact (worker p).1 (free (.worker i) _ (phase?_worker here))
    exact ⟨List.filterMap_eq_nil_iff.2 fun p among => (freely p among).1,
      List.filterMap_eq_nil_iff.2 fun p among => (freely p among).2,
      (producer _).1 (free .producer _ rfl)⟩
  · rintro ⟨unasked, unstored, unlisted⟩ ⟨t, p, u, here, due⟩
    have free : p.due = none := by
      cases t with
      | producer =>
        cases here
        exact (producer _).2 unlisted
      | worker i =>
        obtain ⟨q, there, rfl⟩ := Option.map_eq_some_iff.1 here
        have among := List.mem_of_getElem? there
        exact (worker q).2 ⟨List.filterMap_eq_nil_iff.1 unasked q among,
          List.filterMap_eq_nil_iff.1 unstored q among⟩
    cases free.symm.trans due

/-- An answer that has come is that to a question, to a request, or a listing. -/
theorem length_landed? (m : Machine) (o : Occurrence) :
    (m.landed? o).toList.length = (m.atMove WorkerPhase.answer? o).toList.length +
      (m.atMove WorkerPhase.finished? o).toList.length + (m.returned? o).toList.length := by
  cases o with
  | move t =>
    cases t with
    | producer =>
      show ((Phase.producer m.producer).due.filter (· ≤ m.now)).toList.length = _
      unfold returned?
      cases m.producer with
      | listing next until_ =>
        by_cases come : until_ ≤ m.now
        · simp [Phase.due, atMove, come]
        · simp [Phase.due, atMove, come, Nat.lt_of_not_le come]
      | _ => rfl
    | worker i =>
      show ((m.workers[i]?.map Phase.worker).bind fun p => p.due.filter (· ≤ m.now)).toList.length =
        (m.workers[i]?.bind (WorkerPhase.answer? m.now)).toList.length +
          (m.workers[i]?.bind (WorkerPhase.finished? m.now)).toList.length
      cases m.workers[i]? with
      | none => rfl
      | some p =>
        have due : ∀ until_, ((some until_).filter (· ≤ m.now)).toList.length =
            if until_ ≤ m.now then 1 else 0 := by
          intro until_
          by_cases come : until_ ≤ m.now
          · simp [come]
          · simp [come, Nat.lt_of_not_le come]
        cases p with
        | calling held reply until_ =>
          refine (due until_).trans ?_
          by_cases come : until_ ≤ m.now <;>
            simp [WorkerPhase.answer?, WorkerPhase.finished?, come]
        | storing r until_ =>
          refine (due until_).trans ?_
          by_cases come : until_ ≤ m.now <;>
            simp [WorkerPhase.answer?, WorkerPhase.finished?, come]
        | _ => rfl
  | _ => rfl

theorem length_landed (m : Machine) (os : List Occurrence) : (m.landed os).length =
    (m.answers os).length + (m.finished os).length + (m.returned os).length := by
  induction os using List.reverseRecOn with
  | nil => rfl
  | append_singleton os o ih =>
    have last := (m.course os).length_landed? o
    rw [landed, answers, finished, returned] at ih ⊢
    simp only [noted_append_singleton, List.length_append]
    omega

/-- How a machine that has been told to stop comes to its end. -/
structure CleanStop (halted : Machine) (later : List Occurrence) (m : Machine) : Prop where
  /-- Nothing is put on the queue but from outside. -/
  queue : m.queue.items <:+ halted.queue.items ++ (halted.sent later).reverse
  /-- No question and no listing begins, and what is in flight is waited for. -/
  clearing :
    Clearing halted m (halted.answers later) (halted.finished later) (halted.returned later)
  landed : (halted.landed later).length = (halted.answers later).length +
    (halted.finished later).length + (halted.returned later).length
  /-- Each answer is taken up when it comes. -/
  due : ∀ t p u, m.phase? t = some p → p.due = some u → m.now ≤ u
  /-- When the last task is over nothing is in flight any more. -/
  ended : m.endedAt.isSome = true →
    m.awaited = [] ∧ m.unfinished = [] ∧ m.producer.isListing = false
  /-- While a task is not over an answer is still to come. -/
  waits : m.ready = [] → m.endedAt = none → ∃ t p u, m.phase? t = some p ∧ p.due = some u ∧
    m.now < u ∧ (u, t) ∈ m.timers
  /-- The end comes with the last answer, or with the signal if no answer is to come. -/
  last : halted.isOver = false → ∀ time, m.endedAt = some time →
    time = (halted.landed later).foldr max halted.now

theorem cleanStop_course {start : Machine} (quiet : start.Traffic [] [] [] [])
    (scheduled : start.Scheduled) {os later : List Occurrence} {signal : Action}
    (told : signal = .shutdown ∨ signal = .dropSwitch)
    (prompt : start.isPrompt (os ++ Occurrence.act signal :: later) = true)
    (waiting : (start.course (os ++ [Occurrence.act signal])).control.stop.raised = true ∨
      (start.course os).Suspended) :
    CleanStop (start.course (os ++ [Occurrence.act signal])) later
      (start.course (os ++ Occurrence.act signal :: later)) := by
  have split : os ++ Occurrence.act signal :: later = (os ++ [Occurrence.act signal]) ++ later :=
    List.append_cons _ _ _
  rw [split, isPrompt_append, Bool.and_eq_true] at prompt
  rw [split, course_append start _ later]
  obtain ⟨before, since⟩ := prompt
  have scheduled := scheduled_course scheduled before
  have heard : (start.course (os ++ [Occurrence.act signal])).Heard := by
    rw [course_append_singleton] at waiting ⊢
    exact heard_of_signal told waiting
  have clearing := clearing_course quiet rfl heard later
  generalize start.course (os ++ [Occurrence.act signal]) = halted at *
  have winds := winds_course heard later
  have scheduled' := scheduled_course scheduled since
  refine ⟨winds.items, clearing, length_landed halted later, fun t p u here due => ?_,
    fun ended => ?_, fun rest unended => ?_, fun awake time ended => ?_⟩
  · obtain ⟨early, -⟩ | ⟨now, -⟩ := (scheduled'.attended t).due p u here due
    · exact early.le
    · exact now.ge
  · rw [scheduled'.reported] at ended
    exact grounded_iff.1 (not_inFlight_of_isOver ended)
  · have awake : (halted.course later).isOver = false := by
      rw [← scheduled'.reported, unended]
      rfl
    obtain ⟨t, p, u, here, due⟩ := scheduled'.inFlight winds.heard rest awake
    exact ⟨t, p, u, here, due, (scheduled'.waits rest here).1 u due⟩
  · have closing := closing_course scheduled heard awake since
    have done : (halted.course later).isOver = true := by
      rw [← scheduled'.reported, ended]
      rfl
    exact Option.some.inj (ended.symm.trans (closing.closed done))

/-- **Clean shutdown.** The flag of the switch is raised, or its owner goes, in a prompt course of a
pipeline, at any point at which no worker is on its way to the gate or it finds the flag there. From then on
no call begins but those that the answers still to come lead to; whatever is in flight is waited for; and the
pipeline is over as soon as the last answer has come, at once if there is none, and not before. So it is in
every run, whenever the signal comes. -/
theorem clean_shutdown (polling : Polling) (workers : Nat) (source : Source)
    (repository : Repository) (signal : Action)
    (told : signal = .shutdown ∨ signal = .dropSwitch) :
    let start := pipeline polling workers { source, repository }
    (∀ os later : List Occurrence, start.isPrompt (os ++ Occurrence.act signal :: later) = true →
      ((start.course (os ++ [Occurrence.act signal])).control.stop.raised = true ∨
        (start.course os).Suspended) →
      CleanStop (start.course (os ++ [Occurrence.act signal])) later
        (start.course (os ++ Occurrence.act signal :: later))) ∧
    ∀ before after_ time, ∃ os later : List Occurrence,
      let last := (start.run (before ++ (time, signal) :: after_)).2
      last = start.course (os ++ Occurrence.act signal :: later) ∧ last.ready = [] ∧
        CleanStop (start.course (os ++ [Occurrence.act signal])) later last := by
  intro start
  have quiet : start.Traffic [] [] [] [] := traffic_pipeline polling workers source repository
  have scheduled : start.Scheduled := scheduled_pipeline polling workers _
  refine ⟨fun os later prompt waiting => cleanStop_course quiet scheduled told prompt waiting,
    fun before after_ time => ?_⟩
  obtain ⟨os, later, ran, prompt, rest, atEnd⟩ :=
    run_eq_promptCourse polling workers { source, repository } before after_ time signal
  have suspended : (start.course os).Suspended := by
    rw [isPrompt_append, Bool.and_eq_true] at prompt
    exact (scheduled_course scheduled prompt.1).suspended rest
  have stops := cleanStop_course quiet scheduled told prompt (.inr suspended)
  rw [← ran] at stops
  exact ⟨os, later, ran, atEnd, stops⟩

/-- A service that takes its time over two orders. -/
def slowSource : Source :=
  ⟨[("1", [⟨.ok ⟨"1", .processed, none⟩, 10⟩]), ("2", [⟨.error (.retryAfter 50), 6⟩])]⟩

/-- A pipeline with two workers whose store takes its time as well. -/
def slowPipeline : Machine :=
  pipeline ⟨1000, (10 : Nat)⟩ 2
    { source := slowSource, repository := { orders := [{ number := "1" }, { number := "2" }], delay := 2 } }

/-- Both workers come to wait for an answer. -/
def bothAsked : List Occurrence :=
  turns .producer 2 ++ turns (.worker 0) 3 ++ turns (.worker 1) 2 ++ [.ring 2] ++ turns .producer 5 ++
    turns (.worker 0) 2 ++ turns (.worker 1) 3 ++ [.pass 5]

/-- The answers come, and a request is made and answered. -/
def bothAnswered : List Occurrence :=
  turns .producer 1 ++ turns (.worker 0) 1 ++ turns (.worker 1) 1 ++ [.ring 8] ++ turns (.worker 1) 2 ++
    [.ring 12] ++ turns (.worker 0) 1 ++ [.ring 14] ++ turns (.worker 0) 2 ++ [.pass 20]

theorem clean_shutdown_bothAsked :
    (slowPipeline.run [(5, .dropSwitch), (20, .idle)]).2 =
        slowPipeline.course (bothAsked ++ .act .dropSwitch :: bothAnswered) ∧
      (slowPipeline.course (bothAsked ++ .act .dropSwitch :: bothAnswered)).endedAt = some 14 ∧
      14 = ((slowPipeline.course (bothAsked ++ [.act .dropSwitch])).landed bothAnswered).foldr max 5 := by
  have prompt : slowPipeline.isPrompt (bothAsked ++ .act .dropSwitch :: bothAnswered) = true := by
    decide +kernel
  have ended : (slowPipeline.course (bothAsked ++ .act .dropSwitch :: bothAnswered)).endedAt =
      some 14 := by decide +kernel
  refine ⟨by cbv, ended, ?_⟩
  have rest : (slowPipeline.course bothAsked).ready = [] := by decide +kernel
  have awake : (slowPipeline.course (bothAsked ++ [.act .dropSwitch])).isOver = false := by
    decide +kernel
  have now : (slowPipeline.course (bothAsked ++ [.act .dropSwitch])).now = 5 := by decide +kernel
  have suspended : (slowPipeline.course bothAsked).Suspended := by
    rw [isPrompt_append, Bool.and_eq_true] at prompt
    exact (scheduled_course (scheduled_pipeline _ _ _) prompt.1).suspended rest
  rw [← now]
  rw [slowPipeline] at prompt awake ended suspended ⊢
  have stops := (clean_shutdown _ _ _ _ .dropSwitch (.inr rfl)).1 bothAsked bothAnswered prompt
    (.inr suspended)
  exact stops.last awake 14 ended

end Machine

end Loyalty.Pipeline
