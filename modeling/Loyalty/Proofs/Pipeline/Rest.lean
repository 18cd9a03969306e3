import Loyalty.Proofs.Pipeline.Effort

/-!
# Coming to rest

Every move that a runnable task makes leaves less to do, so `settle` gets all tasks to rest before its
patience is at an end, and a run only moves the clock while no task is runnable. So a run is a prompt
course, and whatever is done in it from outside is done while all tasks wait.

Main statements: `ready_settle` and `run_eq_promptCourse`.
-/

namespace Loyalty.Pipeline

namespace Machine

section

variable {m m' : Machine}

/-! ### Settling -/

theorem ProducerMove.paced (h : ProducerMove m m') (paced : m.Paced) : m'.Paced := by
  -- no other phase is reached without an interval
  have never : ∀ {p}, m.producer = p → p ≠ .starting → p.isOver = false →
      m'.polling = m.polling → m'.Paced := by
    rintro p rfl begun awake polling none_
    rw [polling] at none_
    obtain starting | done := paced none_
    · exact absurd starting begun
    · exact absurd (awake.symm.trans done) Bool.false_ne_true
  cases h with
  | rests unlisted blocked same =>
    rw [same]
    exact paced
  | starts here interval same =>
    rw [same]
    exact fun none_ => absurd none_ interval
  | ends p done told same =>
    rw [same]
    exact fun _ => .inr done
  | asks scheduled here due going same => exact never here nofun rfl (by rw [same])
  | misses next until_ cause here due listed same => exact never here nofun rfl (by rw [same])
  | lists next until_ batch here due listed same => exact never here nofun rfl (by rw [same])
  | pushes o batch next here going read room same => exact never here nofun rfl (by rw [same])
  | finishes next here same => exact never here nofun rfl (by rw [same])

theorem paced_after (paced : m.Paced) (o : Occurrence) : (m.after o).Paced := by
  have unbare : ∀ {x : Machine}, x.bare.Paced → x.Paced := id
  have step := step_after m o
  refine unbare ?_
  cases step with
  | worker i what moved =>
    intro none_
    rw [moved.polling] at none_
    rw [moved.producer]
    exact paced none_
  | producer what moved => exact moved.paced paced
  | clock time what now later same =>
    rw [same]
    exact paced
  | outside a what queue same =>
    rw [same]
    exact paced

/-- With its turn, a runnable task gives up one of the moves that are left. -/
theorem effort_step (paced : m.Paced) (stepped : m.step = some m') : m'.effort < m.effort := by
  have less : ∀ t rest, m.ready = t :: rest →
      (({ m with ready := rest }).moveTask t).effort < m.effort := by
    intro t rest runnable
    have tires := (tires_moveTask (m := { m with ready := rest }) paced t).effort
    have fewer : m.ready.length = rest.length + 1 := congrArg List.length runnable
    have popped : Machine.effort { m with ready := rest } + 1 = m.effort := by
      rw [Machine.effort, Machine.effort, fewer]
      rfl
    omega
  unfold step at stepped
  split at stepped
  · cases stepped
  next rest runnable =>
    cases stepped
    exact less .producer rest runnable
  next i rest runnable =>
    cases stepped
    exact less (.worker i) rest runnable

/-- Enough moves get all tasks to rest. -/
theorem ready_moves {n : Nat} (paced : m.Paced) (enough : m.effort ≤ n) :
    (moves n m).ready = [] := by
  induction n generalizing m with
  | zero =>
    have none_ : m.ready.length = 0 := by
      rw [Machine.effort] at enough
      omega
    exact List.length_eq_zero_iff.1 none_
  | succ n ih =>
    unfold moves
    split
    next rest =>
      unfold step at rest
      split at rest
      · assumption
      · cases rest
      · cases rest
    next m' stepped =>
      have less := effort_step paced stepped
      obtain ⟨t, rfl⟩ := step_eq_after stepped
      exact ih (paced_after paced _) (by omega)

/-- All tasks come to rest. -/
theorem ready_settle (paced : m.Paced) : m.settle.ready = [] :=
  ready_moves paced (effort_le_patience m)

end

/-! ### Runs -/

/-- Nobody asks to be woken at a time that has come. -/
def Ahead (m : Machine) : Prop := ∀ w ∈ m.timers, m.now < w.1

/-- What holds all along a run. -/
structure Running (m : Machine) : Prop where
  paced : m.Paced
  ahead : m.Ahead

section

variable {m : Machine}

theorem Running.moves (running : m.Running) (ts : List Task) :
    (m.course (ts.map .move)).Running ∧ m.isPrompt (ts.map .move) = true := by
  induction ts generalizing m with
  | nil => exact ⟨running, rfl⟩
  | cons t ts ih =>
    have tires := tires_moveTask (m := { m with ready := m.ready.erase t }) running.paced t
    have ahead : (m.after (.move t)).Ahead := by
      intro w among
      rw [now_move]
      exact (tires.timers w among).elim (running.ahead w) id
    exact ih ⟨paced_after running.paced _, ahead⟩

/-- All tasks come to rest, with nothing but moves. -/
theorem Running.settle (running : m.Running) : ∃ os, m.settle = m.course os ∧
    m.isPrompt os = true ∧ m.settle.Running ∧ m.settle.ready = [] := by
  obtain ⟨ts, settled⟩ := settle_eq_course m
  have moves := running.moves ts
  rw [← settled] at moves
  exact ⟨ts.map .move, settled, moves.2, moves.1, ready_settle running.paced⟩

theorem nextTimer?_spec {time : Nat} (next : m.nextTimer? = some time) :
    (∃ w ∈ m.timers, w.1 = time) ∧ ∀ w ∈ m.timers, time ≤ w.1 := by
  obtain ⟨among, least⟩ := List.min?_eq_some_iff.1 next
  obtain ⟨w, among, own⟩ := List.mem_map.1 among
  exact ⟨⟨w, among, own⟩, fun w among => least _ (List.mem_map_of_mem among)⟩

/-- Time goes by in which nobody is woken. -/
theorem Running.pass (running : m.Running) (rest : m.ready = []) {time : Nat}
    (before : ∀ w ∈ m.timers, time < w.1) :
    m.isPrompt [.pass time] = true ∧ (m.after (.pass time)).Running := by
  refine ⟨?_, running.paced, fun w among => ?_⟩
  · have all : m.timers.all (fun w => time < w.1) = true := by
      rw [List.all_eq_true]
      exact fun w among => decide_eq_true (before w among)
    rw [isPrompt, isPrompt, allows, rest, all]
    rfl
  · exact Nat.max_lt.2 ⟨running.ahead w among, before w among⟩

/-- The clock goes on to the first time at which tasks are woken. -/
theorem Running.ring (running : m.Running) (rest : m.ready = []) {time : Nat}
    (first : ∀ w ∈ m.timers, time ≤ w.1) (ahead : m.now ≤ time) :
    m.allows (.ring time) = true ∧ m.after (.ring time) = m.jump time ∧ (m.jump time).Running := by
  have jumped : m.after (.ring time) = m.jump time := if_pos ahead
  refine ⟨?_, jumped, ?_, fun w among => ?_⟩
  · have all : m.timers.all (fun w => time ≤ w.1) = true := by
      rw [List.all_eq_true]
      exact fun w among => decide_eq_true (first w among)
    rw [allows, rest, all]
    rfl
  · rw [← jumped]
    exact paced_after running.paced _
  · rw [timers_jump] at among
    rw [now_jump]
    simpa using (List.mem_filter.1 among).2

/-- The clock goes from one time at which tasks are woken to the next. -/
theorem Running.passUntil (running : m.Running) (rest : m.ready = []) (time : Nat) :
    ∃ os, m.passUntil time = m.course os ∧ m.isPrompt os = true ∧
      (m.passUntil time).Running ∧ (m.passUntil time).ready = [] := by
  induction m using passUntil.induct time with
  | case1 m none_ =>
    unfold Machine.passUntil
    rw [none_]
    have nobody : m.timers = [] := List.map_eq_nil_iff.1 (List.min?_eq_none_iff.1 none_)
    have before : ∀ w ∈ m.timers, time < w.1 := by
      rw [nobody]
      exact List.forall_mem_nil _
    have passes := running.pass rest before
    exact ⟨[.pass time], rfl, passes.1, passes.2, rest⟩
  | case2 m t next ahead ih =>
    unfold Machine.passUntil
    rw [next]
    dsimp only
    rw [dif_pos ahead]
    obtain ⟨allowed, jumped, running'⟩ := running.ring rest (nextTimer?_spec next).2 ahead.1.le
    obtain ⟨os, settled, prompt, running'', rest'⟩ := running'.settle
    obtain ⟨os', passed, prompt', last⟩ := ih running'' rest'
    refine ⟨.ring t :: (os ++ os'), ?_, ?_, last⟩
    · rw [passed, settled, ← course_append, ← jumped]
      rfl
    · rw [isPrompt, allowed, jumped, isPrompt_append, prompt, ← settled, prompt']
      rfl
  | case3 m t next behind =>
    unfold Machine.passUntil
    rw [next]
    dsimp only
    rw [dif_neg behind]
    obtain ⟨⟨w, among, own⟩, least⟩ := nextTimer?_spec next
    have later : m.now < t := own ▸ running.ahead w among
    have before : time < t := Nat.lt_of_not_le fun come => behind ⟨later, come⟩
    have passes := running.pass rest fun w among => before.trans_le (least w among)
    exact ⟨[.pass time], rfl, passes.1, passes.2, rest⟩

theorem Running.act (running : m.Running) (a : Action) : (m.act? a).2.Running := by
  obtain ⟨wakes, -⟩ := wakes_act m a
  refine ⟨paced_after running.paced (.act a), fun w among => ?_⟩
  rw [wakes.timers] at among
  rw [wakes.now]
  exact running.ahead w among

/-- What is done at a time is done while all tasks are at rest, and they come to rest again. -/
theorem Running.perform (running : m.Running) (time : Nat) (a : Action) :
    ∃ os rest : List Occurrence, (m.perform time a).2 = m.course (os ++ .act a :: rest) ∧
      m.isPrompt (os ++ .act a :: rest) = true ∧ (m.course os).ready = [] ∧
      (m.perform time a).2.Running ∧ (m.perform time a).2.ready = [] := by
  obtain ⟨before, settled, prompt, running', atRest⟩ := running.settle
  obtain ⟨way, passed, prompt', running'', atRest'⟩ := running'.passUntil atRest time
  obtain ⟨rest, done, prompt'', last⟩ := (running''.act a).settle
  have reached : m.course (before ++ way) = m.settle.passUntil time := by
    rw [course_append, ← settled, passed]
  have acted : ((m.settle.passUntil time).act? a).2 = (m.settle.passUntil time).after (.act a) := rfl
  refine ⟨before ++ way, rest, ?_, ?_, ?_, last⟩
  · rw [course_append, reached]
    exact done
  · rw [isPrompt_append, isPrompt_append, prompt, ← settled, prompt', reached, isPrompt]
    exact prompt''
  · rw [reached]
    exact atRest'

/-- The tasks of a run only take turns that a prompt course allows. -/
theorem Running.run (running : m.Running) (actions : List (Nat × Action)) :
    ∃ os, (m.run actions).2 = m.course os ∧ m.isPrompt os = true ∧ (m.run actions).2.Running ∧
      (m.ready = [] → (m.run actions).2.ready = []) := by
  induction actions generalizing m with
  | nil => exact ⟨[], rfl, rfl, running, id⟩
  | cons action actions ih =>
    obtain ⟨time, a⟩ := action
    obtain ⟨os, rest, performed, prompt, -, running', atRest⟩ := running.perform time a
    obtain ⟨os', ran, prompt', running'', last⟩ := ih running'
    refine ⟨os ++ .act a :: rest ++ os', ?_, ?_, running'', fun _ => last atRest⟩
    · rw [course_append, ← performed]
      exact ran
    · rw [isPrompt_append, prompt, ← performed, prompt']
      rfl

end

theorem run_append (m : Machine) (actions more : List (Nat × Action)) :
    (m.run (actions ++ more)).2 = ((m.run actions).2.run more).2 := by
  induction actions generalizing m with
  | nil => rfl
  | cons action actions ih => exact ih _

theorem running_pipeline (polling : Polling) (workers : Nat) (site : Site) :
    (pipeline polling workers site).Running :=
  ⟨fun _ => .inl rfl, nofun⟩

/-- **Runs of a pipeline are prompt courses.** What is done in them from outside is done while no task is
runnable, and at the end none is. -/
theorem run_eq_promptCourse (polling : Polling) (workers : Nat) (site : Site)
    (before later : List (Nat × Action)) (time : Nat) (a : Action) :
    let start := pipeline polling workers site
    let last := (start.run (before ++ (time, a) :: later)).2
    ∃ os rest : List Occurrence, last = start.course (os ++ .act a :: rest) ∧
      start.isPrompt (os ++ .act a :: rest) = true ∧ (start.course os).ready = [] ∧
      last.ready = [] := by
  intro start last
  obtain ⟨os, ran, prompt, running, -⟩ := (running_pipeline polling workers site).run before
  obtain ⟨os', rest, performed, prompt', atRest, running', settled⟩ := running.perform time a
  obtain ⟨os'', ran', prompt'', -, atEnd⟩ := running'.run later
  have split : os ++ os' ++ .act a :: (rest ++ os'') =
      os ++ ((os' ++ .act a :: rest) ++ os'') := by simp
  have reached : start.course os = (start.run before).2 := ran.symm
  have whole : last = (((start.run before).2.perform time a).2.run later).2 := run_append _ _ _
  refine ⟨os ++ os', rest ++ os'', ?_, ?_, ?_, ?_⟩
  · rw [whole, split, course_append, course_append, reached, ← performed]
    exact ran'
  · rw [split, isPrompt_append, isPrompt_append, prompt, reached, prompt', ← performed, prompt'']
    rfl
  · rw [course_append, reached]
    exact atRest
  · rw [whole]
    exact atEnd settled

end Machine

end Loyalty.Pipeline
