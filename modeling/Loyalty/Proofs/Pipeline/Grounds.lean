import Loyalty.Proofs.Pipeline.Traffic

/-!
# What a request rests on

A worker asks the order store for something only because of an answer of the accrual service.
`Grounds` says which answers settle an order and how, and `Undecided` which of them settle nothing; both
look at the answer alone and not at how a worker comes to its decision.

Every question is answered by a reply that the service was given for that number, however many questions
about it are under way at once (`mem_script_of_mem_questions`). So each request that was made rests on a
reply to a question about its own order.

Main statement: `grounded_course`, for every course of every machine that has called nothing yet.
-/

namespace Loyalty.Pipeline

/-! ### Answers that settle an order -/

/-- The answer settles the order of that number: it ends in the status, with the accrual. That there is
nothing about an order says so of the order asked about. -/
inductive Grounds (number : String) :
    Except AccrualError OrderAccrual → OrderStatus → Option Decimal → Prop where
  | nothing (about : String) : Grounds number (.error (.noContent about)) .invalid none
  | processed (accrual : Option Decimal) :
      Grounds number (.ok ⟨number, .processed, accrual⟩) .processed accrual
  | invalid (accrual : Option Decimal) :
      Grounds number (.ok ⟨number, .invalid, accrual⟩) .invalid accrual

/-- The answer says nothing about the order of that number. -/
inductive Undecided (number : String) : Except AccrualError OrderAccrual → Prop where
  | retryAfter (wait : Nat) : Undecided number (.error (.retryAfter wait))
  | unknown (detail : String) : Undecided number (.error (.unknown detail))
  | request (detail : String) : Undecided number (.error (.request detail))
  | circuitOpen (detail : String) : Undecided number (.error (.circuitOpen detail))
  | astray (answer : OrderAccrual) (other : answer.order ≠ number) : Undecided number (.ok answer)

theorem Grounds.isTerminal {number : String} {answer : Except AccrualError OrderAccrual}
    {status : OrderStatus} {accrual : Option Decimal} (h : Grounds number answer status accrual) :
    status.isTerminal = true := by
  cases h <;> rfl

section Decision

variable {held : Ticket} {reply : Reply} {r : Request}

theorem requestOf_eq_some_iff : requestOf (held, reply) = some r ↔
    followUp held reply.answer = .request r := by
  unfold requestOf
  split
  next r' decided =>
    rw [decided, Option.some.injEq, FollowUp.request.injEq]
  next other =>
    refine iff_of_false nofun fun decided => ?_
    exact other r decided

theorem number_of_requestOf (h : requestOf (held, reply) = some r) : r.number = held.number :=
  number_of_followUp (requestOf_eq_some_iff.1 h)

/-- A final request rests on an answer that settles its order. -/
theorem grounds_of_requestOf {number : String} {status : OrderStatus} {accrual : Option Decimal}
    (h : requestOf (held, reply) = some (.finalize number status accrual)) :
    Grounds held.number reply.answer status accrual := by
  have decided := requestOf_eq_some_iff.1 h
  unfold followUp at decided
  split at decided
  next about answered =>
    cases decided
    rw [answered]
    exact .nothing about
  next => cases decided
  next => cases decided
  next answer answered =>
    split at decided
    next => cases decided
    next own =>
      have own : answer.order = held.number := not_not.1 own
      obtain ⟨order, state, accrual'⟩ := answer
      rw [answered, ← own]
      cases state with
      | processed =>
        cases decided
        exact .processed _
      | invalid =>
        cases decided
        exact .invalid _
      | registered =>
        dsimp only at decided
        split at decided <;> cases decided
      | processing =>
        dsimp only at decided
        split at decided <;> cases decided

/-- On an answer that says nothing about the order nothing is asked of the store. -/
theorem requestOf_of_undecided (h : Undecided held.number reply.answer) :
    requestOf (held, reply) = none := by
  unfold requestOf
  generalize reply.answer = answer at h
  cases h with
  | astray answer other =>
    have decided : followUp held (.ok answer) = .leave .failed := if_pos other
    dsimp only
    rw [decided]
  | _ => rfl

end Decision

/-! ### The replies of the service -/

namespace Source

/-- All that the service may still reply about a number. -/
def script (s : Source) (number : String) : List Reply :=
  match s.replies.lookup number with
  | some (r :: rs) => r :: rs
  | _ => [unscripted]

theorem next_mem_script (s : Source) (number : String) : s.next number ∈ s.script number := by
  unfold next script
  match s.replies.lookup number with
  | none => exact List.mem_singleton_self _
  | some [] => exact List.mem_singleton_self _
  | some (_ :: _) => exact List.mem_cons_self

/-- A question about one number is none about another. -/
theorem lookup_asked (s : Source) (number other : String) :
    (s.asked number).replies.lookup other =
      if other = number then (s.replies.lookup other).map advance else s.replies.lookup other := by
  unfold asked
  induction s.replies with
  | nil => simp
  | cons entry entries ih =>
    obtain ⟨n, rs⟩ := entry
    rw [List.map_cons]
    by_cases own : other = n
    · subst own
      by_cases same : other = number
      · subst same
        simp
      · simp [same]
    · have skips : (other == n) = false := beq_false_of_ne own
      dsimp only
      by_cases same : n = number
      · rw [if_pos same, List.lookup_cons, List.lookup_cons, skips]
        exact ih
      · rw [if_neg same, List.lookup_cons, List.lookup_cons, skips]
        exact ih

/-- Nothing is added to the replies to come. -/
theorem script_asked_subset (s : Source) (number other : String) :
    (s.asked number).script other ⊆ s.script other := by
  intro reply
  unfold script
  rw [lookup_asked]
  by_cases own : other = number
  · rw [if_pos own]
    -- the last reply is not used up
    match s.replies.lookup other with
    | none => exact id
    | some [] => exact id
    | some [_] => exact id
    | some (first :: second :: rest) => exact List.mem_cons_of_mem first
  · rw [if_neg own]
    exact id

end Source

namespace Machine

section Step

variable {m m' : Machine} {i : Nat} {o : Occurrence}

theorem WorkerMove.source (h : WorkerMove m i m') :
    m'.site.source = m.site.source ∨ ∃ number, m'.site.source = m.site.source.asked number := by
  cases h with
  | calls o here opened unraised same =>
    rw [same]
    exact .inr ⟨o.number, rfl⟩
  | ends p here idle told same =>
    rw [same, hangUp_site]
    exact .inl rfl
  | loses held reply until_ wait here due decided beyond same =>
    rw [same, hangUp_site]
    exact .inl rfl
  | _ =>
    subst m'
    exact .inl rfl

theorem Step.script (h : Step m o m') (number : String) :
    m'.site.source.script number ⊆ m.site.source.script number := by
  cases h with
  | worker i what moved =>
    obtain same | ⟨other, same⟩ := moved.source
    · rw [same]
      exact List.Subset.refl _
    · rw [same]
      exact Source.script_asked_subset _ _ _
  | producer what moved =>
    have same : m'.site.source = m.site.source := by cases moved <;> subst m' <;> rfl
    rw [same]
    exact List.Subset.refl _
  | clock time what now later same =>
    rw [same]
    exact List.Subset.refl _
  | outside a what queue same =>
    rw [same]
    exact List.Subset.refl _

/-- The reply to a question is the next about its number. -/
theorem WorkerMove.reply (h : WorkerMove m i m') {question : Ticket × Reply}
    (begun : begun? i m m' = some question) :
    question.2 = m.site.source.next question.1.number := by
  cases h with
  | calls o here opened unraised same =>
    have inside : i < m.workers.length := (List.getElem?_eq_some_iff.1 here).1
    have there : m'.workers[i]? = some (.calling o (m.site.ask m.now o.number).1
        (m.now + (m.site.ask m.now o.number).1.delay)) := by
      rw [same]
      exact List.getElem?_set_self inside
    rw [begun?, here, there] at begun
    cases begun
    rfl
  | rests unanswered unstored same =>
    rw [same, begun?_self] at begun
    cases begun
  | walks p q here idle next held heard same =>
    rw [begun?_eq_none here (by rw [same]; rfl) (WorkerPhase.awaited_of_isIdle next)] at begun
    cases begun
  | ends p here idle told same =>
    rw [begun?_eq_none here (by rw [same, hangUp_workers]; rfl) rfl] at begun
    cases begun
  | loses held reply until_ wait here due decided beyond same =>
    rw [begun?_eq_none here (by rw [same, hangUp_workers]; rfl) rfl] at begun
    cases begun
  | takes o rest here items going same =>
    rw [begun?_eq_none here (by rw [same]; rfl) rfl] at begun
    cases begun
  | lets held reply until_ outcome here due decided same =>
    rw [begun?_eq_none here (by rw [same]; rfl) rfl] at begun
    cases begun
  | defers held reply until_ wait gate here due decided fits same =>
    rw [begun?_eq_none here (by rw [same]; rfl) rfl] at begun
    cases begun
  | requests held reply until_ r here due decided same =>
    rw [begun?_eq_none here (by rw [same]; rfl) rfl] at begun
    cases begun
  | stores r until_ here due same =>
    rw [begun?_eq_none here (by rw [same]; rfl) rfl] at begun
    cases begun

theorem reply_of_question? (m : Machine) {o : Occurrence} {question : Ticket × Reply}
    (begun : m.question? o = some question) :
    question.2 = m.site.source.next question.1.number := by
  have step := step_after m o
  unfold question? at begun
  split at begun
  next i =>
    cases step with
    | worker j what moved =>
      cases what
      exact moved.reply begun
    | producer what => cases what
    | clock time what => obtain what | what := what <;> cases what
    | outside a what => cases what
  next => cases begun

end Step

/-! ### Courses -/

theorem script_course (m : Machine) (os : List Occurrence) (number : String) :
    (m.course os).site.source.script number ⊆ m.site.source.script number := by
  induction os using List.reverseRecOn with
  | nil => exact List.Subset.refl _
  | append_singleton os o ih =>
    rw [course_append_singleton]
    exact List.Subset.trans ((step_after (m.course os) o).script number) ih

/-- Every question is answered out of what the service was given for its number. -/
theorem mem_script_of_mem_questions {m : Machine} {os : List Occurrence}
    {question : Ticket × Reply} (begun : question ∈ m.questions os) :
    question.2 ∈ m.site.source.script question.1.number := by
  induction os using List.reverseRecOn with
  | nil => cases begun
  | append_singleton os o ih =>
    rw [questions, noted_append_singleton, List.mem_append, Option.mem_toList] at begun
    obtain last | before := begun
    · rw [reply_of_question? _ last]
      exact script_course m os _ (Source.next_mem_script _ _)
    · exact ih before

/-- Every request that was made rests on the answer to a question about its order. -/
theorem grounded_course {m : Machine} (quiet : m.Traffic [] [] [] []) {os : List Occurrence}
    {r : Request} (made : r ∈ (m.course os).requested) :
    ∃ held reply, (held, reply) ∈ m.questions os ∧ (held, reply) ∈ m.answers os ∧
      reply ∈ m.site.source.script held.number ∧ requestOf (held, reply) = some r := by
  have traffic := traffic_course quiet os
  rw [traffic.requested] at made
  obtain ⟨⟨held, reply⟩, answered, decided⟩ := List.mem_filterMap.1 made
  have begun : (held, reply) ∈ m.questions os :=
    traffic.awaited.mem_iff.2 (List.mem_append_right _ answered)
  exact ⟨held, reply, begun, answered, mem_script_of_mem_questions begun, decided⟩

end Machine

end Loyalty.Pipeline
