import Loyalty.Proofs.Pipeline.Batches
import Loyalty.Proofs.Pipeline.Schedule

/-!
# What a producer puts on the queue

A producer puts on the queue what it has listed, order by order, and asks for no other listing before
all of it is there. While it waits for room it may be told to stop, or find that nobody reads the queue
any more; then it drops what is left of the batch, and is over. So what was ever put on the queue is how
the batches begin when they are strung together, wherever the course is cut off.

Most moves of the producer show nothing of this. One that does brings a batch, or an order of the last
batch (`ProducerMove.shows`), and both halves of the account come from that alone: what was listed is on
the queue or still left (`Feeds`), and what came onto the queue is there or was taken from it
(`taken_append_after`).

Main statement: `queues_what_it_lists`, for every course of a producer whose queue is read from outside.
-/

namespace Loyalty.Pipeline

/-- What the producer still has to put on the queue. -/
def ProducerPhase.left : ProducerPhase → List Ticket
  | .pushing batch _ => batch
  | _ => []

namespace Machine

/-! ### What an observer notes -/

def taken? (m : Machine) : Occurrence → Option (List Ticket)
  | .act a =>
    match (m.act? a).1 with
    | .received o => some o.toList
    | .drained os => some os
    | _ => none
  | _ => none

/-- All orders that were taken from the queue outside, in turn. -/
def taken (m : Machine) (os : List Occurrence) : List Ticket := (m.noted taken? os).reverse.flatten

/-- All batches that were listed, strung together in the order of the ticks. -/
def strung (m : Machine) (os : List Occurrence) : List Ticket := (m.listed os).reverse.flatten

section Step

variable {m m' : Machine} {i : Nat} {o : Occurrence} {a : Action} {listed : List (List Ticket)}
  {pushed : List Ticket}

/-! ### One move of the producer -/

/-- What a move of the producer shows: nothing, a batch, or an order that comes onto the queue. -/
inductive Shows (m m' : Machine) : Prop where
  /-- What is left stays so, unless it is dropped at the end. -/
  | nothing (unlisted : m.listed? (.move .producer) = none)
      (unpushed : m.pushed? (.move .producer) = none) (items : m'.queue.items = m.queue.items)
      (left : m'.producer.left = m.producer.left ∨
        m'.producer.isOver = true ∧ m'.producer.left = [])
  | batch (listed : m.listed? (.move .producer) = some m'.producer.left)
      (unpushed : m.pushed? (.move .producer) = none) (items : m'.queue.items = m.queue.items)
      (awake : m.producer.isOver = false) (left : m.producer.left = [])
  | order (o : Ticket) (unlisted : m.listed? (.move .producer) = none)
      (pushed : m.pushed? (.move .producer) = some o)
      (items : m'.queue.items = m.queue.items ++ [o])
      (left : m.producer.left = o :: m'.producer.left)

theorem Silent.shows (silent : m.Silent) (items : m'.queue.items = m.queue.items)
    (left : m'.producer.left = m.producer.left ∨
      m'.producer.isOver = true ∧ m'.producer.left = []) : Shows m m' :=
  .nothing silent.1 silent.2.1 items left

theorem ProducerMove.shows (h : ProducerMove m m') : Shows m m' := by
  cases h with
  | rests unlisted blocked same =>
    rw [same]
    exact (silent_of_rests unlisted blocked).shows rfl (.inl rfl)
  | starts here interval same =>
    refine (silent_of_starting here).shows (by rw [same]) (.inl ?_)
    rw [same, here]
    rfl
  | ends p done told same =>
    have dropped : m'.producer.isOver = true ∧ m'.producer.left = [] := by
      rw [same]
      cases p <;> first | exact ⟨rfl, rfl⟩ | cases done
    exact (silent_of_ends told).shows (by rw [same]) (.inr dropped)
  | asks scheduled here due going same =>
    refine (silent_of_ticking here).shows (by rw [same]) (.inl ?_)
    rw [same, here]
    rfl
  | misses next until_ cause here due missed same =>
    refine (silent_of_listing here fun _ => by rw [missed]; rfl).shows (by rw [same]) (.inl ?_)
    rw [same, here]
    rfl
  | lists next until_ batch here due found same =>
    refine .batch ?_ (by rw [pushed?, here]) (by rw [same]) (by rw [here]; rfl) (by rw [here]; rfl)
    rw [listed?_of_listing here due found, same]
    rfl
  | pushes o batch next here going read room same =>
    refine .order o (by rw [listed?, here]) (pushed?_of_pushing here going read room)
      (by rw [same]) ?_
    rw [here, same]
    rfl
  | finishes next here same =>
    refine .nothing (by rw [listed?, here]) (by rw [pushed?, here]) (by rw [same]) (.inl ?_)
    rw [same, here]
    rfl

@[simp] theorem producer_produceAt (m : Machine) (time : Nat) (p : ProducerPhase) :
    (m.produceAt time p).producer = p := by
  unfold produceAt
  split <;> rfl

/-- Why a producer is over after its next move. -/
inductive Leaves (m : Machine) : Prop where
  | stopped (told : m.control.stop.isStopped = true)
  | unread (closed : m.queue.read = false) (o : Ticket) (batch : List Ticket) (next : Nat)
      (here : m.producer = .pushing (o :: batch) next)

/-- Only who has an order to put on the queue minds that nobody reads it. -/
theorem leaves_moveProducer (paced : m.polling.interval ≠ 0) (awake : m.producer.isOver = false)
    (gone : m.moveProducer.producer.isOver = true) : m.Leaves := by
  have way := producerWay_moveProducer m
  generalize reached : m.moveProducer = m' at way gone
  have stays : m'.producer.isOver = false → m.Leaves := fun going => by
    rw [going] at gone
    cases gone
  cases way with
  | stops here told same => exact .stopped told
  | hangs o batch next here going unread same => exact .unread unread o batch next here
  | fails here interval same => exact absurd interval paced
  | rests done same => exact stays (by rw [same, awake])
  | listens next until_ here early same => exact stays (by rw [same, awake])
  | blocks o batch next here going full same => exact stays (by rw [same, awake])
  | starts here interval same => exact stays (by rw [same]; rfl)
  | waits scheduled here going early same => exact stays (by rw [same, producer_produceAt]; rfl)
  | asks scheduled here going due same => exact stays (by rw [same, producer_produceAt]; rfl)
  | misses next until_ cause here due listed same => exact stays (by rw [same]; rfl)
  | lists next until_ batch here due listed same => exact stays (by rw [same]; rfl)
  | finishes next here same => exact stays (by rw [same]; rfl)
  | pushes o batch next here going read room same => exact stays (by rw [same]; rfl)

/-! ### One occurrence -/

/-- What an occurrence makes of a machine without workers, both without their schedules. -/
inductive FeedStep (m : Machine) (o : Occurrence) (m' : Machine) : Prop where
  | producer (what : o = .move .producer) (moved : ProducerMove m m')
  | elsewhere (inside : ∀ a, o ≠ .act a) (other : o ≠ .move .producer) (now : Nat)
      (same : m' = { m with now })
  | outside (a : Action) (what : o = .act a) (queue : Queue) (queued : QueueStep m a queue)
      (same : m' = { m with
        control := { m.control with stop := a.turned m.control.stop }
        queue
        site := { m.site with repository := { m.site.repository with
          orders := m.site.repository.orders ++ a.registered } } })

theorem queueStep_act (m : Machine) (a : Action) : QueueStep m.bare a (m.act? a).2.queue := by
  obtain ⟨queue, queued, same⟩ := bare_act m a
  have own : (m.act? a).2.queue = queue := congrArg Machine.queue same
  rw [own]
  exact queued

/-- Where there is no worker nothing moves. -/
theorem WorkerMove.eq_of_none (moved : WorkerMove m i m') (nobody : m.workers[i]? = none) :
    m' = m := by
  cases moved with
  | rests unanswered unstored same => exact same
  | walks p q here | ends p here | takes o rest here | calls o here
  | lets held reply until_ outcome here | defers held reply until_ wait gate here
  | loses held reply until_ wait here | requests held reply until_ r here | stores r until_ here =>
    rw [nobody] at here
    cases here

/-- The step lemma of a producer alone. -/
theorem feedStep_after (alone : m.workers = []) (o : Occurrence) :
    FeedStep m.bare o (m.after o).bare := by
  have step := step_after m o
  cases step with
  | producer what moved => exact .producer what moved
  | worker i what moved =>
    subst what
    have nobody : m.bare.workers[i]? = none := by
      show m.workers[i]? = none
      rw [alone]
      rfl
    exact .elsewhere (by simp) (by simp) m.now (moved.eq_of_none nobody)
  | clock time what now later same =>
    obtain rfl | rfl := what
    · exact .elsewhere (by simp) (by simp) now same
    · exact .elsewhere (by simp) (by simp) now same
  | outside a what queue same queued => exact .outside a what queue queued same

@[simp] theorem queue_wakeProducer (m : Machine) : m.wakeProducer.queue = m.queue := by
  unfold wakeProducer wake
  split
  · split <;> rfl
  · rfl

/-- What is taken and what stays is what was there, unless somebody outside puts more on the queue. -/
theorem taken_append_act (m : Machine) (own : ∀ x, a ≠ .send x) :
    (m.taken? (.act a)).toList.flatten ++ (m.act? a).2.queue.items = m.queue.items := by
  have step := queueStep_act m a
  cases a with
  | send x => exact absurd rfl (own x)
  | receive =>
    cases items : m.queue.items <;> simp [taken?, act?, items]
  | drain => simp [taken?, act?]
  | _ => exact (step.items (by simp) (by simp)).trans (List.append_nil _)

/-- Nobody but the producer shows what it does. -/
theorem nothing_elsewhere (other : o ≠ .move .producer) :
    m.listed? o = none ∧ m.pushed? o = none := by
  match o with
  | .move .producer => exact absurd rfl other
  | .move (.worker i) | .pass time | .ring time | .act a => exact ⟨rfl, rfl⟩

theorem producer_elsewhere (other : o ≠ .move .producer) : (m.after o).producer = m.producer := by
  have step := step_after m o
  generalize reached : m.after o = x at step ⊢
  suffices same : x.bare.producer = m.bare.producer from same
  cases step with
  | producer what moved => exact absurd what other
  | worker i what moved => exact moved.producer
  | clock time what now later same => rw [same]
  | outside a what queue same => rw [same]

/-- What is taken and what stays is what was there and what the producer puts there. -/
theorem taken_append_after (alone : m.workers = []) (own : ∀ x, o ≠ .act (.send x)) :
    (m.taken? o).toList.flatten ++ (m.after o).queue.items =
      m.queue.items ++ (m.pushed? o).toList := by
  have step := feedStep_after alone o
  have bare : (m.after o).queue.items = (m.after o).bare.queue.items := rfl
  cases step with
  | producer what moved =>
    subst what
    show (m.after (.move .producer)).bare.queue.items = m.bare.queue.items ++
      (m.bare.pushed? (.move .producer)).toList
    cases moved.shows with
    | nothing unlisted unpushed items => rw [unpushed, items]; exact (List.append_nil _).symm
    | batch listed unpushed items => rw [unpushed, items]; exact (List.append_nil _).symm
    | order o unlisted pushed items => rw [pushed, items]; rfl
  | elsewhere inside other now same =>
    have untaken : m.taken? o = none := by
      cases o with
      | act a => exact absurd rfl (inside a)
      | _ => rfl
    rw [bare, same, untaken, (nothing_elsewhere other).2]
    exact (List.append_nil _).symm
  | outside a what queue queued same =>
    subst what
    refine (taken_append_act m fun x what => own x (congrArg _ what)).trans ?_
    exact (List.append_nil _).symm

/-! ### What is listed and what is put on the queue -/

/-- All that was listed is on the queue, or left to be put there, or was dropped at the end. -/
def Feeds (m : Machine) (listed : List (List Ticket)) (pushed : List Ticket) : Prop :=
  ∃ dropped, listed.reverse.flatten = pushed.reverse ++ m.producer.left ++ dropped ∧
    (m.producer.isOver = false → dropped = [])

theorem Shows.feeds (shows : Shows m m')
    (goes : m'.producer.isOver = false → m.producer.isOver = false) (feeds : m.Feeds listed pushed) :
    m'.Feeds ((m.listed? (.move .producer)).toList ++ listed)
      ((m.pushed? (.move .producer)).toList ++ pushed) := by
  obtain ⟨dropped, split, kept⟩ := feeds
  cases shows with
  | nothing unlisted unpushed items left =>
    rw [unlisted, unpushed]
    obtain same | ⟨done, gone⟩ := left
    · refine ⟨dropped, ?_, fun awake => kept (goes awake)⟩
      rw [same]
      exact split
    · refine ⟨m.producer.left ++ dropped, ?_, fun awake => ?_⟩
      · rw [gone, List.append_nil, ← List.append_assoc]
        exact split
      · rw [done] at awake
        cases awake
  | batch new unpushed items awake left =>
    -- who takes up a listing has nothing left of the batches before
    rw [new, unpushed]
    obtain rfl := kept awake
    refine ⟨[], ?_, fun _ => rfl⟩
    rw [left, List.append_nil, List.append_nil] at split
    simp [split]
  | order o unlisted new items left =>
    rw [unlisted, new]
    refine ⟨dropped, ?_, fun awake => kept (goes awake)⟩
    rw [left] at split
    simp [split]

/-- The step lemma of what is listed and put on the queue. -/
theorem Feeds.after (feeds : m.Feeds listed pushed) (o : Occurrence) :
    (m.after o).Feeds ((m.listed? o).toList ++ listed) ((m.pushed? o).toList ++ pushed) := by
  by_cases what : o = .move .producer
  · subst what
    have moved := producerMove_after m
    refine moved.shows.feeds (m := m.bare) (fun awake => ?_) feeds
    refine eq_false_of_ne_true fun done => ?_
    rw [moved.eq_of_isOver done, done] at awake
    cases awake
  · obtain ⟨unlisted, unpushed⟩ := nothing_elsewhere (m := m) what
    rw [unlisted, unpushed, Feeds, producer_elsewhere what]
    exact feeds

/-- Only a move of the producer can be its last. -/
theorem eq_move_of_isOver (awake : m.producer.isOver = false)
    (gone : (m.after o).producer.isOver = true) : o = .move .producer := by
  by_contra other
  rw [producer_elsewhere other, awake] at gone
  cases gone

theorem leaves_of_isOver (paced : m.polling.interval ≠ 0) (awake : m.producer.isOver = false)
    (gone : (m.after (.move .producer)).producer.isOver = true) : m.Leaves := by
  cases leaves_moveProducer (m := { m with ready := m.ready.erase .producer }) paced awake gone with
  | stopped told => exact .stopped told
  | unread closed o batch next here => exact .unread closed o batch next here

/-- A listing begins only where the producer waits for its next tick. -/
theorem listings_after (alone : m.workers = []) (o : Occurrence) :
    (m.after o).listings = m.listings ∨ ∃ scheduled, m.producer = .ticking scheduled := by
  have step := feedStep_after alone o
  generalize reached : m.after o = x at step ⊢
  have quiet : x.bare.site.log = m.bare.site.log → x.listings = m.listings := fun same =>
    congrArg (List.filter fun c : CallRecord => c.call.isList) same
  cases step with
  | producer what moved =>
    cases moved with
    | asks scheduled here due going same => exact .inr ⟨scheduled, here⟩
    | rests unlisted blocked same | starts here interval same | ends p done told same
    | misses next until_ cause here due missed same | lists next until_ batch here due found same
    | pushes o batch next here going read room same | finishes next here same =>
      exact .inl (quiet (congrArg (fun x => x.site.log) same))
  | elsewhere inside other now same => exact .inl (quiet (by rw [same]))
  | outside a what queue queued same => exact .inl (quiet (by rw [same]))

/-- A listing that failed is taken up, and the next tick is waited for. -/
theorem after_missed {next until_ : Nat} {cause : Failure} (here : m.producer = .listing next until_)
    (due : until_ ≤ m.now) (missed : (m.site.list m.polling.batch).1 = .error cause) :
    (m.after (.move .producer)).producer = .ticking next ∧ m.Silent := by
  refine ⟨?_, silent_of_listing here fun _ => by rw [missed]; rfl⟩
  have moved := producerMove_after m
  generalize reached : m.after (.move .producer) = x at moved ⊢
  suffices ticks : x.bare.producer = .ticking next from ticks
  cases moved with
  | misses next' until' cause' here' due' listed same =>
    cases here.symm.trans here'
    rw [same]
  | lists next' until' batch here' due' listed same =>
    cases here.symm.trans here'
    cases missed.symm.trans listed
  | rests unlisted => exact absurd due (Nat.not_le.2 (unlisted next until_ here))
  | ends p done told =>
    rcases told with ⟨here', -⟩ | ⟨-, ⟨scheduled, here'⟩ | ⟨o, batch, next', here'⟩⟩
    all_goals cases here.symm.trans here'
  | starts here' | asks scheduled here' | pushes o batch next' here' | finishes next' here' =>
    cases here.symm.trans here'

end Step

/-! ### Courses -/

/-- What holds of a machine without workers after a course. -/
structure Alone (polling : Polling) (m : Machine) (os : List Occurrence) : Prop where
  workers : m.workers = []
  polling : m.polling = polling
  /-- Nobody is told to stop unless the switch was turned, or its owner gone. -/
  told : m.control.stop.isStopped = true → .act .shutdown ∈ os ∨ .act .dropSwitch ∈ os
  unread : m.queue.read = false → .act .closeReader ∈ os

theorem Alone.after {polling : Polling} {m : Machine} {os : List Occurrence}
    (alone : Alone polling m os) (o : Occurrence) : Alone polling (m.after o) (os ++ [o]) := by
  have step := feedStep_after alone.workers o
  generalize reached : m.after o = x at step ⊢
  suffices kept : x.bare.workers = m.workers ∧ x.bare.polling = m.polling ∧
      (x.bare.control.stop.isStopped = true → m.control.stop.isStopped = true ∨
        o = .act .shutdown ∨ o = .act .dropSwitch) ∧
      (x.bare.queue.read = false → m.queue.read = false ∨ o = .act .closeReader) by
    obtain ⟨workers, polling, told, unread⟩ := kept
    refine ⟨workers.trans alone.workers, polling.trans alone.polling, fun stopped => ?_,
      fun closed => ?_⟩
    · rw [List.mem_append, List.mem_append, List.mem_singleton, List.mem_singleton]
      obtain before | rfl | rfl := told stopped
      · exact (alone.told before).imp .inl .inl
      · exact .inl (.inr rfl)
      · exact .inr (.inr rfl)
    · rw [List.mem_append, List.mem_singleton]
      exact (unread closed).imp alone.unread Eq.symm
  cases step with
  | producer what moved =>
    refine ⟨moved.workers, ?_, fun stopped => .inl ?_, fun closed => .inl ?_⟩
    · cases moved <;> rename_i same <;> rw [same] <;> rfl
    · rw [moved.control] at stopped
      exact stopped
    · rw [← closed]
      cases moved <;> rename_i same <;> rw [same] <;> rfl
  | elsewhere inside other now same =>
    rw [same]
    exact ⟨rfl, rfl, .inl, .inl⟩
  | outside a what queue queued same =>
    subst what
    rw [same]
    refine ⟨rfl, rfl, fun stopped => ?_, fun closed => ?_⟩
    · cases a with
      | shutdown => exact .inr (.inl rfl)
      | dropSwitch => exact .inr (.inr rfl)
      | _ => exact .inl stopped
    · by_cases closing : a = .closeReader
      · exact .inr (by rw [closing])
      · exact .inl ((queued.read closing).symm.trans closed)

section Course

variable {polling : Polling} {start : Machine}

theorem alone_course (opened : Alone polling start []) (os : List Occurrence) :
    Alone polling (start.course os) os := by
  induction os using List.reverseRecOn with
  | nil => exact opened
  | append_singleton os o ih =>
    rw [course_append_singleton]
    exact ih.after o

theorem feeds_course (opened : start.Feeds [] []) (os : List Occurrence) :
    (start.course os).Feeds (start.listed os) (start.pushed os) := by
  induction os using List.reverseRecOn with
  | nil => exact opened
  | append_singleton os o ih =>
    rw [course_append_singleton, listed, pushed, noted_append_singleton, noted_append_singleton]
    exact ih.after o

/-- If nobody else puts orders on the queue, it holds what the producer put there and nobody took. -/
theorem taken_append_course (opened : Alone polling start []) (empty : start.queue.items = [])
    {os : List Occurrence} (own : ∀ x, .act (.send x) ∉ os) :
    start.taken os ++ (start.course os).queue.items = (start.pushed os).reverse := by
  induction os using List.reverseRecOn with
  | nil => exact empty
  | append_singleton os o ih =>
    have before := ih fun x among => own x (List.mem_append_left _ among)
    have last : ∀ x, o ≠ .act (.send x) := by
      intro x what
      exact own x (by simp [what])
    have step := taken_append_after (alone_course opened os).workers last
    have later : start.taken (os ++ [o]) =
        start.taken os ++ ((start.course os).taken? o).toList.flatten := by
      rw [taken, noted_append_singleton, List.reverse_append, List.flatten_append, taken]
      cases (start.course os).taken? o <;> rfl
    rw [later, course_append_singleton, List.append_assoc, step, ← List.append_assoc, before, pushed,
      pushed, noted_append_singleton, List.reverse_append]
    cases (start.course os).pushed? o <;> rfl

/-- A producer that is over had its reason when it made its last move. -/
theorem leaves_course (opened : Alone polling start []) (paced : polling.interval ≠ 0)
    (awake : start.producer.isOver = false) {os : List Occurrence}
    (done : (start.course os).producer.isOver = true) :
    ∃ before rest, os = before ++ .move .producer :: rest ∧
      (start.course before).producer.isOver = false ∧ (start.course before).Leaves := by
  induction os using List.reverseRecOn with
  | nil => exact absurd (awake.symm.trans done) Bool.false_ne_true
  | append_singleton os o ih =>
    -- it was over before the last occurrence, or that was its last move
    cases now : (start.course os).producer.isOver with
    | true =>
      obtain ⟨before, rest, rfl, going, leaves⟩ := ih now
      exact ⟨before, rest ++ [o], by simp, going, leaves⟩
    | false =>
      rw [course_append_singleton] at done
      obtain rfl := eq_move_of_isOver now done
      have pace := (alone_course opened os).polling
      exact ⟨os, [], rfl, now, leaves_of_isOver (by rw [pace]; exact paced) now done⟩

end Course

/-- **The producer queues exactly what it listed.** Whatever the store answers and whatever happens in
whatever order: what the producer has put on the queue is how the listed batches begin when they are
strung together, and it is all of them whenever a new listing begins. It is on the queue, or was taken
from it in that order, unless somebody else puts orders there too. A listing that failed adds nothing,
and the next tick is waited for. And if the producer is over, it was told to stop, or found before an
order that nobody reads the queue any more. -/
theorem queues_what_it_lists (interval capacity : Nat) (limit : Int) (source : Source)
    (repository : Repository) (os : List Occurrence) (paced : interval ≠ 0) :
    let start := producerOnly ⟨interval, limit⟩ capacity { source, repository }
    let m := start.course os
    let put := (start.pushed os).reverse
    put <+: start.strung os ∧
    ((∀ x, .act (.send x) ∉ os) → put = start.taken os ++ m.queue.items) ∧
    (∀ o, (m.after o).listings ≠ m.listings → put = start.strung os) ∧
    (∀ next until_ cause, m.producer = .listing next until_ → until_ ≤ m.now →
      (m.site.list limit).1 = .error cause →
        (m.after (.move .producer)).producer = .ticking next ∧
          start.listed (os ++ [.move .producer]) = start.listed os ∧
          start.pushed (os ++ [.move .producer]) = start.pushed os) ∧
    (m.producer.isOver = true → ∃ before rest, os = before ++ .move .producer :: rest ∧
      let last := start.course before
      last.producer.isOver = false ∧
        (last.control.stop.isStopped = true ∧
            (.act .shutdown ∈ before ∨ .act .dropSwitch ∈ before) ∨
          last.queue.read = false ∧ .act .closeReader ∈ before ∧
            ∃ o batch next, last.producer = .pushing (o :: batch) next)) := by
  intro start m put
  have opened : Alone ⟨interval, limit⟩ start [] :=
    ⟨rfl, rfl, fun told => absurd told Bool.false_ne_true,
      fun closed => absurd closed.symm Bool.false_ne_true⟩
  have alone := alone_course opened os
  have empty : start.Feeds [] [] := ⟨[], rfl, fun _ => rfl⟩
  obtain ⟨dropped, split, kept⟩ := feeds_course empty os
  have split : start.strung os = put ++ (m.producer.left ++ dropped) := by
    rw [← List.append_assoc]
    exact split
  refine ⟨⟨_, split.symm⟩, fun own => (taken_append_course opened rfl own).symm,
    fun o begun => ?_, ?_, ?_⟩
  · obtain same | ⟨scheduled, here⟩ := listings_after alone.workers o
    · exact absurd same begun
    · have nothing : m.producer.left = [] := by rw [here]; rfl
      have whole : dropped = [] := kept (by rw [here]; rfl)
      rw [split, nothing, whole, List.append_nil, List.append_nil]
  · intro next until_ cause here due missed
    rw [← show m.polling.batch = limit from congrArg Polling.batch alone.polling] at missed
    obtain ⟨goes, unlisted, unpushed, -⟩ := after_missed here due missed
    refine ⟨goes, ?_, ?_⟩
    · rw [listed, noted_append_singleton, unlisted]
      rfl
    · rw [pushed, noted_append_singleton, unpushed]
      rfl
  · intro done
    obtain ⟨before, rest, rfl, awake, leaves⟩ := leaves_course opened paced rfl done
    have reached := alone_course opened before
    refine ⟨before, rest, rfl, awake, ?_⟩
    cases leaves with
    | stopped told => exact .inl ⟨told, reached.told told⟩
    | unread closed o batch next here =>
      exact .inr ⟨closed, reached.unread closed, o, batch, next, here⟩

/-- A store that answers a listing of two orders, then fails, then lists two orders again and again. -/
def failingOnce : Repository :=
  { listings := some [.ok [⟨"1", .new⟩, ⟨"2", .new⟩], .error (.database .poolTimedOut),
      .ok [⟨"2", .processing⟩, ⟨"3", .new⟩]] }

/-- A producer that has room for one order, and is told to stop while it waits for room. -/
def loneProducer : Machine :=
  producerOnly ⟨1000, 10⟩ 1 { source := {}, repository := failingOnce }

def stoppedWhileWaiting : List Occurrence :=
  turns .producer 5 ++ [.act .receive] ++ turns .producer 2 ++ [.ring 1000] ++ turns .producer 2 ++
    [.ring 2000] ++ turns .producer 3 ++ [.act .drain] ++ turns .producer 2 ++
    [.act .shutdown] ++ turns .producer 1

theorem queues_what_it_lists_stoppedWhileWaiting :
    let put := (loneProducer.pushed stoppedWhileWaiting).reverse
    let m := loneProducer.course stoppedWhileWaiting
    put = [⟨"1", .new⟩, ⟨"2", .new⟩, ⟨"2", .processing⟩] ∧
      put <+: [⟨"1", .new⟩, ⟨"2", .new⟩, ⟨"2", .processing⟩, ⟨"3", .new⟩] ∧
      put = loneProducer.taken stoppedWhileWaiting ++ m.queue.items ∧
      ∃ before rest, stoppedWhileWaiting = before ++ .move .producer :: rest ∧
        (loneProducer.course before).producer.isOver = false := by
  intro put m
  have strung : loneProducer.strung stoppedWhileWaiting =
      [⟨"1", .new⟩, ⟨"2", .new⟩, ⟨"2", .processing⟩, ⟨"3", .new⟩] := by decide +kernel
  have own : ∀ x, Occurrence.act (.send x) ∉ stoppedWhileWaiting := by
    intro x among
    simp [stoppedWhileWaiting, turns] at among
  obtain ⟨within, stock, -, -, reason⟩ := queues_what_it_lists 1000 1 10 {} failingOnce
    stoppedWhileWaiting (by decide)
  obtain ⟨before, rest, split, awake, -⟩ := reason (by decide +kernel)
  refine ⟨by decide +kernel, ?_, stock own, before, rest, split, awake⟩
  rw [← strung]
  exact within

end Machine

end Loyalty.Pipeline
