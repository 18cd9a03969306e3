import Loyalty.Proofs.Pipeline.Feed
import Loyalty.Proofs.Pipeline.Shutdown

/-!
# The pace of the listings

When a listing begins, the producer sets the time of its next tick: an interval after the tick that the
listing was due at, or an interval after the listing itself if it has begun too late to be on time. So a
producer that was held up, by a slow store or by a queue without room, makes up for nothing. Whatever
holds it up, the tick that comes next lies so many intervals after each listing as there were listings
since, but for the tolerance (`Spaced`), and a listing never begins before its tick.

How long a listing takes is left open: the clock of a course may move on while the answer is there to be
taken up. Only that the producer is woken at its tick is asked for where a listing is to begin at a given
time (`isPunctual`), and every prompt course keeps to that (`isPunctual_of_isPrompt`).

Main statement: `never_bursts`, for every course of any machine with a producer.
-/

namespace Loyalty.Pipeline

def ProducerPhase.tick? : ProducerPhase → Option Nat
  | .ticking next | .listing next _ | .pushing _ next => some next
  | _ => none

namespace Polling

/-- The next tick lies an interval after the last one, and after the listing but for the tolerance. -/
theorem add_interval_le_next (p : Polling) (scheduled now : Nat) :
    scheduled + p.interval ≤ p.next scheduled now ∧
      now + p.interval ≤ p.next scheduled now + tolerance := by
  by_cases late : scheduled + tolerance < now
  · rw [next_of_lt late]
    omega
  · rw [next_of_le (Nat.not_lt.1 late)]
    omega

/-- A listing that begins with its tick, or too late to be on time, has the next tick an interval
after it. -/
theorem next_eq {p : Polling} {scheduled now : Nat}
    (sharp : now = scheduled ∨ scheduled + tolerance < now) :
    p.next scheduled now = now + p.interval := by
  rcases sharp with rfl | late
  · exact next_of_le (Nat.le_add_right _ _)
  · exact next_of_lt late

end Polling

namespace Machine

/-- The record of a listing that begins at a time. -/
def listingAt (p : Polling) (time : Nat) : CallRecord := ⟨time, .list OrderStatus.pending p.batch⟩

/-- The clock does not pass over a tick that the producer waits for. -/
def heedsTick (m : Machine) : Occurrence → Bool
  | .pass time | .ring time =>
    match m.producer with
    | .ticking scheduled => time ≤ max m.now scheduled
    | _ => true
  | _ => true

/-- The clock passes over no tick all along. -/
def isPunctual (m : Machine) : List Occurrence → Bool
  | [] => true
  | o :: os => m.heedsTick o && isPunctual (m.after o) os

section Step

variable {m m' : Machine} {i : Nat} {o : Occurrence} {p : Polling} {tick : Nat}
  {since : List CallRecord}

/-! ### One occurrence -/

/-- What an occurrence makes of the listings and of the tick that comes next. -/
inductive Beat (m m' : Machine) : Prop where
  /-- No listing begins. The tick stays, unless there is none any more or the first one is set. -/
  | rests (listings : m'.listings = m.listings) (later : m.now ≤ m'.now)
      (tick : ∀ next, m'.producer.tick? = some next →
        m.producer.tick? = some next ∨ m.producer = .starting)
      (begun : m'.producer = .starting → m.producer = .starting)
  | begins (scheduled : Nat) (here : m.producer = .ticking scheduled) (due : scheduled ≤ m.now)
      (listings : m'.listings = listingAt m.polling m.now :: m.listings) (now : m'.now = m.now)
      (tick : m'.producer.tick? = some (m.polling.next scheduled m.now))

theorem WorkerMove.listings (h : WorkerMove m i m') : m'.listings = m.listings := by
  have quiet : m'.site.log = m.site.log → m'.listings = m.listings :=
    congrArg (List.filter fun c : CallRecord => c.call.isList)
  cases h with
  | calls o here opened unraised same =>
    rw [same]
    rfl
  | requests held reply until_ r here due decided same =>
    rw [same]
    rfl
  | _ =>
    apply quiet
    subst m'
    simp [setWorker, Site.answer]

theorem ProducerMove.polling (h : ProducerMove m m') : m'.polling = m.polling := by
  cases h <;> subst m' <;> rfl

theorem tick?_of_isOver {q : ProducerPhase} (done : q.isOver = true) : q.tick? = none := by
  cases q <;> first | rfl | cases done

theorem ProducerMove.beat (h : ProducerMove m m') : Beat m m' := by
  -- between two ticks the phase goes on and the tick that comes next stays the same
  have onward : ∀ q, m'.producer = q → q ≠ .starting → q.tick? = m.producer.tick? →
      m'.listings = m.listings → m'.now = m.now → Beat m m' := by
    intro q reached other same listings now
    refine .rests listings now.ge (fun next found => .inl ?_) fun first => ?_
    · rw [reached, same] at found
      exact found
    · exact absurd (reached.symm.trans first) other
  cases h with
  | rests unlisted blocked same =>
    rw [same]
    exact .rests rfl le_rfl (fun next found => .inl found) id
  | starts here interval same =>
    refine .rests ?_ ?_ (fun next found => .inr here) fun _ => here
    · rw [same]
      rfl
    · rw [same]
  | ends q done told same =>
    have over_ : m'.producer = q := by rw [same]
    refine .rests ?_ ?_ (fun next found => ?_) fun first => ?_
    · rw [same]
      rfl
    · rw [same]
    · rw [over_, tick?_of_isOver done] at found
      cases found
    · rw [over_] at first
      rw [first] at done
      cases done
  | asks scheduled here due going same =>
    refine .begins scheduled here due ?_ ?_ ?_
    · rw [same]
      rfl
    · rw [same]
    · rw [same]
      rfl
  | misses next until_ cause here due missed same =>
    subst m'
    refine onward (.ticking next) rfl nofun ?_ rfl rfl
    rw [here]
    rfl
  | lists next until_ batch here due found same =>
    subst m'
    refine onward (.pushing batch next) rfl nofun ?_ rfl rfl
    rw [here]
    rfl
  | pushes o batch next here going read room same =>
    subst m'
    refine onward (.pushing batch next) rfl nofun ?_ rfl rfl
    rw [here]
    rfl
  | finishes next here same =>
    subst m'
    refine onward (.ticking next) rfl nofun ?_ rfl rfl
    rw [here]
    rfl

/-- What is known of the bare machines is known of the machines. -/
theorem Beat.of_bare (h : Beat m.bare m'.bare) : Beat m m' := by
  cases h with
  | rests listings later tick begun => exact .rests listings later tick begun
  | begins scheduled here due listings now tick =>
    exact .begins scheduled here due listings now tick

/-- The step lemma of the listings. -/
theorem beat_after (m : Machine) (o : Occurrence) : Beat m (m.after o) := by
  apply Beat.of_bare
  have step := step_after m o
  cases step with
  | producer what moved => exact moved.beat
  | worker i what moved =>
    subst what
    refine .rests moved.listings (now_move m (.worker i)).ge (fun next found => .inl ?_) fun first => ?_
    · rw [moved.producer] at found
      exact found
    · rw [moved.producer] at first
      exact first
  | clock time what now later same =>
    rw [same]
    exact .rests rfl later (fun next found => .inl found) id
  | outside a what queue same =>
    rw [same]
    exact .rests rfl le_rfl (fun next found => .inl found) id

theorem polling_after (m : Machine) (o : Occurrence) : (m.after o).polling = m.polling := by
  have step := step_after m o
  show (m.after o).bare.polling = m.bare.polling
  cases step with
  | producer what moved => exact moved.polling
  | worker i what moved => exact moved.polling
  | clock time what now later same => rw [same]
  | outside a what queue same => rw [same]

/-- Who is told to stop stays so. -/
theorem isStopped_after (stopped : m.control.stop.isStopped = true) (o : Occurrence) :
    (m.after o).control.stop.isStopped = true := by
  cases o with
  | move t =>
    rw [stop_move]
    exact stopped
  | pass time => exact stopped
  | ring time =>
    have same : (m.after (.ring time)).bare.control = m.control := by
      simp only [after]
      split
      · rw [bare_jump]
        rfl
      · rfl
    show (m.after (.ring time)).bare.control.stop.isStopped = true
    rw [same]
    exact stopped
  | act a =>
    show (m.act? a).2.control.stop.isStopped = true
    rw [stop_act]
    exact isStopped_turned a stopped

/-! ### The distance between listings -/

/-- The tick that comes next lies so many intervals after each listing as there were listings since,
that one included, but for the tolerance; and so do the listings among each other. -/
structure Spaced (p : Polling) (m : Machine) : Prop where
  polling : m.polling = p
  unasked : m.producer = .starting → m.listings = []
  past : ∀ c ∈ m.listings, c.time ≤ m.now
  ahead : ∀ next n c, m.producer.tick? = some next → m.listings[n]? = some c →
    c.time + (n + 1) * p.interval ≤ next + Polling.tolerance
  apart : ∀ i n a b, m.listings[i]? = some b → m.listings[i + n]? = some a →
    a.time ≤ b.time ∧ a.time + n * p.interval ≤ b.time + Polling.tolerance

theorem Spaced.after (spaced : Spaced p m) (o : Occurrence) : Spaced p (m.after o) := by
  have polling := (polling_after m o).trans spaced.polling
  have beat := beat_after m o
  generalize m.after o = x at polling beat ⊢
  cases beat with
  | rests listings later tick begun =>
    refine ⟨polling, fun first => ?_, fun c among => ?_, fun next n c found there => ?_, ?_⟩
    · rw [listings]
      exact spaced.unasked (begun first)
    · rw [listings] at among
      exact (spaced.past c among).trans later
    · rw [listings] at there
      rcases tick next found with same | first
      · exact spaced.ahead next n c same there
      · rw [spaced.unasked first] at there
        cases there
    · rw [listings]
      exact spaced.apart
  | begins scheduled here due listings now tick =>
    have before : ∀ n c, m.listings[n]? = some c →
        c.time + (n + 1) * p.interval ≤ scheduled + Polling.tolerance := by
      intro n c there
      refine spaced.ahead scheduled n c ?_ there
      rw [here]
      rfl
    obtain ⟨onward, own⟩ := Polling.add_interval_le_next p scheduled m.now
    rw [spaced.polling] at tick
    refine ⟨polling, fun first => ?_, fun c among => ?_, fun next n c found there => ?_,
      fun i n a b last first => ?_⟩
    · rw [first] at tick
      cases tick
    · rw [listings, List.mem_cons] at among
      rw [now]
      rcases among with rfl | old
      · exact le_rfl
      · exact spaced.past c old
    · obtain rfl := Option.some.inj (tick.symm.trans found)
      rw [listings] at there
      cases n with
      | zero =>
        obtain rfl := Option.some.inj there
        show m.now + (0 + 1) * p.interval ≤ _
        omega
      | succ n =>
        have old := before n c there
        have more : (n + 1 + 1) * p.interval = (n + 1) * p.interval + p.interval := Nat.succ_mul _ _
        omega
    · rw [listings] at last first
      cases i with
      | succ i =>
        rw [Nat.succ_add] at first
        exact spaced.apart i n a b last first
      | zero =>
        obtain rfl := Option.some.inj last
        rw [Nat.zero_add] at first
        cases n with
        | zero =>
          obtain rfl := Option.some.inj first
          omega
        | succ n =>
          have old := before n a first
          have past := spaced.past a (List.mem_of_getElem? first)
          show a.time ≤ m.now ∧ a.time + (n + 1) * p.interval ≤ m.now + Polling.tolerance
          omega

theorem spaced_course (spaced : Spaced p m) (os : List Occurrence) : Spaced p (m.course os) := by
  induction os using List.reverseRecOn with
  | nil => exact spaced
  | append_singleton os o ih =>
    rw [course_append_singleton]
    exact ih.after o

/-! ### From a listing to the next -/

/-- Until another listing begins, the tick that comes next is the one that was set. -/
theorem tick_course (set : m.producer.tick? = some tick) (os : List Occurrence) :
    (∃ newer, newer ≠ [] ∧ (m.course os).listings = newer ++ m.listings) ∨
      (m.course os).listings = m.listings ∧ (m.course os).producer ≠ .starting ∧
        ∀ next, (m.course os).producer.tick? = some next → next = tick := by
  induction os using List.reverseRecOn with
  | nil =>
    refine .inr ⟨rfl, fun first => ?_, fun next found => ?_⟩
    · have first : m.producer = .starting := first
      rw [first] at set
      cases set
    · exact Option.some.inj (found.symm.trans set)
  | append_singleton os o ih =>
    rw [course_append_singleton]
    cases beat_after (m.course os) o with
    | begins scheduled here due listings now tick =>
      left
      rcases ih with ⟨newer, -, same⟩ | ⟨same, -, -⟩
      · exact ⟨_ :: newer, List.cons_ne_nil _ _, by rw [listings, same]; rfl⟩
      · exact ⟨[_], List.cons_ne_nil _ _, by rw [listings, same]; rfl⟩
    | rests listings later tick begun =>
      rw [listings]
      refine ih.imp_right fun ⟨same, going, own⟩ => ⟨same, fun first => going (begun first), ?_⟩
      intro next found
      rcases tick next found with old | first
      · exact own next old
      · exact absurd first going

/-- A producer that waits for a tick has three ways on. -/
theorem move_of_ticking (paced : m.polling.interval ≠ 0) (here : m.producer = .ticking tick) :
    let x := m.after (.move .producer)
    x.listings = m.listings ∧ x.producer = .ticking tick ∨
      x.listings = m.listings ∧ x.producer.isOver = true ∧ m.control.stop.isStopped = true ∨
      x.listings = listingAt m.polling m.now :: m.listings ∧ tick ≤ m.now := by
  intro x
  have awake : m.producer.isOver = false := by
    rw [here]
    rfl
  have leaves := leaves_of_isOver (m := m) paced awake
  have moved := producerMove_after m
  change ProducerMove m.bare x.bare at moved
  change x.producer.isOver = true → m.Leaves at leaves
  generalize x = y at moved leaves
  have listings : y.listings = y.bare.listings := rfl
  have producer : y.producer = y.bare.producer := rfl
  have found : m.bare.producer = .ticking tick := here
  rw [listings, producer]
  cases moved with
  | rests unlisted blocked same =>
    rw [same]
    exact .inl ⟨rfl, here⟩
  | ends q done told same =>
    have over_ : y.bare.producer.isOver = true := by
      rw [same]
      exact done
    refine .inr (.inl ⟨by rw [same]; rfl, over_, ?_⟩)
    cases leaves over_ with
    | stopped told => exact told
    | unread closed o batch next other =>
      rw [here] at other
      cases other
  | asks scheduled own due going same =>
    obtain rfl : tick = scheduled := by
      rw [found] at own
      cases own
      rfl
    exact .inr (.inr ⟨by rw [same]; rfl, due⟩)
  | starts own | misses next until_ cause own | lists next until_ batch own
  | pushes o batch next own | finishes next own =>
    rw [found] at own
    cases own

/-- After some listings the producer waits for its tick, or was told to stop before that, or the next
listing has begun with the tick. -/
inductive Awaits (p : Polling) (tick : Nat) (since : List CallRecord) (m : Machine) : Prop where
  | waits (here : m.producer = .ticking tick) (early : m.now ≤ tick) (same : m.listings = since)
  | stopped (done : m.producer.isOver = true) (told : m.control.stop.isStopped = true)
      (same : m.listings = since)
  | listed (newer : List CallRecord) (same : m.listings = newer ++ listingAt p tick :: since)

/-- No clock that heeds the tick gets beyond it while the producer waits. -/
theorem now_le_of_heedsTick (here : m.producer = .ticking tick) (early : m.now ≤ tick)
    (heeds : m.heedsTick o = true) : (m.after o).now ≤ tick := by
  have latest : max m.now tick = tick := Nat.max_eq_right early
  cases o with
  | move t =>
    rw [now_move]
    exact early
  | pass time =>
    simp only [heedsTick, here, latest, decide_eq_true_eq] at heeds
    exact Nat.max_le.2 ⟨early, heeds⟩
  | ring time =>
    simp only [heedsTick, here, latest, decide_eq_true_eq] at heeds
    simp only [after]
    split
    · rw [now_jump]
      exact heeds
    · exact early
  | act a =>
    show (m.act? a).2.now ≤ tick
    rw [(wakes_act m a).1.now]
    exact early

/-- The step lemma of a producer that waits for its tick. -/
theorem Awaits.after (awaits : Awaits p tick since m) (polling : m.polling = p)
    (paced : p.interval ≠ 0) (heeds : m.heedsTick o = true) : Awaits p tick since (m.after o) := by
  cases awaits with
  | waits here early same =>
    by_cases what : o = .move .producer
    · subst what
      rw [← polling] at paced
      rcases move_of_ticking paced here with ⟨listings, stays⟩ | ⟨listings, done, told⟩ |
        ⟨listings, due⟩
      · exact .waits stays (now_le_of_heedsTick here early heeds) (listings.trans same)
      · exact .stopped done (isStopped_after told _) (listings.trans same)
      · -- the clock is not beyond the tick, so the listing begins with it
        refine .listed [] ?_
        rw [listings, same, polling, Nat.le_antisymm early due]
        rfl
    · have stays := (producer_elsewhere (m := m) what).trans here
      refine .waits stays (now_le_of_heedsTick here early heeds) ?_
      rw [← same]
      cases beat_after m o with
      | rests listings => exact listings
      | begins scheduled before due listings now next =>
        rw [stays] at next
        -- the tick would be another one then
        have later := (Polling.add_interval_le_next m.polling scheduled m.now).1
        rw [here] at before
        cases before
        have own : tick = m.polling.next tick m.now := Option.some.inj next
        rw [polling] at later own
        omega
  | stopped done told same =>
    have over_ : (m.after o).producer = m.producer := by
      by_cases what : o = .move .producer
      · subst what
        have same : (m.after (.move .producer)).bare.producer = m.bare.producer :=
          congrArg Machine.producer ((producerMove_after m).eq_of_isOver done)
        exact same
      · exact producer_elsewhere what
    refine .stopped (by rw [over_]; exact done) (isStopped_after told o) ?_
    cases beat_after m o with
    | rests listings => exact listings.trans same
    | begins scheduled here =>
      rw [here] at done
      cases done
  | listed newer same =>
    cases beat_after m o with
    | rests listings => exact .listed newer (listings.trans same)
    | begins scheduled here due listings =>
      refine .listed (listingAt m.polling m.now :: newer) ?_
      rw [listings, same]
      rfl

theorem awaits_course (awaits : Awaits p tick since m) (polling : m.polling = p)
    (paced : p.interval ≠ 0) {os : List Occurrence} (punctual : m.isPunctual os = true) :
    Awaits p tick since (m.course os) := by
  induction os generalizing m with
  | nil => exact awaits
  | cons o os ih =>
    obtain ⟨heeds, rest⟩ := Bool.and_eq_true_iff.1 punctual
    exact ih (awaits.after polling paced heeds) ((polling_after m o).trans polling) rest

/-! ### Prompt courses are punctual -/

/-- A producer that waits for a tick is runnable, or to be woken then. -/
def IsRung (m : Machine) : Prop :=
  ∀ tick, m.producer = .ticking tick →
    .producer ∈ m.ready ∨ m.now < tick ∧ (tick, .producer) ∈ m.timers

theorem isRung_produce (m : Machine) (q : ProducerPhase) : (m.produce q).IsRung :=
  fun _ _ => .inl List.mem_cons_self

theorem isRung_produceAt (m : Machine) {time : Nat} {q : ProducerPhase}
    (own : ∀ tick, q = .ticking tick → tick = time) : (m.produceAt time q).IsRung := by
  unfold produceAt
  split
  · exact isRung_produce m q
  next ahead =>
    intro tick here
    obtain rfl := own tick here
    exact .inr ⟨Nat.lt_of_not_le ahead, List.mem_append_right _ (List.mem_singleton_self _)⟩

theorem isRung_of_ne (other : ∀ tick, m.producer ≠ .ticking tick) : m.IsRung :=
  fun tick here => absurd here (other tick)

theorem isRung_leaveProducer (m : Machine) {q : ProducerPhase} (done : q.isOver = true) :
    (m.leaveProducer q).IsRung := by
  apply isRung_of_ne
  intro tick here
  have reached : (m.leaveProducer q).producer = q :=
    congrArg Machine.producer (bare_leaveProducer m q)
  rw [reached] at here
  rw [here] at done
  cases done

theorem ProducerWay.isRung (way : ProducerWay m m') : m'.IsRung := by
  have stays : (∀ tick, m.producer ≠ .ticking tick) → m' = m → m'.IsRung := fun other same => by
    rw [same]
    exact isRung_of_ne other
  cases way with
  | rests done same =>
    refine stays (fun tick here => ?_) same
    rw [here] at done
    cases done
  | listens next until_ here early same => exact stays (by simp [here]) same
  | blocks o batch next here going full same => exact stays (by simp [here]) same
  | fails here interval same => exact same ▸ isRung_leaveProducer m rfl
  | stops here told same => exact same ▸ isRung_leaveProducer m rfl
  | hangs o batch next here going unread same => exact same ▸ isRung_leaveProducer m rfl
  | waits scheduled here going early same =>
    rw [same]
    apply isRung_produceAt
    intro tick own
    cases own
    rfl
  | asks scheduled here going due same => exact same ▸ isRung_produceAt _ nofun
  | starts here interval same => exact same ▸ isRung_produce m _
  | misses next until_ cause here due listed same => exact same ▸ isRung_produce _ _
  | lists next until_ batch here due listed same => exact same ▸ isRung_produce _ _
  | finishes next here same => exact same ▸ isRung_produce m _
  | pushes o batch next here going read room same => exact same ▸ isRung_produce _ _

/-- The tasks at rest, the producer's timer is set for the tick that it waits for. -/
theorem IsRung.timer (rung : m.IsRung) (rest : m.ready = []) (here : m.producer = .ticking tick) :
    m.now < tick ∧ (tick, .producer) ∈ m.timers := by
  rcases rung tick here with runnable | set
  · rw [rest] at runnable
    cases runnable
  · exact set

theorem IsRung.after (rung : m.IsRung) (scheduled : m.Scheduled) (allowed : m.allows o = true) :
    (m.after o).IsRung := by
  by_cases what : o = .move .producer
  · subst what
    exact (producerWay_moveProducer _).isRung
  intro tick here
  rw [producer_elsewhere what] at here
  cases o with
  | move t =>
    have other : Task.producer ≠ t := fun own => what (by rw [own])
    have moved := scheduled.moved t
    rw [now_move]
    rcases rung tick here with runnable | ⟨early, set⟩
    · exact .inl (moved.ready _ ((List.mem_erase_of_ne other).2 runnable) other)
    · exact .inr ⟨early, moved.timers _ set other⟩
  | act a =>
    have wakes := (wakes_act m a).1
    show .producer ∈ (m.act? a).2.ready ∨ (m.act? a).2.now < tick ∧ _ ∈ (m.act? a).2.timers
    rw [wakes.now, wakes.timers]
    exact (rung tick here).imp_left fun runnable => wakes.ready runnable
  | pass time =>
    obtain ⟨rest, before⟩ := Bool.and_eq_true_iff.1 allowed
    obtain ⟨early, set⟩ := rung.timer (List.isEmpty_iff.1 rest) here
    have later : time < tick := of_decide_eq_true (List.all_eq_true.1 before _ set)
    exact .inr ⟨Nat.max_lt.2 ⟨early, later⟩, set⟩
  | ring time =>
    obtain ⟨rest, before⟩ := Bool.and_eq_true_iff.1 allowed
    obtain ⟨early, set⟩ := rung.timer (List.isEmpty_iff.1 rest) here
    have later : time ≤ tick := of_decide_eq_true (List.all_eq_true.1 before _ set)
    simp only [Machine.after]
    split
    · rcases Nat.lt_or_eq_of_le later with ahead | come
      · right
        rw [now_jump, timers_jump]
        exact ⟨ahead, List.mem_filter.2 ⟨set, by simpa using ahead⟩⟩
      · left
        apply mem_ready_foldl_wake
        exact List.mem_map_of_mem (List.mem_filter.2 ⟨set, decide_eq_true come.ge⟩)
    · exact .inr ⟨early, set⟩

theorem heedsTick_of_allows (rung : m.IsRung) (allowed : m.allows o = true) :
    m.heedsTick o = true := by
  cases o with
  | move t => rfl
  | act a => rfl
  | pass time | ring time =>
    simp only [heedsTick]
    split
    next tick here =>
      obtain ⟨rest, before⟩ := Bool.and_eq_true_iff.1 allowed
      obtain ⟨early, set⟩ := rung.timer (List.isEmpty_iff.1 rest) here
      have later := of_decide_eq_true (List.all_eq_true.1 before _ set)
      exact decide_eq_true (le_max_of_le_right (by omega))
    next => rfl

/-- In a prompt course the clock passes over no tick. -/
theorem isPunctual_of_isPrompt (scheduled : m.Scheduled) (rung : m.IsRung) {os : List Occurrence}
    (prompt : m.isPrompt os = true) : m.isPunctual os = true := by
  induction os generalizing m with
  | nil => rfl
  | cons o os ih =>
    obtain ⟨allowed, rest⟩ := Bool.and_eq_true_iff.1 prompt
    rw [isPunctual, heedsTick_of_allows rung allowed, Bool.true_and]
    exact ih (scheduled.after allowed) (rung.after scheduled allowed) rest

end Step

theorem course_cons (m : Machine) (o : Occurrence) (os : List Occurrence) :
    m.course (o :: os) = (m.after o).course os := rfl

theorem isPunctual_append (m : Machine) (os rest : List Occurrence) :
    m.isPunctual (os ++ rest) = (m.isPunctual os && (m.course os).isPunctual rest) := by
  induction os generalizing m with
  | nil => rfl
  | cons o os ih =>
    rw [List.cons_append, isPunctual, ih, isPunctual, Bool.and_assoc]
    rfl

/-- **The producer never bursts.** A listing that comes so many places after another begins so many
intervals after it, less the tolerance, whatever has held the producer up between the two and however
long. And if a listing begins with its tick, or too late to be on time, and the producer waits for its
next tick before an interval is over, the next listing begins an interval after it to the millisecond,
unless the producer is told to stop before. Of the clock this asks that it passes over no tick that the
producer waits for, as none does in a prompt course. -/
theorem never_bursts (start : Machine) (fresh : start.producer = .starting)
    (unasked : start.listings = []) (paced : start.polling.interval ≠ 0) :
    let interval := start.polling.interval
    (∀ os i n a b, (start.course os).listings[i]? = some b →
      (start.course os).listings[i + n]? = some a →
        a.time ≤ b.time ∧ a.time + n * interval ≤ b.time + Polling.tolerance) ∧
    (∀ before between later scheduled next,
      let m := start.course before
      let called := m.after (.move .producer)
      let back := called.course between
      let last := back.course later
      m.producer = .ticking scheduled → called.listings ≠ m.listings →
      (m.now = scheduled ∨ scheduled + Polling.tolerance < m.now) →
      back.producer = .ticking next → back.listings = called.listings →
      back.now ≤ m.now + interval → back.isPunctual later = true →
        (∃ newer, last.listings =
          newer ++ listingAt start.polling (m.now + interval) :: called.listings) ∨
        last.listings = called.listings ∧
          (m.now + interval < last.now → last.control.stop.isStopped = true)) ∧
    ∀ before later, start.Scheduled → start.isPrompt (before ++ later) = true →
      (start.course before).isPunctual later = true := by
  intro interval
  have opened : Spaced start.polling start := by
    refine ⟨rfl, fun _ => unasked, ?_, ?_, ?_⟩
    · rw [unasked]
      exact fun c among => absurd among List.not_mem_nil
    · rw [unasked]
      exact fun next n c found there => nomatch there
    · rw [unasked]
      exact fun i n a b last first => nomatch last
  refine ⟨fun os => (spaced_course opened os).apart, ?_, ?_⟩
  · intro before between later scheduled next m called back last here begun sharp waits unlisted
      early punctual
    have pace : m.polling = start.polling := (spaced_course opened before).polling
    have pace' : back.polling = start.polling := by
      have reached := spaced_course ((spaced_course opened before).after (.move .producer)) between
      exact reached.polling
    -- the tick after this listing lies an interval behind it
    have set : called.producer.tick? = some (m.now + interval) := by
      cases beat_after m (.move .producer) with
      | rests listings => exact absurd listings begun
      | begins scheduled' here' due listings now tick =>
        rw [here] at here'
        cases here'
        rw [Polling.next_eq sharp, pace] at tick
        exact tick
    have own : next = m.now + interval := by
      rcases tick_course set between with ⟨newer, some_, more⟩ | ⟨-, -, own⟩
      · have none_ : newer = [] := by
          rw [← List.append_left_eq_self, ← more]
          exact unlisted
        exact absurd none_ some_
      · apply own
        rw [waits]
        rfl
    rw [own] at waits
    have awaits : Awaits start.polling (m.now + interval) called.listings back :=
      .waits waits early unlisted
    cases awaits_course awaits pace' paced punctual with
    | waits here early same => exact .inr ⟨same, fun passed => absurd passed (Nat.not_lt.2 early)⟩
    | stopped done told same => exact .inr ⟨same, fun _ => told⟩
    | listed newer same => exact .inl ⟨newer, same⟩
  · intro before later scheduled prompt
    have rung : start.IsRung := by
      apply isRung_of_ne
      intro tick here
      rw [fresh] at here
      cases here
    have punctual := isPunctual_of_isPrompt scheduled rung prompt
    rw [isPunctual_append] at punctual
    exact (Bool.and_eq_true_iff.1 punctual).2

/-- A producer with a slow store and room for one order on its queue. -/
def slowProducer : Machine :=
  producerOnly ⟨1000, 10⟩ 1 { repository :=
    { listings := some [.ok [⟨"1", .new⟩, ⟨"2", .new⟩], .ok []], delay := 300 } }

/-- Three ticks pass while the producer waits for room, and it is about to list, far too late. -/
def heldUp : List Occurrence :=
  turns .producer 2 ++ [.ring 300] ++ turns .producer 3 ++ [.pass 3400, .act .receive] ++
    turns .producer 2

/-- It lists, finds nothing, and waits for its next tick. -/
def listsLate : List Occurrence := .ring 3700 :: turns .producer 2

/-- The tick comes, and it lists again. -/
def listsAgain : List Occurrence := turns .producer 1 ++ [.ring 4400] ++ turns .producer 1

theorem never_bursts_heldUp :
    let m := slowProducer.course heldUp
    let called := m.after (.move .producer)
    let last := slowProducer.course (heldUp ++ .move .producer :: (listsLate ++ listsAgain))
    m.producer = .ticking 1000 ∧ m.now = 3400 ∧
      last.listings.map CallRecord.time = [4400, 3400, 0] ∧
      (∃ newer, last.listings = newer ++
        listingAt slowProducer.polling (m.now + slowProducer.polling.interval) ::
          called.listings) ∧
      ∀ a b, last.listings[0]? = some b → last.listings[2]? = some a →
        a.time + 2 * slowProducer.polling.interval ≤ b.time + Polling.tolerance := by
  intro m called last
  obtain ⟨apart, following, -⟩ := never_bursts slowProducer rfl rfl (by decide)
  refine ⟨by decide +kernel, by decide +kernel, by decide +kernel, ?_, ?_⟩
  · have reached : last = (called.course listsLate).course listsAgain := by
      show slowProducer.course (heldUp ++ .move .producer :: (listsLate ++ listsAgain)) = _
      rw [course_append, course_cons, course_append]
    have found := following heldUp listsLate listsAgain 1000 4400 (by decide +kernel)
      (by decide +kernel) (by decide +kernel) (by decide +kernel) (by decide +kernel)
      (by decide +kernel) (by decide +kernel)
    rw [reached]
    apply found.resolve_right
    intro missed
    have begun : last.listings ≠ called.listings := by decide +kernel
    rw [reached] at begun
    exact begun missed.1
  · intro a b late early
    exact (apart _ 0 2 a b late early).2

end Machine

end Loyalty.Pipeline
