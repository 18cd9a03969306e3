import Loyalty.Pipeline.Gate

/-!
# What a wait at the gate waits for

While a worker sleeps towards the instant that it read from the gate, that instant may be put off or
moved up, as often as others like. The worker does not notice: it sleeps on, and reads the gate again
when it wakes. So the instants that it sleeps towards form a chain (`Deadlines`), each the one in force
when the worker wakes from the one before, and only the shutdown switch ends the wait earlier.

The chain does not depend on the switch, and each of its links but the first needs a change of the gate
during the one before. That is why it is finite, whatever the schedule.

Main statement: `await_ends`, for all states at the start and all schedules of what is to come.
-/

namespace Loyalty.Pipeline.Control

/-- The control after the changes at the head of a schedule whose times are within bounds. -/
def through (within : Nat → Bool) (c : Control) (s : Schedule) : Control :=
  (s.takeWhile fun e => within e.1).foldl (fun c e => c.change e.1 e.2) c

/-- The control that a task finds at an instant, after all that came before. -/
def found (c : Control) (s : Schedule) (t : Nat) : Control := c.through (· < t) s

/-- The control at an instant, once all has come about that is due then. -/
def asOf (c : Control) (s : Schedule) (t : Nat) : Control := c.through (· ≤ t) s

/-- The instants that a wait sleeps towards from `now` on: the one in force then if it lies ahead,
then the one in force at that instant if it lies ahead of it, and so on. -/
inductive Deadlines (c : Control) (s : Schedule) : Nat → List Nat → Prop where
  | opened {now : Nat} (free : (c.found s now).gate.deadline? now = none) : Deadlines c s now []
  | sleeps {now d : Nat} {ds : List Nat} (ahead : (c.found s now).gate.deadline? now = some d)
      (rest : Deadlines c s d ds) : Deadlines c s now (d :: ds)

/-- How a wait ends that began at `now` and would have come to its end at `last`: told to stop at the
first instant before that at which it could be, or else then, and proceeding unless the flag is
raised. -/
inductive Ends (c : Control) (s : Schedule) (now last : Nat) : Nat → Bool → Prop where
  | told (t : Nat) (begun : now ≤ t) (early : t < last)
      (stopped : (c.asOf s t).stop.isStopped = true)
      (first : ∀ u, now ≤ u → u < t → (c.asOf s u).stop.isStopped = false) : Ends c s now last t false
  | waited (quiet : ∀ u, now ≤ u → u < last → (c.asOf s u).stop.isStopped = false) :
      Ends c s now last last (!(c.found s last).stop.raised)

variable {c c' : Control} {s s' : Schedule} {now : Nat} {ds : List Nat}

/-! ### The control as time goes on -/

theorem through_cons_of_pos {within : Nat → Bool} {e : Nat × Change} (h : within e.1 = true) :
    c.through within (e :: s) = (c.change e.1 e.2).through within s := by
  rw [through, List.takeWhile_cons, h]
  rfl

/-- Before anything comes the control is as it was. -/
theorem through_of_later {within : Nat → Bool} (later : ∀ e ∈ s, within e.1 = false) :
    c.through within s = c := by
  cases s with
  | nil => rfl
  | cons e s =>
    rw [through, List.takeWhile_cons, later e List.mem_cons_self]
    rfl

theorem through_congr {within within' : Nat → Bool} (same : ∀ e ∈ s, within e.1 = within' e.1) :
    c.through within s = c.through within' s := by
  have taken : (s.takeWhile fun e => within e.1) = s.takeWhile fun e => within' e.1 := by
    induction s with
    | nil => rfl
    | cons e s ih =>
      rw [List.takeWhile_cons, List.takeWhile_cons, same e List.mem_cons_self,
        ih fun e' among => same e' (List.mem_cons_of_mem _ among)]
  rw [through, through, taken]

/-- Who is told to stop stays so, as long as the flag is only raised. -/
theorem isStopped_through {within : Nat → Bool} (raising : ∀ e ∈ s, e.2 ≠ .signal false)
    (told : c.stop.isStopped = true) : (c.through within s).stop.isStopped = true := by
  induction s generalizing c with
  | nil => exact told
  | cons e s ih =>
    cases due : within e.1 with
    | false =>
      rw [through, List.takeWhile_cons, due]
      exact told
    | true =>
      rw [through_cons_of_pos due]
      refine ih (fun e' among => raising e' (List.mem_cons_of_mem _ among)) ?_
      have other := raising e List.mem_cons_self
      cases kind : e.2 with
      | defer wait => exact told
      | drop => simp [change, StopSignal.isStopped]
      | signal raised =>
        cases raised with
        | false => exact absurd kind other
        | true =>
          cases gone : c.stop.dropped <;>
            simp [change, StopSignal.turn, StopSignal.isStopped, gone]

theorem found_of_later {t : Nat} (later : ∀ e ∈ s, t ≤ e.1) : c.found s t = c :=
  through_of_later fun e among => decide_eq_false (Nat.not_lt.2 (later e among))

theorem asOf_of_later {t : Nat} (later : ∀ e ∈ s, t < e.1) : c.asOf s t = c :=
  through_of_later fun e among => decide_eq_false (Nat.not_le.2 (later e among))

/-- Where nothing is due, what a task finds is what holds. -/
theorem found_eq_asOf {t : Nat} (apart : ∀ e ∈ s, e.1 ≠ t) : c.found s t = c.asOf s t := by
  refine through_congr fun e among => ?_
  have other := apart e among
  exact decide_eq_decide.2 (by omega)

/-- What is found stays the same while nothing comes. -/
theorem found_eq_of_quiet {t u : Nat} (le : t ≤ u) (quiet : ∀ e ∈ s, e.1 < u → e.1 < t) :
    c.found s u = c.found s t := by
  refine through_congr fun e among => ?_
  have same := quiet e among
  exact decide_eq_decide.2 (by omega)

/-! ### The chain of deadlines -/

theorem Deadlines.le_last (chain : Deadlines c s now ds) : now ≤ ds.getLastD now := by
  induction chain with
  | opened free => exact Nat.le_refl _
  | sleeps ahead rest ih =>
    obtain ⟨-, later⟩ := Gate.deadline?_eq_some_iff.1 ahead
    rw [List.getLastD_cons]
    omega

/-- At the end of the chain the gate is open. -/
theorem Deadlines.open_at_last (chain : Deadlines c s now ds) :
    (c.found s (ds.getLastD now)).gate.deadline? (ds.getLastD now) = none := by
  induction chain with
  | opened free => exact free
  | sleeps ahead rest ih =>
    rw [List.getLastD_cons]
    exact ih

/-- Only what is found from `now` on counts. -/
theorem Deadlines.congr (chain : Deadlines c s now ds)
    (agree : ∀ t, now ≤ t → c'.found s' t = c.found s t) : Deadlines c' s' now ds := by
  induction chain with
  | opened free => exact .opened (by rw [agree _ (Nat.le_refl _)]; exact free)
  | sleeps ahead rest ih =>
    obtain ⟨-, later⟩ := Gate.deadline?_eq_some_iff.1 ahead
    refine .sleeps (by rw [agree _ (Nat.le_refl _)]; exact ahead) (ih fun t le => agree t ?_)
    omega

/-- A change that comes between two instants is to come at the first and not at the second. -/
theorem length_filter_lt {t d : Nat} {e : Nat × Change} (among : e ∈ s) (after : t ≤ e.1)
    (before : e.1 < d) :
    (s.filter fun e => d ≤ e.1).length < (s.filter fun e => t ≤ e.1).length := by
  have part : (s.filter fun e => d ≤ e.1) =
      (s.filter fun e => t ≤ e.1).filter fun e => d ≤ e.1 := by
    rw [List.filter_filter]
    refine List.filter_congr fun x _ => ?_
    by_cases far : d ≤ x.1
    · simp only [far, decide_true, Bool.true_and]
      exact (decide_eq_true (by omega)).symm
    · simp only [far, decide_false, Bool.false_and]
  rw [part]
  exact List.length_filter_lt_length_iff_exists.2
    ⟨e, List.mem_filter.2 ⟨among, decide_eq_true after⟩, by simpa using before⟩

/-- The chain is finite. -/
theorem exists_deadlines (c : Control) (s : Schedule) (now : Nat) : ∃ ds, Deadlines c s now ds := by
  -- by the number of changes that are still to come
  induction left : (s.filter fun e => now ≤ e.1).length using Nat.strongRecOn generalizing now with
  | ind n ih =>
    cases read : (c.found s now).gate.deadline? now with
    | none => exact ⟨[], .opened read⟩
    | some d =>
      obtain ⟨opensAt, ahead⟩ := Gate.deadline?_eq_some_iff.1 read
      by_cases change : ∃ e ∈ s, now ≤ e.1 ∧ e.1 < d
      · obtain ⟨e, among, after, before⟩ := change
        obtain ⟨ds, rest⟩ := ih _ (left ▸ length_filter_lt among after before) d rfl
        exact ⟨d :: ds, .sleeps read rest⟩
      · have same : c.found s d = c.found s now := by
          refine found_eq_of_quiet (Nat.le_of_lt ahead) fun e among early => ?_
          exact Nat.lt_of_not_le fun after => change ⟨e, among, after, early⟩
        refine ⟨[d], .sleeps read (.opened (Gate.deadline?_eq_none_iff.2 fun t opens => ?_))⟩
        rw [same, opensAt] at opens
        cases opens
        exact Nat.le_refl _

/-! ### One sleep -/

/-- What a sleep towards `until_` comes to that began at `now`. -/
structure Slept (until_ now : Nat) (c : Control) (s : Schedule) (r : Sleep) : Prop where
  begun : now ≤ r.wokenAt
  quiet : ∀ t, now ≤ t → t < r.wokenAt → (c.asOf s t).stop.isStopped = false
  told : r.stopped = true → r.wokenAt < until_ ∧ (c.asOf s r.wokenAt).stop.isStopped = true
  rested : r.stopped = false → r.wokenAt = until_
  rest : r.rest.Sublist s
  later : ∀ e ∈ r.rest, r.wokenAt < e.1
  agree : ∀ within : Nat → Bool, (∀ t, t ≤ r.wokenAt → within t = true) →
    r.control.through within r.rest = c.through within s

/-- A change that is due by now is lived through first. -/
theorem Slept.cons_due {until_ t : Nat} {ch : Change} {r : Sleep} (due : t ≤ now)
    (slept : Slept until_ now (c.change t ch) s r) : Slept until_ now c ((t, ch) :: s) r := by
  have same : ∀ u, now ≤ u → c.asOf ((t, ch) :: s) u = (c.change t ch).asOf s u :=
    fun u le => through_cons_of_pos (decide_eq_true (Nat.le_trans due le))
  refine ⟨slept.begun, fun u le early => ?_, fun stopped => ?_, slept.rested,
    slept.rest.cons _, slept.later, fun within all => ?_⟩
  · rw [same u le]
    exact slept.quiet u le early
  · rw [same _ slept.begun]
    exact slept.told stopped
  · rw [through_cons_of_pos (all t (Nat.le_trans due slept.begun))]
    exact slept.agree within all

/-- Up to the next change nothing happens. -/
theorem Slept.earlier {until_ next : Nat} {r : Sleep} (slept : Slept until_ next c s r)
    (le : now ≤ next) (later : ∀ e ∈ s, next ≤ e.1) (going : c.stop.isStopped = false) :
    Slept until_ now c s r := by
  refine ⟨Nat.le_trans le slept.begun, fun t from_ early => ?_, slept.told, slept.rested, slept.rest,
    slept.later, slept.agree⟩
  by_cases reached : next ≤ t
  · exact slept.quiet t reached early
  · rw [asOf_of_later fun e among => Nat.lt_of_lt_of_le (Nat.lt_of_not_le reached) (later e among)]
    exact going

/-- The sleep is over at once, or lasts its full time. -/
theorem slept_of_later {until_ t : Nat} {stopped : Bool} (le : now ≤ t) (later : ∀ e ∈ s, t < e.1)
    (going : now < t → c.stop.isStopped = false)
    (told : stopped = true → t < until_ ∧ c.stop.isStopped = true)
    (rested : stopped = false → t = until_) : Slept until_ now c s ⟨t, stopped, c, s⟩ := by
  have still : ∀ u, u ≤ t → c.asOf s u = c :=
    fun u before => asOf_of_later fun e among => Nat.lt_of_le_of_lt before (later e among)
  refine ⟨le, fun u from_ early => ?_, fun h => ?_, rested, List.Sublist.refl _, later,
    fun _ _ => rfl⟩
  · rw [still u (Nat.le_of_lt early)]
    exact going (Nat.lt_of_le_of_lt from_ early)
  · rw [still t (Nat.le_refl _)]
    exact told h

theorem slept_sleep {until_ : Nat} (ahead : now < until_) (later : ∀ e ∈ s, now ≤ e.1)
    (sorted : s.Pairwise fun a b => a.1 ≤ b.1) (apart : ∀ e ∈ s, e.1 ≠ until_) :
    Slept until_ now c s (sleep until_ now c s) := by
  -- the changes come one by one, each with the time up to it
  induction s generalizing now c with
  | nil =>
    unfold sleep
    split
    next told =>
      exact slept_of_later (Nat.le_refl _) (by simp) (fun h => absurd h (Nat.lt_irrefl _))
        (fun _ => ⟨ahead, told⟩) (fun h => absurd h.symm Bool.false_ne_true)
    next going =>
      exact slept_of_later (Nat.le_of_lt ahead) (by simp) (fun _ => eq_false_of_ne_true going)
        (fun h => absurd h Bool.false_ne_true) (fun _ => rfl)
  | cons e s ih =>
    obtain ⟨t, ch⟩ := e
    obtain ⟨first, sorted⟩ := List.pairwise_cons.1 sorted
    have apart' : ∀ e ∈ s, e.1 ≠ until_ := fun e among => apart e (List.mem_cons_of_mem _ among)
    have now_le : now ≤ t := later _ List.mem_cons_self
    have all_from : ∀ e ∈ (t, ch) :: s, t ≤ e.1 := by
      intro e among
      obtain rfl | among := List.mem_cons.1 among
      · exact Nat.le_refl _
      · exact first e among
    have after : ∀ u, u < t → ∀ e ∈ (t, ch) :: s, u < e.1 :=
      fun u early e among => Nat.lt_of_lt_of_le early (all_from e among)
    unfold sleep
    split
    next reached =>
      obtain rfl : t = now := Nat.le_antisymm reached now_le
      exact (ih ahead first sorted apart').cons_due (Nat.le_refl _)
    next unreached =>
      split
      next told =>
        exact slept_of_later (Nat.le_refl _) (after now (Nat.lt_of_not_le unreached))
          (fun h => absurd h (Nat.lt_irrefl _)) (fun _ => ⟨ahead, told⟩)
          (fun h => absurd h.symm Bool.false_ne_true)
      next going =>
        have going : c.stop.isStopped = false := eq_false_of_ne_true going
        split
        next before =>
          have slept : Slept until_ t c ((t, ch) :: s) (sleep until_ t (c.change t ch) s) :=
            (ih before first sorted apart').cons_due (Nat.le_refl t)
          exact slept.earlier now_le all_from going
        next beyond =>
          have other : t ≠ until_ := apart _ List.mem_cons_self
          exact slept_of_later (Nat.le_of_lt ahead) (after until_ (by omega)) (fun _ => going)
            (fun h => absurd h Bool.false_ne_true) (fun _ => rfl)

/-- What is found later is the same before the sleep and after. -/
theorem Slept.found_eq {until_ : Nat} {r : Sleep} (slept : Slept until_ now c s r)
    (apart : ∀ e ∈ s, e.1 ≠ r.wokenAt) {t : Nat} (le : r.wokenAt ≤ t) :
    r.control.found r.rest t = c.found s t := by
  obtain rfl | later := Nat.eq_or_lt_of_le le
  · rw [found_eq_asOf apart, found_eq_asOf fun e among => apart e (slept.rest.subset among)]
    exact slept.agree _ fun t le => decide_eq_true le
  · exact slept.agree _ fun u le => decide_eq_true (Nat.lt_of_le_of_lt le later)

/-! ### The whole wait -/

/-- A wait that goes on after a sleep ends as it does when it began before. -/
theorem Ends.of_slept {until_ last at_ : Nat} {proceeds : Bool} {r : Sleep}
    (slept : Slept until_ now c s r) (apart : ∀ e ∈ s, e.1 ≠ r.wokenAt)
    (ends : Ends r.control r.rest r.wokenAt last at_ proceeds) (le : r.wokenAt ≤ last) :
    Ends c s now last at_ proceeds := by
  have agree : ∀ t, r.wokenAt ≤ t → r.control.asOf r.rest t = c.asOf s t :=
    fun t woken => slept.agree _ fun u before => decide_eq_true (Nat.le_trans before woken)
  have quiet : ∀ t, (∀ u, r.wokenAt ≤ u → u < t →
      (r.control.asOf r.rest u).stop.isStopped = false) →
      ∀ u, now ≤ u → u < t → (c.asOf s u).stop.isStopped = false := by
    intro t after u from_ early
    by_cases woken : r.wokenAt ≤ u
    · rw [← agree u woken]
      exact after u woken early
    · exact slept.quiet u from_ (Nat.lt_of_not_le woken)
  cases ends with
  | told t begun early stopped first =>
    refine .told at_ (Nat.le_trans slept.begun begun) early ?_ (quiet at_ first)
    rw [← agree at_ begun]
    exact stopped
  | waited after =>
    rw [slept.found_eq apart le]
    exact .waited (quiet last after)

theorem ends_await (later : ∀ e ∈ s, now ≤ e.1) (sorted : s.Pairwise fun a b => a.1 ≤ b.1)
    (raising : ∀ e ∈ s, e.2 ≠ .signal false) (chain : Deadlines c s now ds)
    (apart : ∀ d ∈ ds, ∀ e ∈ s, e.1 ≠ d) :
    Ends c s now (ds.getLastD now) (await now c s).endedAt (await now c s).proceeds := by
  induction ds generalizing now c s with
  | nil =>
    cases chain with
    | opened free =>
      have here : c.found s now = c := found_of_later later
      rw [here] at free
      unfold await
      split
      next =>
        have over_ : Ends c s now now now (!(c.found s now).stop.raised) :=
          .waited fun u from_ early => absurd early (Nat.not_lt.2 from_)
        rw [here] at over_
        exact over_
      next d ahead => exact absurd (ahead.symm.trans free) (Option.some_ne_none d)
  | cons d ds ih =>
    cases chain with
    | sleeps read rest =>
      obtain ⟨-, ahead⟩ := Gate.deadline?_eq_some_iff.1 read
      have apart_first : ∀ e ∈ s, e.1 ≠ d := apart d List.mem_cons_self
      have slept : Slept d now c s (sleep d now c s) := slept_sleep ahead later sorted apart_first
      have le : d ≤ ds.getLastD d := rest.le_last
      rw [List.getLastD_cons]
      rw [found_of_later later] at read
      unfold await
      split
      next free => exact absurd (read.symm.trans free) (Option.some_ne_none d)
      next d' read' =>
        obtain rfl : d = d' := Option.some.inj (read.symm.trans read')
        split
        next told =>
          refine .told now (Nat.le_refl _) (Nat.lt_of_lt_of_le ahead le)
            (isStopped_through raising told) fun u from_ early => ?_
          exact absurd early (Nat.not_lt.2 from_)
        next going =>
          split
          next at_ c' s' woken =>
            rw [woken] at slept
            obtain ⟨early, stopped⟩ := slept.told rfl
            exact .told at_ slept.begun (Nat.lt_of_lt_of_le early le) stopped slept.quiet
          next at_ c' s' woken =>
            rw [woken] at slept
            obtain rfl : at_ = d := slept.rested rfl
            have chain := rest.congr fun t le => slept.found_eq apart_first le
            refine Ends.of_slept slept apart_first (ih (fun e among => ?_)
              (sorted.sublist slept.rest) (fun e present => ?_) chain fun d among e present => ?_) le
            · exact Nat.le_of_lt (slept.later e among)
            · exact raising e (slept.rest.subset present)
            · exact apart d (List.mem_cons_of_mem _ among) e (slept.rest.subset present)

/-- **What a wait at the gate waits for.** The instants that it sleeps towards, each the one in force
when it wakes from the one before, come to an end whatever is still to come. If nothing is due just at
one of them, the wait ends at the first instant before the last of them at which the flag is raised or
the switch is gone, and then it does not proceed; or else it ends at the last of them, at once if there
is none, and proceeds unless the flag is raised then. So it never proceeds while an instant lies ahead
or the flag is raised. -/
theorem await_ends (c : Control) (now : Nat) (s : Schedule) (later : ∀ e ∈ s, now ≤ e.1)
    (sorted : s.Pairwise fun a b => a.1 ≤ b.1) (raising : ∀ e ∈ s, e.2 ≠ .signal false) :
    (∃ ds, Deadlines c s now ds) ∧
    ∀ ds, Deadlines c s now ds → (∀ d ∈ ds, ∀ e ∈ s, e.1 ≠ d) →
      Ends c s now (ds.getLastD now) (await now c s).endedAt (await now c s).proceeds ∧
      ((await now c s).proceeds = true →
        (c.found s (await now c s).endedAt).gate.deadline? (await now c s).endedAt = none ∧
          (c.found s (await now c s).endedAt).stop.raised = false) := by
  refine ⟨exists_deadlines c s now, fun ds chain apart => ?_⟩
  have ends := ends_await later sorted raising chain apart
  refine ⟨ends, fun proceeds => ?_⟩
  rw [proceeds] at ends
  generalize (await now c s).endedAt = at_ at ends
  generalize whether : true = p at ends
  cases ends with
  | told => cases whether
  | waited quiet => exact ⟨chain.open_at_last, by simpa using whether.symm⟩

/-- The gate is put off while a worker sleeps, and moved up while it sleeps again; the switch is turned
on before the second sleep is over. -/
def eventful : Schedule :=
  [(1000, .defer 5000), (2500, .defer 10), (3000, .signal true), (7000, .drop)]

theorem await_ends_eventful :
    let c : Control := { gate := ⟨some 2000⟩ }
    (∀ e ∈ eventful, 0 ≤ e.1) ∧ (∀ e ∈ eventful, e.2 ≠ .signal false) ∧
      Deadlines c eventful 0 [2000, 6000] ∧ (∀ d ∈ [2000, 6000], ∀ e ∈ eventful, e.1 ≠ d) ∧
      Ends c eventful 0 6000 (await 0 c eventful).endedAt (await 0 c eventful).proceeds ∧
      (await 0 c eventful).endedAt = 3000 := by
  intro c
  have later : ∀ e ∈ eventful, 0 ≤ e.1 := by decide
  have raising : ∀ e ∈ eventful, e.2 ≠ .signal false := by decide
  have chain : Deadlines c eventful 0 [2000, 6000] :=
    .sleeps (by decide) (.sleeps (by decide) (.opened (by decide)))
  have apart : ∀ d ∈ [2000, 6000], ∀ e ∈ eventful, e.1 ≠ d := by decide
  obtain ⟨-, ends⟩ := await_ends c 0 eventful later (by decide) raising
  exact ⟨later, raising, chain, apart, (ends _ chain apart).1, by cbv⟩

end Loyalty.Pipeline.Control
