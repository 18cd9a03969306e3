import Loyalty.Proofs.Accrual.Accounting

/-!
# What opens the circuit

A call counts against the circuit when its request fails or its reply is none that the client knows
how to take. The circuit is open once so many calls in a row have counted, and a call that does not
count begins the count anew.

Which replies count is a matter of their status and, for status 200, of their body: `IsOrderly` names
the ones that do not. A status of the client's own making, such as 404, is not among them. The rest is
the account that the circuit keeps of what comes of the requests (`Accounts.askAll`).

Main statement: `opens_iff`, for every client and every sequence of complete replies.
`missing_order_opens` is an order that the service does not know, which is enough to keep all other
orders from being asked about.
-/

namespace Loyalty.Accrual

/-! ### Which replies count -/

/-- The reply is one that the client knows how to take: an answer that it can read, no content, or
a request to wait. -/
def Reply.IsOrderly (r : Reply) : Prop :=
  (r.status = 200 ∧ ∃ s a, r.body.text? = some s ∧ Json.decode Wire.orderAccrual s = .ok a) ∨
    r.status = 204 ∨ r.status = 429

namespace Client

/-- A complete reply is read as a failure just when it is not orderly, whatever order was asked
about. -/
theorem isFailure_read_iff (number : String) (r : Reply) :
    IsFailure (r.read number) ↔ ¬ r.IsOrderly := by
  rw [← trips_iff]
  unfold Reply.read Reply.IsOrderly
  by_cases ok : r.status = 200
  · rw [if_pos ok]
    have others : r.status ≠ 204 ∧ r.status ≠ 429 := by omega
    cases body : r.body.text? with
    | none => simp [Client.trips, AccrualError.tripsBreaker, others]
    | some s =>
      cases read : Json.decode Wire.orderAccrual s with
      | ok a => simp [Client.trips, ok, read]
      | error e => simp [Client.trips, AccrualError.tripsBreaker, others, read]
  · rw [if_neg ok]
    by_cases empty : r.status = 204
    · simp [Client.trips, AccrualError.tripsBreaker, empty]
    · rw [if_neg empty]
      by_cases busy : r.status = 429
      · simp [Client.trips, AccrualError.tripsBreaker, busy]
      · simp [Client.trips, AccrualError.tripsBreaker, ok, empty, busy]

/-- The requests for orders, each with the complete reply to it. -/
def repliesTo (asks : List (String × Reply)) : List (String × Exchange) :=
  asks.map fun ask => (ask.1, .answered ask.2)

section Replies

variable {c last : Client} {asks : List (String × Reply)} {calls : List Call} {k : Nat}

/-- What comes of the requests is what the replies say. -/
theorem outcomes_repliesTo (reachable : ∀ ask ∈ asks, isReachable (c.target ask.1) = true) :
    (repliesTo asks).map c.outcome = asks.map fun ask => ask.2.read ask.1 := by
  rw [repliesTo, List.map_map]
  refine List.map_congr_left fun ask among => ?_
  exact if_pos (reachable ask among)

theorem inARow_repliesTo (reachable : ∀ ask ∈ asks, isReachable (c.target ask.1) = true) :
    InARow k IsFailure ((repliesTo asks).map c.outcome) ↔
      InARow k (fun ask => ¬ ask.2.IsOrderly) asks := by
  rw [outcomes_repliesTo reachable, inARow_map]
  simp only [isFailure_read_iff]

/-- After complete replies the circuit is open just when a full row of them were not orderly. -/
theorem IsFresh.isOpen_iff (fresh : c.IsFresh)
    (reachable : ∀ ask ∈ asks, isReachable (c.target ask.1) = true)
    (asked : c.askAll (repliesTo asks) = .ok (calls, last)) :
    last.breaker.isOpen = true ↔
      InARow c.breaker.threshold (fun ask => ¬ ask.2.IsOrderly) asks := by
  obtain ⟨-, outcomes, -⟩ := fresh.accounts.askAll fresh.accounts fresh.threshold asked
  rw [outcomes.isOpen, List.nil_append, inARow_repliesTo reachable]

/-- What complete replies make of a fresh client. -/
theorem IsFresh.askAll_repliesTo (fresh : c.IsFresh)
    (reachable : ∀ ask ∈ asks, isReachable (c.target ask.1) = true) :
    let row := fun asks : List (String × Reply) =>
      InARow c.breaker.threshold (fun ask => ¬ ask.2.IsOrderly) asks
    (c.breaker.canOpen = true ∨ ¬ row asks →
      ∃ calls last, c.askAll (repliesTo asks) = .ok (calls, last) ∧ calls.length = asks.length ∧
        (last.breaker.isOpen = true ↔ row asks) ∧
        ∀ i call, calls[i]? = some call → (call.IsRefused ↔ row (asks.take i))) ∧
    (c.breaker.canOpen = false → row asks → c.askAll (repliesTo asks) = .error .beyondClock) := by
  intro row
  have some_ := fresh.threshold
  have results := fresh.accounts.exists_askAll_iff some_ (.inr (not_inARow_nil some_))
    (repliesTo asks)
  rw [List.nil_append, inARow_repliesTo reachable] at results
  refine ⟨fun able => ?_, fun unable full => ?_⟩
  · obtain ⟨calls, last, asked⟩ := results.2 able
    obtain ⟨length, each⟩ := askAll_take asked
    refine ⟨calls, last, asked, by simpa [repliesTo] using length, fresh.isOpen_iff reachable asked,
      fun i call answer => ?_⟩
    have within : i < (repliesTo asks).length := by
      rw [← length]
      exact (List.getElem?_eq_some_iff.1 answer).1
    obtain ⟨now, past, here⟩ := each i within.le
    obtain ⟨next, asked'⟩ := here _ call (List.getElem?_eq_getElem within) answer
    rw [repliesTo, ← List.map_take] at past
    rw [isRefused_iff asked']
    exact fresh.isOpen_iff (fun ask among => reachable ask (List.mem_of_mem_take among)) past
  · cases asked : c.askAll (repliesTo asks) with
    | error e => rfl
    | ok made =>
      have able := results.1 ⟨made.1, made.2, asked⟩
      rw [unable] at able
      exact absurd full (able.resolve_left Bool.false_ne_true)

end Replies

/-- **What opens the circuit.** Let a new client ask for any orders, and let every request be
answered completely. After any of the calls the circuit is open just when so many replies in a row,
as its threshold says, were neither a readable answer nor no content nor a request to wait; and a
call is refused just when the circuit was open before. Where the clock does not reach as far as the
circuit would stay open, the call that would open it fails instead. -/
theorem opens_iff (base : String) (threshold resetSecs : Nat) (c : Client)
    (made : Client.new base threshold resetSecs = .ok c) (some_ : 0 < threshold)
    (asks : List (String × Reply))
    (reachable : ∀ ask ∈ asks, isReachable (c.target ask.1) = true) :
    let row := fun asks : List (String × Reply) =>
      InARow threshold (fun ask => ¬ ask.2.IsOrderly) asks
    (c.breaker.canOpen = true ∨ ¬ row asks →
      ∃ calls last, c.askAll (repliesTo asks) = .ok (calls, last) ∧ calls.length = asks.length ∧
        (last.breaker.isOpen = true ↔ row asks) ∧
        ∀ i call, calls[i]? = some call → (call.IsRefused ↔ row (asks.take i))) ∧
    (c.breaker.canOpen = false → row asks → c.askAll (repliesTo asks) = .error .beyondClock) := by
  obtain ⟨fresh, rfl⟩ := isFresh_new made some_
  exact fresh.askAll_repliesTo reachable

theorem not_isOrderly_plainReply {status : Nat}
    (other : status ≠ 200 ∧ status ≠ 204 ∧ status ≠ 429) : ¬ (plainReply status).IsOrderly := by
  rintro (⟨ok, -⟩ | empty | busy)
  · exact other.1 ok
  · exact other.2.1 empty
  · exact other.2.2 busy

/-- A failure of the service, a rate limit, and then two failures in a row. -/
def mixedReplies : List (String × Reply) :=
  [("1", plainReply 500), ("2", plainReply 429), ("1", plainReply 500), ("3", plainReply 404)]

theorem opens_iff_mixedReplies :
    ∃ calls last, (localClient 2).askAll (repliesTo mixedReplies) = .ok (calls, last) ∧
      last.breaker.isOpen = true := by
  have known : ∀ ask ∈ mixedReplies, ask.1 ∈ ["1", "2", "3"] := by decide
  have reachable := fun ask among => isReachable_localClient 2 _ (known ask among)
  have row : InARow 2 (fun ask : String × Reply => ¬ ask.2.IsOrderly) mixedReplies := by
    refine ⟨mixedReplies.drop 2, (List.drop_suffix 2 _).isInfix, rfl, fun ask among => ?_⟩
    have known : ask = ("1", plainReply 500) ∨ ask = ("3", plainReply 404) := by
      simpa [mixedReplies] using among
    rcases known with rfl | rfl
    · exact not_isOrderly_plainReply (by decide)
    · exact not_isOrderly_plainReply (by decide)
  obtain ⟨calls, last, asked, -, isOpen, -⟩ :=
    (opens_iff _ 2 30 _ (new_localClient 2) (by decide) mixedReplies reachable).1
      (.inl (by decide))
  exact ⟨calls, last, asked, isOpen.2 row⟩

/-- An order that the service does not know, asked about as often as the threshold says, and then
another order, about which it would have said that there is no content. -/
def missingOrder : List (String × Reply) :=
  List.replicate 5 ("1", plainReply 404) ++ [("2", plainReply 204)]

/-- Though every request is answered with success or with a fault of the asker, the circuit opens,
and the other order is not asked about. -/
theorem missing_order_opens :
    (∀ ask ∈ missingOrder, 200 ≤ ask.2.status ∧ ask.2.status ≤ 299 ∨
        400 ≤ ask.2.status ∧ ask.2.status ≤ 499) ∧
      Client.new "http://[::1]:3000" defaultThreshold defaultResetSecs =
        .ok (localClient 5) ∧
      ∃ calls last call, (localClient 5).askAll (repliesTo missingOrder) = .ok (calls, last) ∧
        last.breaker.isOpen = true ∧ calls[5]? = some call ∧ call.IsRefused := by
  have fresh : (localClient 5).IsFresh := ⟨rfl, rfl, by decide⟩
  have known : ∀ ask ∈ missingOrder, ask.1 ∈ ["1", "2", "3"] := by decide
  have reachable := fun ask among => isReachable_localClient 5 _ (known ask among)
  have front : InARow 5 (fun ask : String × Reply => ¬ ask.2.IsOrderly) (missingOrder.take 5) := by
    refine ⟨_, List.infix_rfl, rfl, fun ask among => ?_⟩
    obtain rfl : ask = ("1", plainReply 404) := by simpa [missingOrder] using among
    exact not_isOrderly_plainReply (by decide)
  have whole : InARow 5 (fun ask : String × Reply => ¬ ask.2.IsOrderly) missingOrder := by
    exact front.mono (List.take_prefix 5 _).isInfix
  obtain ⟨calls, last, asked, length, isOpen, refused⟩ :=
    (fresh.askAll_repliesTo reachable).1 (.inl (by decide))
  have sixth : 5 < calls.length := by rw [length]; decide
  refine ⟨by decide, new_localClient 5, calls, last, calls[5], asked, isOpen.2 whole,
    List.getElem?_eq_getElem sixth, ?_⟩
  exact (refused 5 _ (List.getElem?_eq_getElem sixth)).2 front

end Client

end Loyalty.Accrual
