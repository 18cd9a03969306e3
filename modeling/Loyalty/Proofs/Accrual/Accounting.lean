import Loyalty.Accrual.Client
import Loyalty.Proofs.Accrual.Row

/-!
# The account that the circuit keeps

What a client has done for its caller is enough to know what it will do next. It lets a call through
as long as no full row of its answers were failures, that is failed requests or unexpected replies;
any other answer ends such a row. From the answer that fills a row on it refuses every call, sends
nothing, and says that its circuit is open.

Requests and replies of all kinds may be mixed here, and addresses that cannot be asked: these fail
like a request. Where the circuit cannot stay open for as long as it was told to, a call that would
open it has no result; `exists_askAll_iff` says which calls have one.

Main statement: `keeps_account`, for every client and every sequence of calls.
-/

namespace Loyalty.Accrual

/-- No reply of the service reads as a refusal by the circuit. -/
theorem read_ne_circuitOpen (number : String) (exchange : Exchange) (detail : String) :
    exchange.read number ≠ .error (.circuitOpen detail) := by
  cases exchange with
  | failed reason => exact nofun
  | answered r =>
    show r.read number ≠ .error (.circuitOpen detail)
    unfold Reply.read
    split
    · split
      · exact nofun
      · split <;> exact nofun
    · split
      · exact nofun
      · split <;> exact nofun

namespace Client

/-! ### Answers and calls -/

def Call.IsRefused (call : Call) : Prop := ∃ detail, call.answer = .error (.circuitOpen detail)

/-- Asks for one order after the other; with each number comes what comes of its request. -/
def askAll (c : Client) : List (String × Exchange) → Except Breaker.OpenError (List Call × Client)
  | [] => .ok ([], c)
  | (number, exchange) :: more => do
    let (call, next) ← c.ask number exchange
    let (calls, last) ← next.askAll more
    return (call :: calls, last)

/-- A client with nothing counted yet. -/
structure IsFresh (c : Client) : Prop where
  closed : c.breaker.isOpen = false
  uncounted : c.breaker.failures = 0
  threshold : 0 < c.breaker.threshold

/-- What a call gives if the circuit lets it through. -/
def outcome (c : Client) (query : String × Exchange) : Except AccrualError OrderAccrual :=
  if isReachable (c.target query.1) then query.2.read query.1
  else .error (.request "the address can't be asked")

/-- The request failed, or the reply was an unexpected one. -/
def IsFailure (answer : Except AccrualError OrderAccrual) : Prop :=
  ∃ detail, answer = .error (.unknown detail) ∨ answer = .error (.request detail)

def Call.HasFailed (call : Call) : Prop := IsFailure call.answer

/-- The failures are the answers that count against the circuit. -/
theorem trips_iff {answer : Except AccrualError OrderAccrual} :
    trips answer = true ↔ IsFailure answer := by
  cases answer with
  | ok a => simp [trips, IsFailure]
  | error e => cases e <;> simp [trips, IsFailure, AccrualError.tripsBreaker]

instance : DecidablePred IsFailure := fun _ => decidable_of_iff _ trips_iff

instance : DecidablePred Call.HasFailed := fun call =>
  inferInstanceAs (Decidable (IsFailure call.answer))

theorem isFresh_new {base : String} {threshold resetSecs : Nat} {c : Client}
    (made : Client.new base threshold resetSecs = .ok c) (some_ : 0 < threshold) :
    c.IsFresh ∧ c.breaker.threshold = threshold := by
  unfold Client.new at made
  split at made
  · cases made
  · cases made
    exact ⟨⟨rfl, rfl, some_⟩, rfl⟩

section Steps

variable {c next now last : Client} {call : Call} {calls : List Call} {query : String × Exchange}
  {asks more : List (String × Exchange)} {k : Nat}
  {past : List (Except AccrualError OrderAccrual)}

/-- While the circuit is open the service is not asked. -/
theorem ask_of_open (isOpen : c.breaker.isOpen = true) :
    c.ask query.1 query.2 =
      .ok (⟨.error (.circuitOpen "accrual service circuit breaker is open"), false⟩, c) := by
  rw [ask, if_pos isOpen]

theorem outcome_of_baseUrl (same : next.baseUrl = c.baseUrl) : next.outcome = c.outcome := by
  funext query
  rw [outcome, outcome, target, target, same]

/-- No request reads as a refusal by the circuit. -/
theorem outcome_ne_circuitOpen (detail : String) :
    c.outcome query ≠ .error (.circuitOpen detail) := by
  unfold outcome
  split
  · exact read_ne_circuitOpen query.1 query.2 detail
  · exact nofun

/-- The client after a call that was let through, its result counted. -/
def counted (c : Client) (query : String × Exchange) : Client :=
  { c with breaker := c.breaker.record (trips (c.outcome query)) }

/-- The call would open the circuit, which cannot be. -/
def Overruns (c : Client) (query : String × Exchange) : Prop :=
  c.breaker.canOpen = false ∧ (c.counted query).breaker.isOpen = true

/-- While the circuit is closed a call gives what comes of its request, unless it overruns. -/
theorem ask_of_closed_eq (closed : c.breaker.isOpen = false) :
    c.ask query.1 query.2 =
      if (c.counted query).breaker.isOpen && !c.breaker.canOpen then .error .beyondClock
      else .ok (⟨c.outcome query, isReachable (c.target query.1)⟩, c.counted query) := by
  rw [Client.ask, if_neg (by rw [closed]; exact Bool.false_ne_true)]
  show (c.breaker.record? (trips (c.outcome query))).map (fun breaker =>
    ((⟨c.outcome query, isReachable (c.target query.1)⟩ : Call), { c with breaker })) = _
  rw [Breaker.record?, closed, Bool.not_false, Bool.and_true]
  show Except.map _ (if (c.counted query).breaker.isOpen && !c.breaker.canOpen then _
    else .ok (c.counted query).breaker) = _
  cases (c.counted query).breaker.isOpen && !c.breaker.canOpen <;> rfl

/-- A call that has a result was refused by an open circuit, or let through by a closed one. -/
theorem ask_cases (asked : c.ask query.1 query.2 = .ok (call, next)) :
    (c.breaker.isOpen = true ∧ call.IsRefused ∧ call.asked = false ∧ next = c) ∨
      (c.breaker.isOpen = false ∧ ¬ c.Overruns query ∧ call.answer = c.outcome query ∧
        call.asked = isReachable (c.target query.1) ∧ next = c.counted query) := by
  cases state : c.breaker.isOpen with
  | true =>
    rw [ask_of_open state] at asked
    cases asked
    exact .inl ⟨rfl, ⟨_, rfl⟩, rfl, rfl⟩
  | false =>
    rw [ask_of_closed_eq state] at asked
    split at asked
    · cases asked
    next within =>
      cases asked
      refine .inr ⟨rfl, ?_, rfl, rfl, rfl⟩
      rintro ⟨unable, opens⟩
      exact within (by rw [opens, unable]; rfl)

/-- A call leaves the client's address, and how long its circuit would stay open. -/
theorem ask_keeps (asked : c.ask query.1 query.2 = .ok (call, next)) :
    next.baseUrl = c.baseUrl ∧ next.breaker.canOpen = c.breaker.canOpen := by
  obtain ⟨-, -, -, rfl⟩ | ⟨-, -, -, -, rfl⟩ := ask_cases asked
  · exact ⟨rfl, rfl⟩
  · refine ⟨rfl, ?_⟩
    show (c.breaker.record (trips (c.outcome query))).canOpen = c.breaker.canOpen
    cases trips (c.outcome query) <;> rfl

/-- A call is refused by an open circuit alone. -/
theorem isRefused_iff (asked : c.ask query.1 query.2 = .ok (call, next)) :
    call.IsRefused ↔ c.breaker.isOpen = true := by
  obtain ⟨opened, refused, -⟩ | ⟨closed, -, answer, -⟩ := ask_cases asked
  · exact iff_of_true refused opened
  · rw [closed]
    refine iff_of_false ?_ Bool.false_ne_true
    rintro ⟨detail, refused⟩
    exact outcome_ne_circuitOpen detail (answer.symm.trans refused)

/-- A call has a result unless it overruns. -/
theorem exists_ask_iff :
    (∃ call next, c.ask query.1 query.2 = .ok (call, next)) ↔
      c.breaker.isOpen = true ∨ ¬ c.Overruns query := by
  constructor
  · rintro ⟨call, next, asked⟩
    obtain ⟨isOpen, -⟩ | ⟨-, within, -⟩ := ask_cases asked
    · exact .inl isOpen
    · exact .inr within
  · intro able
    cases state : c.breaker.isOpen with
    | true => exact ⟨_, c, ask_of_open state⟩
    | false =>
      have within : ¬ c.Overruns query :=
        able.resolve_left (by rw [state]; exact Bool.false_ne_true)
      refine ⟨_, _, (ask_of_closed_eq state).trans (if_neg ?_)⟩
      intro overruns
      rw [Bool.and_eq_true, Bool.not_eq_true'] at overruns
      exact within ⟨overruns.2, overruns.1⟩

/-! ### The account -/

/-- What the answers so far have made of the client: its circuit is open if a full row of them were
failures, and as long as it is not, it has counted the last of them. -/
structure Accounts (k : Nat) (past : List (Except AccrualError OrderAccrual)) (c : Client) :
    Prop where
  threshold : c.breaker.threshold = k
  isOpen : c.breaker.isOpen = true ↔ InARow k IsFailure past
  failures : c.breaker.isOpen = false → c.breaker.failures = streak IsFailure past

theorem IsFresh.accounts (fresh : c.IsFresh) : Accounts c.breaker.threshold [] c where
  threshold := rfl
  isOpen := iff_of_false (by rw [fresh.closed]; exact Bool.false_ne_true)
    (not_inARow_nil fresh.threshold)
  failures := fun _ => fresh.uncounted

/-- A refusal leaves the account as it is. -/
theorem Accounts.refuse (accounts : Accounts k past c) (some_ : 0 < k)
    (isOpen : c.breaker.isOpen = true) (answer : Except AccrualError OrderAccrual) :
    Accounts k (past ++ [answer]) c where
  threshold := accounts.threshold
  isOpen := iff_of_true isOpen ((inARow_append_singleton some_).2 (.inl (accounts.isOpen.1 isOpen)))
  failures := fun closed => absurd (closed.symm.trans isOpen) Bool.false_ne_true

/-- The result of a call that was let through is added to the account. -/
theorem Accounts.count (accounts : Accounts k past c) (some_ : 0 < k)
    (closed : c.breaker.isOpen = false) (query : String × Exchange) :
    Accounts k (past ++ [c.outcome query]) (c.counted query) := by
  have failures := accounts.failures closed
  have threshold := accounts.threshold
  have before : ¬ InARow k IsFailure past := fun row =>
    Bool.false_ne_true (closed.symm.trans (accounts.isOpen.2 row))
  by_cases fails : IsFailure (c.outcome query)
  · have record : (c.counted query).breaker = c.breaker.record true :=
      congrArg c.breaker.record (trips_iff.2 fails)
    refine ⟨?_, ?_, fun _ => ?_⟩
    · rw [record]
      exact threshold
    · rw [record, inARow_append_singleton some_]
      show (c.breaker.isOpen || decide (c.breaker.threshold ≤ c.breaker.failures + 1)) = true ↔ _
      rw [closed, threshold, failures]
      simp [before, fails]
    · rw [record, streak_append_of_pos fails]
      show c.breaker.failures + 1 = _
      rw [failures]
  · have record : (c.counted query).breaker = c.breaker.record false :=
      congrArg c.breaker.record (Bool.eq_false_iff.2 (mt trips_iff.1 fails))
    refine ⟨?_, ?_, fun _ => ?_⟩
    · rw [record]
      exact threshold
    · rw [record, inARow_append_singleton some_]
      show c.breaker.isOpen = true ↔ _
      rw [closed]
      simp [before, fails]
    · rw [record, streak_append_of_neg fails]
      rfl

/-- One more call: what is noted of it is what comes of its request, if it was not refused. -/
theorem Accounts.ask (accounts : Accounts k past c) (some_ : 0 < k)
    (asked : c.ask query.1 query.2 = .ok (call, next)) (answer : Except AccrualError OrderAccrual)
    (noted : c.breaker.isOpen = false → answer = c.outcome query) :
    Accounts k (past ++ [answer]) next := by
  obtain ⟨isOpen, -, -, rfl⟩ | ⟨closed, -, -, -, rfl⟩ := ask_cases asked
  · exact accounts.refuse some_ isOpen answer
  · rw [noted closed]
    exact accounts.count some_ closed query

/-! ### Calls one after the other -/

theorem askAll_cons_eq_ok :
    c.askAll (query :: more) = .ok (calls, last) ↔
      ∃ call next rest, c.ask query.1 query.2 = .ok (call, next) ∧
        next.askAll more = .ok (rest, last) ∧ calls = call :: rest := by
  obtain ⟨number, exchange⟩ := query
  rw [askAll]
  cases first : c.ask number exchange with
  | error e => simp [bind, Except.bind]
  | ok made =>
    obtain ⟨call, next⟩ := made
    cases others : next.askAll more with
    | error e => simp [bind, Except.bind, others]
    | ok made =>
      simp [bind, Except.bind, pure, Except.pure, others, Prod.ext_iff, and_comm, eq_comm]

/-- Every call is made of what the earlier ones have left. -/
theorem askAll_take (asked : c.askAll asks = .ok (calls, last)) :
    calls.length = asks.length ∧
      ∀ i ≤ asks.length, ∃ now, c.askAll (asks.take i) = .ok (calls.take i, now) ∧
        ∀ query call, asks[i]? = some query → calls[i]? = some call →
          ∃ next, now.ask query.1 query.2 = .ok (call, next) := by
  induction asks generalizing c calls with
  | nil =>
    cases asked
    refine ⟨rfl, fun i _ => ⟨last, ?_, fun _ _ there => ?_⟩⟩
    · rw [List.take_nil, List.take_nil]
      rfl
    · simp at there
  | cons query more ih =>
    obtain ⟨call, next, rest, first, others, rfl⟩ := askAll_cons_eq_ok.1 asked
    obtain ⟨length, each⟩ := ih others
    refine ⟨congrArg (· + 1) length, fun i within => ?_⟩
    cases i with
    | zero =>
      refine ⟨c, rfl, fun query' call' there answer => ?_⟩
      obtain rfl : query = query' := by simpa using there
      obtain rfl : call = call' := by simpa using answer
      exact ⟨next, first⟩
    | succ i =>
      obtain ⟨now, past, here⟩ := each i (Nat.le_of_succ_le_succ within)
      refine ⟨now, askAll_cons_eq_ok.2 ⟨call, next, rest.take i, first, past, rfl⟩, ?_⟩
      simpa using here

/-- The account after calls, kept of their answers or of what comes of all the requests. -/
theorem Accounts.askAll {sent : List (Except AccrualError OrderAccrual)}
    (answers : Accounts k past c) (outcomes : Accounts k sent c) (some_ : 0 < k)
    (asked : c.askAll asks = .ok (calls, last)) :
    Accounts k (past ++ calls.map Call.answer) last ∧
      Accounts k (sent ++ asks.map c.outcome) last ∧ last.baseUrl = c.baseUrl := by
  induction asks generalizing past sent c calls with
  | nil =>
    cases asked
    rw [List.map_nil, List.map_nil, List.append_nil, List.append_nil]
    exact ⟨answers, outcomes, rfl⟩
  | cons query more ih =>
    obtain ⟨call, next, rest, first, others, rfl⟩ := askAll_cons_eq_ok.1 asked
    have base : next.baseUrl = c.baseUrl := (ask_keeps first).1
    have answers' := answers.ask some_ first call.answer fun closed => by
      obtain ⟨isOpen, -⟩ | ⟨-, -, answer, -⟩ := ask_cases first
      · exact absurd (closed.symm.trans isOpen) Bool.false_ne_true
      · exact answer
    have outcomes' := outcomes.ask some_ first (c.outcome query) fun _ => rfl
    have rest := ih answers' outcomes' others
    rw [List.append_assoc, List.append_assoc, outcome_of_baseUrl base, base] at rest
    exact rest

/-- Calls have results unless the circuit cannot open and a full row of what comes of the requests
are failures. -/
theorem Accounts.exists_askAll_iff (accounts : Accounts k past c) (some_ : 0 < k)
    (unbroken : c.breaker.canOpen = true ∨ ¬ InARow k IsFailure past)
    (asks : List (String × Exchange)) :
    (∃ calls last, c.askAll asks = .ok (calls, last)) ↔
      c.breaker.canOpen = true ∨ ¬ InARow k IsFailure (past ++ asks.map c.outcome) := by
  induction asks generalizing past c with
  | nil =>
    rw [List.map_nil, List.append_nil]
    exact iff_of_true ⟨[], c, rfl⟩ unbroken
  | cons query more ih =>
    have whole : past ++ (query :: more).map c.outcome =
        past ++ [c.outcome query] ++ more.map c.outcome := by simp
    rw [whole]
    cases state : c.breaker.isOpen with
    | true =>
      have able := unbroken.resolve_right (not_not_intro (accounts.isOpen.1 state))
      have rest := ih (accounts.refuse some_ state (c.outcome query)) (.inl able)
      refine iff_of_true ?_ (.inl able)
      obtain ⟨calls, last, others⟩ := rest.2 (.inl able)
      exact ⟨_, last, askAll_cons_eq_ok.2 ⟨_, c, calls, ask_of_open state, others, rfl⟩⟩
    | false =>
      have counted := accounts.count some_ state query
      by_cases overruns : c.Overruns query
      · have row := counted.isOpen.1 overruns.2
        refine iff_of_false ?_ ?_
        · rintro ⟨calls, last, asked⟩
          obtain ⟨call, next, rest, first, -⟩ := askAll_cons_eq_ok.1 asked
          obtain isOpen | within := exists_ask_iff.1 ⟨call, next, first⟩
          · exact Bool.false_ne_true (state.symm.trans isOpen)
          · exact within overruns
        · rintro (able | unfilled)
          · exact Bool.false_ne_true (overruns.1.symm.trans able)
          · exact unfilled (row.mono (List.prefix_append _ _).isInfix)
      · obtain ⟨call, next, first⟩ := exists_ask_iff.2 (.inr overruns)
        obtain ⟨isOpen, -⟩ | ⟨-, -, answer, -, rfl⟩ := ask_cases first
        · exact absurd (state.symm.trans isOpen) Bool.false_ne_true
        have able : (c.counted query).breaker.canOpen = c.breaker.canOpen :=
          (ask_keeps first).2
        have alike : (c.counted query).outcome = c.outcome := outcome_of_baseUrl rfl
        have rest := ih counted (by
          rw [able, ← counted.isOpen, Bool.not_eq_true]
          cases opens : c.breaker.canOpen with
          | true => exact .inl rfl
          | false => exact .inr (Bool.eq_false_iff.2 fun isOpen => overruns ⟨opens, isOpen⟩))
        rw [able, alike] at rest
        rw [← rest]
        constructor
        · rintro ⟨calls, last, asked⟩
          obtain ⟨call', next, calls', first', others, rfl⟩ := askAll_cons_eq_ok.1 asked
          cases first.symm.trans first'
          exact ⟨calls', last, others⟩
        · rintro ⟨calls, last, others⟩
          exact ⟨_, last, askAll_cons_eq_ok.2 ⟨call, _, calls, first, others, rfl⟩⟩

end Steps

/-- **The account that the circuit keeps.** Let a new client be asked for any orders, whatever comes
of the requests. The calls have results, unless the circuit cannot open and so many failures in a row
come of the requests as its threshold says. Before each call, and after the last one, the circuit is
open just when so many calls in a row have failed, and else it has counted the failures since the last
answer of another kind. A call is refused just when the circuit is open, and then nothing is sent;
else the service is asked, if its address can be, and the call gives what comes of that. -/
theorem keeps_account (base : String) (threshold resetSecs : Nat) (c : Client)
    (made : Client.new base threshold resetSecs = .ok c) (some_ : 0 < threshold)
    (asks : List (String × Exchange)) :
    ((∃ calls last, c.askAll asks = .ok (calls, last)) ↔
      c.breaker.canOpen = true ∨ ¬ InARow threshold IsFailure (asks.map c.outcome)) ∧
    ∀ calls last, c.askAll asks = .ok (calls, last) → calls.length = asks.length ∧
      ∀ i ≤ asks.length, ∃ now, c.askAll (asks.take i) = .ok (calls.take i, now) ∧
        let full := InARow threshold Call.HasFailed (calls.take i)
        (now.breaker.word = "open" ↔ full) ∧ (now.breaker.word = "closed" ↔ ¬ full) ∧
        (¬ full → now.breaker.failures = streak Call.HasFailed (calls.take i)) ∧
        (∀ before pass after, calls.take i = before ++ pass :: after → ¬ pass.HasFailed →
          (full ↔ InARow threshold Call.HasFailed before ∨
            InARow threshold Call.HasFailed after) ∧
          (¬ full → now.breaker.failures = streak Call.HasFailed after)) ∧
        ∀ query call, asks[i]? = some query → calls[i]? = some call →
          (call.IsRefused ↔ full) ∧
          (call.asked = true ↔ isReachable (c.target query.1) = true ∧ ¬ full) ∧
          (¬ full → call.answer = c.outcome query) := by
  obtain ⟨fresh, rfl⟩ := isFresh_new made some_
  refine ⟨?_, fun calls last asked => ?_⟩
  · exact fresh.accounts.exists_askAll_iff some_ (.inr (not_inARow_nil some_)) asks
  obtain ⟨length, each⟩ := askAll_take asked
  refine ⟨length, fun i within => ?_⟩
  obtain ⟨now, past, here⟩ := each i within
  obtain ⟨accounts, -, base'⟩ := fresh.accounts.askAll fresh.accounts some_ past
  have isOpen : now.breaker.isOpen = true ↔
      InARow c.breaker.threshold Call.HasFailed (calls.take i) := by
    rw [accounts.isOpen, List.nil_append, inARow_map]
    rfl
  have failures (unfilled : ¬ InARow c.breaker.threshold Call.HasFailed (calls.take i)) :
      now.breaker.failures = streak Call.HasFailed (calls.take i) := by
    rw [accounts.failures (Bool.eq_false_iff.2 (mt isOpen.1 unfilled)), List.nil_append, streak_map]
    rfl
  refine ⟨now, past, ?_, ?_, failures, ?_, ?_⟩
  · rw [← isOpen, Breaker.word]
    cases now.breaker.isOpen <;> decide
  · rw [← isOpen, Breaker.word]
    cases now.breaker.isOpen <;> decide
  · intro before pass after split breaks
    refine ⟨?_, fun unfilled => ?_⟩
    · rw [split]
      exact inARow_append_cons some_ breaks
    · rw [failures unfilled, split, streak_append_cons breaks]
  · intro query call there answer
    obtain ⟨next, asked'⟩ := here query call there answer
    rw [← isOpen]
    refine ⟨isRefused_iff asked', ?_⟩
    obtain ⟨opened, -, silent, -⟩ | ⟨closed, -, answer', sent, -⟩ := ask_cases asked'
    · refine ⟨?_, fun unfilled => absurd opened unfilled⟩
      rw [silent]
      exact iff_of_false Bool.false_ne_true fun both => both.2 opened
    · have outcome := congrFun (outcome_of_baseUrl base') query
      have target : now.target query.1 = c.target query.1 := by
        rw [Client.target, base', Client.target]
      rw [closed]
      refine ⟨?_, fun _ => answer'.trans outcome⟩
      rw [sent, target, and_iff_left Bool.false_ne_true]

/-- A reply of that status and nothing else. -/
def plainReply (status : Nat) : Reply := { status }

/-- A client of a service on the same machine. -/
def localClient (threshold : Nat) : Client :=
  ⟨"http://[::1]:3000", { threshold, resetSecs := 30 }⟩

theorem new_localClient (threshold : Nat) :
    Client.new "http://[::1]:3000" threshold 30 = .ok (localClient threshold) := by
  have base : Text.dropTrailing '/' "http://[::1]:3000" = "http://[::1]:3000" := by
    decide +kernel
  rw [Client.new, if_neg (by decide), base]
  rfl

theorem isReachable_localClient (threshold : Nat) :
    ∀ number ∈ ["1", "2", "3"], isReachable ((localClient threshold).target number) = true := by
  show ∀ number ∈ ["1", "2", "3"],
    isReachable ("http://[::1]:3000" ++ "/api/orders/" ++ number) = true
  decide +kernel

/-- A request that fails, a rate limit, a failure of the service, again a request that fails, and a
question that the service would have answered. -/
def troubledCalls : List (String × Exchange) :=
  [("1", .failed "timed out"), ("2", .answered (plainReply 429)),
    ("1", .answered (plainReply 500)), ("3", .failed "timed out"),
    ("2", .answered (plainReply 204))]

theorem keeps_account_troubledCalls :
    Client.new "http://[::1]:3000" 2 30 = .ok (localClient 2) ∧ 0 < 2 ∧
      ∃ calls last fifth, (localClient 2).askAll troubledCalls = .ok (calls, last) ∧
        calls.map Call.asked = [true, true, true, true, false] ∧
        InARow 2 Call.HasFailed (calls.take 4) ∧ calls[4]? = some fifth ∧ fifth.IsRefused := by
  have sent : ((localClient 2).askAll troubledCalls).toOption.map (fun made =>
      made.1.map Call.asked) = some [true, true, true, true, false] := by decide +kernel
  obtain ⟨exists_, account⟩ :=
    keeps_account _ 2 30 _ (new_localClient 2) (by decide) troubledCalls
  obtain ⟨calls, last, asked⟩ := exists_.2 (.inl (by decide))
  rw [asked] at sent
  have sent : calls.map Call.asked = [true, true, true, true, false] := Option.some.inj sent
  obtain ⟨length, each⟩ := account calls last asked
  have fourth : 4 < calls.length := by rw [length]; decide
  have silent : calls[4].asked = false := by
    have at_ : (calls.map Call.asked)[4]? = some false := by rw [sent]; rfl
    rw [List.getElem?_map, List.getElem?_eq_getElem fourth] at at_
    exact Option.some.inj at_
  obtain ⟨now, -, -, -, -, -, here⟩ := each 4 (by decide)
  obtain ⟨refused, goesOut, -⟩ := here _ _ rfl (List.getElem?_eq_getElem fourth)
  have full : InARow 2 Call.HasFailed (calls.take 4) := by
    by_contra unfilled
    have reachable := isReachable_localClient 2 "2" (by decide)
    exact Bool.false_ne_true (silent.symm.trans (goesOut.2 ⟨reachable, unfilled⟩))
  exact ⟨new_localClient 2, by decide, calls, last, _, asked, sent, full,
    List.getElem?_eq_getElem fourth, refused.2 full⟩

end Client

end Loyalty.Accrual
