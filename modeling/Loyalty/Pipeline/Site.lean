import Loyalty.Pipeline.Gate
import Loyalty.Pipeline.Work

/-!
# What the tasks of a pipeline call

The tasks call two things: the accrual service and the order store. Here both follow a script.
The service has a list of replies for each order number, each given after a delay; the store
keeps orders in memory and may be told to fail. `Site` holds both, together with the record of
the calls made.
-/

namespace Loyalty.Pipeline

/-- A reply of the accrual service and the milliseconds after which it comes. -/
structure Reply where
  answer : Except AccrualError OrderAccrual
  delay : Nat := 0

/-- The first entry is used up unless it is the only one. -/
def advance {α : Type} : List α → List α
  | [] => []
  | [x] => [x]
  | _ :: xs => xs

/-- The accrual service: for each order number the replies to come, the last of which is
repeated. -/
structure Source where
  replies : List (String × List Reply) := []

namespace Source

/-- The reply about a number of which the service was told nothing. -/
def unscripted : Reply := ⟨.error (.unknown "unscripted"), 0⟩

def next (s : Source) (number : String) : Reply :=
  match s.replies.lookup number with
  | some (r :: _) => r
  | _ => unscripted

/-- The service after one more question about a number. -/
def asked (s : Source) (number : String) : Source :=
  ⟨s.replies.map fun (n, rs) => if n = number then (n, advance rs) else (n, rs)⟩

end Source

structure StoredOrder where
  number : String
  status : OrderStatus := .new
  accrual : Option Decimal := none
  deriving DecidableEq, Repr

def StoredOrder.ticket (o : StoredOrder) : Ticket := ⟨o.number, o.status⟩

/-- The operations of the store that a fault can be put on. -/
inductive Operation where
  | list
  | finalize (number : String)
  | markProcessing (number : String)
  deriving DecidableEq, Repr

def Request.operation : Request → Operation
  | .finalize number _ _ => .finalize number
  | .markProcessing number => .markProcessing number

/-- What befalls one call of an operation: it works as it should, it finds nothing, or it
fails. -/
inductive Fault where
  | normal
  | nothing
  | failure (cause : Failure)
  deriving DecidableEq, Repr

structure Repository where
  /-- All orders, oldest first. -/
  orders : List StoredOrder := []
  /-- Listings to answer in place of what the orders say, the last of which is repeated. -/
  listings : Option (List (Except Failure (List Ticket))) := none
  /-- What befalls the next calls of an operation; afterwards it works as it should. -/
  faults : List (Operation × List Fault) := []
  /-- How long every call takes. -/
  delay : Nat := 0

namespace Repository

/-- What befalls the next call of an operation. -/
def fault (r : Repository) (op : Operation) : Fault :=
  match r.faults.lookup op with
  | some (f :: _) => f
  | _ => .normal

def called (r : Repository) (op : Operation) : Repository :=
  { r with faults := r.faults.map fun (o, fs) => if o = op then (o, fs.tail) else (o, fs) }

def find? (r : Repository) (number : String) : Option StoredOrder :=
  r.orders.find? fun o => o.number = number

def modify (r : Repository) (number : String) (f : StoredOrder → StoredOrder) : Repository :=
  { r with orders := r.orders.map fun o => if o.number = number then f o else o }

/-- The oldest orders of the given statuses, at most `limit` of them. -/
def select (r : Repository) (statuses : List OrderStatus) (limit : Int) : List Ticket :=
  ((r.orders.filter fun o => o.status ∈ statuses).take limit.toNat).map StoredOrder.ticket

def list (r : Repository) (statuses : List OrderStatus) (limit : Int) :
    Except Failure (List Ticket) × Repository :=
  let rest := r.called .list
  match r.fault .list with
  | .failure cause => (.error cause, rest)
  | .normal | .nothing =>
    match r.listings with
    | none => (.ok (r.select statuses limit), rest)
    | some [] => (.ok [], rest)
    | some (answer :: more) => (answer, { rest with listings := some (advance (answer :: more)) })

/-- Carries out a request that no fault befalls. -/
def carryOut (r : Repository) : Request → StoreAnswer × Repository
  | .finalize number status accrual =>
    match r.find? number with
    | none => (.failure (.orderNotFound number), r)
    | some o =>
      if o.status.isTerminal then (.failure (.orderAlreadyProcessed number), r)
      else (.done, r.modify number fun o => { o with status, accrual })
  | .markProcessing number =>
    match r.find? number with
    | none => (.nothing, r)
    | some o =>
      if o.status = .new then (.done, r.modify number fun o => { o with status := .processing })
      else (.nothing, r)

/-- Answers a request. Only marking an order can find nothing. -/
def answer (r : Repository) (req : Request) : StoreAnswer × Repository :=
  let rest := r.called req.operation
  match r.fault req.operation, req with
  | .failure cause, _ => (.failure cause, rest)
  | .nothing, .markProcessing _ => (.nothing, rest)
  | _, _ => rest.carryOut req

end Repository

/-- A call that a task began. -/
inductive Call where
  | list (statuses : List OrderStatus) (limit : Int)
  | accrual (number : String)
  | store (request : Request)
  deriving DecidableEq, Repr

/-- The order that a call is about; a listing is about none. -/
def Call.number : Call → String
  | .list _ _ => ""
  | .accrual number => number
  | .store request => request.number

/-- A call and the time at which it began. -/
structure CallRecord where
  time : Nat
  call : Call
  deriving DecidableEq, Repr

/-- One record is written before another: by time, then by order number. -/
def CallRecord.before (a b : CallRecord) : Bool :=
  a.time < b.time || (a.time == b.time && a.call.number ≤ b.call.number)

/-- All that the tasks call, and the calls made so far, the latest first. -/
structure Site where
  source : Source := {}
  repository : Repository := {}
  log : List CallRecord := []

namespace Site

def note (s : Site) (now : Nat) (call : Call) : Site :=
  { s with log := ⟨now, call⟩ :: s.log }

/-- The calls in the order in which they are told. -/
def calls (s : Site) : List CallRecord :=
  s.log.reverse.mergeSort CallRecord.before

def ask (s : Site) (now : Nat) (number : String) : Reply × Site :=
  (s.source.next number,
    { s.note now (.accrual number) with source := s.source.asked number })

def answer (s : Site) (r : Request) : StoreAnswer × Site :=
  let (a, repository) := s.repository.answer r
  (a, { s with repository })

/-- Answers a listing of the orders that still have to be resolved. -/
def list (s : Site) (limit : Int) : Except Failure (List Ticket) × Site :=
  let (a, repository) := s.repository.list OrderStatus.pending limit
  (a, { s with repository })

end Site

/-- How the work on one order ended: its outcome, or none when the wait that the service asked
for lies beyond the horizon. -/
structure Processed where
  outcome : Option Outcome
  endedAt : Nat
  gate : Gate
  site : Site

/-- The work on one order from the question to the report, by one worker alone. -/
def Site.process (s : Site) (gate : Gate) (now : Nat) (held : Ticket) : Processed :=
  let (reply, asked) := s.ask now held.number
  let arrived := now + reply.delay
  match followUp held reply.answer with
  | .leave outcome => ⟨some outcome, arrived, gate, asked⟩
  | .defer wait =>
    match gate.defer arrived wait with
    | some later => ⟨some (.rateLimited wait), arrived, later, asked⟩
    | none => ⟨none, arrived, gate, asked⟩
  | .request r =>
    let (answer, done) := (asked.note arrived (.store r)).answer r
    ⟨some (r.outcome answer), arrived + s.repository.delay, gate, done⟩

end Loyalty.Pipeline
