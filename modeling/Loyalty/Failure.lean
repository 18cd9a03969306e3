/-!
# Failures

What can go wrong in a service, as causes. `Failure.message` is the one place where a cause
becomes a sentence.

Constraint violations reach the services as database errors with a five-letter code; three
codes carry meaning there.
-/

namespace Loyalty

/-- Why a database call gave no answer. -/
inductive DatabaseError where
  /-- The statement answered no row where one was wanted. -/
  | rowNotFound
  | poolTimedOut
  | poolClosed
  | columnNotFound (name : String)
  | protocol (detail : String)
  /-- The connection failed, for the reason that the operating system gives. -/
  | io (reason : String)
  /-- The address of the database can't be used; the chain of reasons, outermost first. -/
  | configuration (reasons : List String)
  /-- The server refused the statement. -/
  | server (code message : String)
  deriving DecidableEq, Repr

namespace DatabaseError

/-- Wraps the innermost reason of an unusable address once for each further level. -/
def configurationText : List String → String
  | [] => "error with configuration: "
  | [reason] => "error with configuration: " ++ reason
  | _ :: rest => "error with configuration: " ++ configurationText rest

def message : DatabaseError → String
  | .rowNotFound => "no rows returned by a query that expected to return at least one row"
  | .poolTimedOut => "pool timed out while waiting for an open connection"
  | .poolClosed => "attempted to acquire a connection on a closed pool"
  | .columnNotFound name => "no column found for name: " ++ name
  | .protocol detail => "encountered unexpected or invalid data: " ++ detail
  | .io reason => "error communicating with database: " ++ reason
  | .configuration reasons => configurationText reasons
  | .server _ text => "error returned from database: " ++ text

/-- The sentences of the causes behind the error, outermost first. -/
def causes : DatabaseError → List String
  | .io reason => [reason]
  | .configuration reasons => configurationCauses reasons
  | .server _ text => [text]
  | _ => []
where
  /-- Each level but the innermost repeats what the levels under it say. -/
  configurationCauses : List String → List String
    | [] => []
    | [reason] => [reason]
    | _ :: rest => configurationText rest :: configurationCauses rest

/-- The sentence of the error and those of the causes behind it, outermost first. -/
def chain (e : DatabaseError) : List String := e.message :: e.causes

/-- The five-letter code with which the server refused the statement. -/
def code? : DatabaseError → Option String
  | .server code _ => some code
  | _ => none

def isUniqueViolation (e : DatabaseError) : Bool := e.code? == some "23505"

def isCheckViolation (e : DatabaseError) : Bool := e.code? == some "23514"

def isForeignKeyViolation (e : DatabaseError) : Bool := e.code? == some "23503"

end DatabaseError

/-- Why a service gave no result. -/
inductive Failure where
  | database (error : DatabaseError)
  | validation (detail : String)
  | userNotFound (user : String)
  | orderNotFound (number : String)
  | orderNumberTaken (number : String)
  | orderAlreadyProcessed (number : String)
  | transactionExists (number : String)
  | insufficientBalance
  deriving DecidableEq, Repr

namespace Failure

def message : Failure → String
  | .database e => "Database error: " ++ e.message
  | .validation detail => "Validation error: " ++ detail
  | .userNotFound user => "User not found: " ++ user
  | .orderNotFound number => "Order not found: " ++ number
  | .orderNumberTaken number =>
    "Order number " ++ number ++ " is already registered by another user"
  | .orderAlreadyProcessed number => "Order already processed: " ++ number
  | .transactionExists number => "Transaction already exists for order " ++ number
  | .insufficientBalance => "Insufficient balance"

def chain (f : Failure) : List String :=
  f.message ::
    match f with
    | .database e => e.chain
    | _ => []

end Failure

end Loyalty
