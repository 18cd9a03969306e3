import Loyalty.Wire.Problem

/-!
# HTTP answers

An answer has a status, a body, and the type of the body if there is one. An answer to a request
for the head alone is the full answer without its body.
-/

namespace Loyalty.Http

inductive Body where
  | empty
  | text (s : String)
  | json (j : Json)

def Body.toText : Body → String
  | .empty => ""
  | .text s => s
  | .json j => j.toText

def Body.contentType? : Body → Option String
  | .empty => none
  | .text _ => some "text/plain; charset=utf-8"
  | .json _ => some "application/json"

structure Answer where
  status : Nat
  contentType : Option String
  body : Body

namespace Answer

def of (status : Nat) (body : Body) : Answer := ⟨status, body.contentType?, body⟩

def ofFailure (f : Failure) : Answer := of f.httpStatus (.json (Wire.ofFailure f))

def notFound : Answer := of 404 .empty

/-- What is at the address can't be asked for in this way. -/
def wrongMethod : Answer := of 405 .empty

/-- The address names what is there in a way that can't be read. -/
def badAddress (problem : String) : Answer := of 400 (.text ("Invalid URL: " ++ problem))

/-- The answer without its body. -/
def head (a : Answer) : Answer := { a with body := .empty }

end Answer

end Loyalty.Http
