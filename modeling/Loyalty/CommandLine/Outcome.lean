import Loyalty.Decimal.Text
import Loyalty.Records
import Loyalty.Timestamp.Text

/-!
# What a command leaves behind

A command prints and may fail. A failure is told with its causes: one cause alone stands by
itself, several are numbered, and the further lines of a cause stand under its first.

What is printed is a balance, a withdrawal that was made, or a table of withdrawals. The columns of
the table are as wide as their heads say; what is wider pushes the rest to the right.
-/

namespace Loyalty.CommandLine

/-- What was printed, and the sentences of the failure if there was one, outermost first. -/
structure Outcome where
  printed : String := ""
  failure : Option (List String) := none
  deriving DecidableEq, Repr

def lines (ls : List String) : String := String.join (ls.map (· ++ "\n"))

/-- The text with blanks in front of each line but the first. -/
def indentFurther (blanks : Nat) (cs : List Char) : List Char :=
  cs.flatMap fun c => if c = '\n' then c :: List.replicate blanks ' ' else [c]

/-- A cause with its number, under which its further lines stand. -/
def numbered (n : Nat) (cause : String) : String :=
  let number := toString n
  String.ofList (List.replicate (5 - number.length) ' ') ++ number ++ ": " ++
    String.ofList (indentFurther 7 cause.toList)

def causeLines : List String → List String
  | [] => []
  | [cause] => ["", "Caused by:", "    " ++ String.ofList (indentFurther 4 cause.toList)]
  | causes => ["", "Caused by:"] ++ causes.zipIdx.map fun (cause, n) => numbered n cause

def failureText : List String → String
  | [] => ""
  | sentence :: causes => lines (("Error: " ++ sentence) :: causeLines causes)

namespace Outcome

def errorText (o : Outcome) : String := (o.failure.map failureText).getD ""

def exitCode (o : Outcome) : Nat := if o.failure.isNone then 0 else 1

end Outcome

def amountLines (b : Balance) : List String :=
  ["  Current:   " ++ b.current.toText, "  Withdrawn: " ++ b.withdrawn.toText]

def balanceLines (user : Uuid) (b : Balance) : List String :=
  ("Balance of " ++ user.toText ++ ":") :: amountLines b

/-- What is printed about a withdrawal: the amount that was asked for, and what is left. -/
def withdrawnLines (amount : Decimal) (order : String) (b : Balance) : List String :=
  ("✓ Withdrew " ++ amount.toText ++ " against order " ++ order) :: amountLines b

/-- A text with blanks behind it up to a width. -/
def fill (width : Nat) (s : String) : String :=
  s ++ String.ofList (List.replicate (width - s.length) ' ')

def tableRow (order sum processedAt : String) : String :=
  fill 24 order ++ " " ++ fill 14 sum ++ " " ++ fill 20 processedAt

def withdrawalLines : List Entry → List String
  | [] => ["No withdrawals found"]
  | es =>
    tableRow "Order" "Sum" "Processed at" :: String.ofList (List.replicate 60 '-') ::
      es.map fun e => tableRow e.order e.amount.toText e.processedAt.tableText

end Loyalty.CommandLine
