/-!
# JSON values

A `Json` is what a text stands for, as far as the text goes. A text may break off or go wrong;
then the values that were open at that point know the fault, and everything before it can still
be looked at. So a reader that wants a number where a text has a word can say so even if a brace
is missing further on, which is the order in which a reader finds out.

Object keys keep their order and may repeat. Where a text has something else in the place of a
key, the object ends with that.
-/

namespace Loyalty

/-- What is wrong with a text: it ends too early, or it holds what it must not. -/
inductive Json.Fault where
  | eof
  | malformed
  deriving DecidableEq, Repr

/-- A number as it is written: its digits before the point, behind it, and the exponent. -/
structure Json.Literal where
  negative : Bool
  whole : List Char
  fraction : Option (List Char)
  exponent : Option (Bool × List Char)
  deriving DecidableEq, Repr

inductive Json where
  | null
  | bool (b : Bool)
  | number (n : Json.Literal)
  /-- A string; `none` if it names half of a pair of code units. -/
  | string (text : Option String)
  /-- An array, and the fault that kept it from being closed. -/
  | array (items : List Json) (open_ : Option Json.Fault)
  /-- An object, and the fault that kept it from being closed. A key is a string; the last one may
  be what stands in the place of a string. -/
  | object (fields : List (Json × Json)) (open_ : Option Json.Fault)
  /-- No value: the fault for one who wants the value, and for one who passes over it. -/
  | cut (read skip : Json.Fault)

namespace Json

/-- A string that is one. -/
def text (s : String) : Json := .string (some s)

/-- An object whose keys are strings, closed. -/
def fields (fs : List (String × Json)) : Json :=
  .object (fs.map fun (k, v) => (text k, v)) none

/-- The fault that one finds who passes over the value. -/
def skipFault : Json → Option Fault
  | .array _ f | .object _ f => f
  | .cut _ f => some f
  | _ => none

end Json

end Loyalty
