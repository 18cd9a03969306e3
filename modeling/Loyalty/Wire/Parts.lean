import Loyalty.Decimal.Text
import Loyalty.Json.Decode
import Loyalty.Json.Writer
import Loyalty.Records
import Loyalty.Timestamp.Text

/-!
# The parts of records in JSON

Identifiers, instants and decimals are strings. A decimal is also read from a number.
-/

namespace Loyalty.Wire

open Loyalty.Json

def uuid : Json → Decoded Uuid :=
  decodeVia "a formatted UUID string" Uuid.parse fun e => "UUID parsing failed: " ++ e.message

def timestamp : Json → Decoded Timestamp :=
  decodeVia "an RFC 3339 formatted date and time string" Timestamp.parse
    Timestamp.ParseError.message

def text : Json → Decoded String := decodeText "a string"

def decimal : Json → Decoded Decimal
  | .number l =>
    match l.value? with
    | some n => .ok n.decimal
    | none => .error (.fault .malformed)
  | .string (some s) => (Decimal.parse s).mapError fun e => .refused e.message
  | j => Json.wrongType "a number or formatted decimal string" j

def orderStatus (j : Json) : Decoded OrderStatus := do
  let s ← decodeVariant (OrderStatus.all.map OrderStatus.name) j
  (OrderStatus.ofName s).mapError fun e => .refused e.message

def entryKind (j : Json) : Decoded EntryKind := do
  let s ← decodeVariant (EntryKind.all.map EntryKind.name) j
  (EntryKind.ofName s).mapError fun e => .refused e.message

def field {α : Type} (name : String) (d : Json → Decoded α) : Field :=
  { name, check := fun j => (d j).map fun _ => () }

/-- A field that may be left out of an object. -/
def optionalField {α : Type} (name : String) (d : Json → Decoded α) : Field :=
  { field name (decodeOptional d) with presence := .optional }

/-- An identifier is written in groups. -/
def ofUuid (u : Uuid) : Json := .text u.toText

/-- An instant is written in universal time. -/
def ofTimestamp (t : Timestamp) : Json := .text t.toText

def ofDecimal (d : Decimal) : Json := .text d.toText

end Loyalty.Wire
