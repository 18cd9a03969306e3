import Loyalty.Json.Number
import Loyalty.Json.Reader
import Loyalty.Text.Quoted

/-!
# Reading records from JSON

A record is an object with the record's fields, in any order and with others among them, or an
array of the fields in their order. What is wrong is found in the order of the text: a field is
looked at when it comes up, and only the end of the object shows that one is missing.
-/

namespace Loyalty.Json

inductive DecodeError where
  | fault (f : Fault)
  | wrongType (found expected : String)
  | wrongLength (found : Nat) (expected : String)
  | missingField (name : String)
  | duplicateField (name : String)
  | unknownVariant (found : String) (known : List String)
  /-- The value was looked at and refused with this sentence. -/
  | refused (detail : String)
  deriving DecidableEq, Repr

namespace DecodeError

def choices (names : List String) : String :=
  let ticked := names.map fun n => "`" ++ n ++ "`"
  match ticked with
  | [] => "there are no variants"
  | [a] => "expected " ++ a
  | [a, b] => "expected " ++ a ++ " or " ++ b
  | _ => "expected one of " ++ ", ".intercalate ticked

def message : DecodeError → String
  | .fault .eof => "unexpected end of text"
  | .fault .malformed => "malformed text"
  | .wrongType found expected => "invalid type: " ++ found ++ ", expected " ++ expected
  | .wrongLength n expected => s!"invalid length {n}, expected " ++ expected
  | .missingField name => "missing field `" ++ name ++ "`"
  | .duplicateField name => "duplicate field `" ++ name ++ "`"
  | .unknownVariant found known => "unknown variant `" ++ found ++ "`, " ++ choices known
  | .refused detail => detail

end DecodeError

abbrev Decoded (α : Type) := Except DecodeError α

def wrongType {α : Type} (expected : String) : Json → Decoded α
  | .cut read _ => .error (.fault read)
  | .null => .error (.wrongType "null" expected)
  | .bool b => .error (.wrongType ("boolean `" ++ toString b ++ "`") expected)
  | .string none => .error (.fault .malformed)
  | .string (some s) => .error (.wrongType ("string " ++ Text.quoted s) expected)
  | .array _ _ => .error (.wrongType "sequence" expected)
  | .object _ _ => .error (.wrongType "map" expected)
  | .number l =>
    match l.value? with
    | none => .error (.fault .malformed)
    | some (.whole n) => .error (.wrongType s!"integer `{n}`" expected)
    | some (.binary x) =>
      .error (.wrongType ("floating point `" ++ Binary64.text x ++ "`") expected)

def decodeText (expected : String) : Json → Decoded String
  | .string (some s) => .ok s
  | j => wrongType expected j

/-- A string that is read further. -/
def decodeVia {ε α : Type} (expected : String) (parse : String → Except ε α)
    (message : ε → String) (j : Json) : Decoded α := do
  let s ← decodeText expected j
  (parse s).mapError fun e => .refused (message e)

/-- A value that may be `null`. -/
def decodeOptional {α : Type} (decode : Json → Decoded α) : Json → Decoded (Option α)
  | .null => .ok none
  | j => (decode j).map some

/-- One of some names, alone or as the only key of an object whose value is `null`. -/
def decodeVariant (names : List String) : Json → Decoded String
  | .string (some s) => known s
  | .object ((k, v) :: more) f => do
    let s ← known (← decodeText "variant identifier" k)
    match v with
    | .null =>
      match more, f with
      | [], none => .ok s
      | [], some f => .error (.fault f)
      | _ :: _, _ => .error (.fault .malformed)
    | v => wrongType "unit" v
  | .cut read _ => .error (.fault read)
  | _ => .error (.fault .malformed)
where
  /-- The name is one of them. -/
  known (s : String) : Decoded String :=
    if s ∈ names then .ok s else .error (.unknownVariant s names)

/-! ### Records -/

inductive Presence where
  | required
  /-- It may be left out of an object. -/
  | optional
  /-- It may also be left out at the end of an array. -/
  | defaulted
  deriving DecidableEq, Repr

/-- A field of a record, and what its value must pass. -/
structure Field where
  name : String
  check : Json → Decoded Unit
  presence : Presence := .required

/-- A record by its name and its fields. -/
structure Record where
  name : String
  fields : List Field

namespace Record

/-- The values found for fields, each with the name of its field. -/
abbrev Values := List (String × Json)

/-- The fields of an object one after the other. -/
def ofFields (r : Record) (seen : Values) :
    List (Json × Json) → Option Fault → Decoded Values
  | [], none => .ok seen
  | [], some f => .error (.fault f)
  | (.string (some k), v) :: more, f =>
    match r.fields.find? fun field => field.name = k with
    | some field =>
      if (seen.lookup k).isSome then .error (.duplicateField k)
      else do
        field.check v
        r.ofFields ((k, v) :: seen) more f
    | none =>
      match v.skipFault with
      | some fault => .error (.fault fault)
      | none => r.ofFields seen more f
  | (.string none, _) :: _, _ => .error (.fault .malformed)
  | (_, .cut read _) :: _, _ => .error (.fault read)
  | _, _ => .error (.fault .malformed)

/-- The values of the fields, where every field that is not there but may be is `null`. -/
def complete (seen : Values) : List Field → Decoded Values
  | [] => .ok []
  | field :: more =>
    match seen.lookup field.name with
    | some v => (complete seen more).map fun vs => (field.name, v) :: vs
    | none =>
      if field.presence = .required then .error (.missingField field.name)
      else (complete seen more).map fun vs => (field.name, .null) :: vs

/-- The items of an array as the fields in their order. -/
def ofItems (r : Record) (index : Nat) : List Field → List Json → Option Fault → Decoded Values
  | [], [], none => .ok []
  | [], _ :: _, _ => .error (.fault .malformed)
  | _, [], some f => .error (.fault f)
  | field :: fields, [], none =>
    if field.presence = .defaulted then
      (r.ofItems (index + 1) fields [] none).map fun vs => (field.name, .null) :: vs
    else
      .error (.wrongLength index
        ("struct " ++ r.name ++ s!" with {r.fields.length} elements"))
  | field :: fields, v :: vs, f => do
    field.check v
    let rest ← r.ofItems (index + 1) fields vs f
    return (field.name, v) :: rest

def values (r : Record) : Json → Decoded Values
  | .object fields f => do r.fields |> complete (← r.ofFields [] fields f)
  | .array items f => r.ofItems 0 r.fields items f
  | j => wrongType ("struct " ++ r.name) j

end Record

/-- The value of a field, which `Record.values` has found. -/
def Record.Values.get (vs : Record.Values) (name : String) : Json :=
  (vs.lookup name).getD .null

def decode {α : Type} (d : Json → Decoded α) (s : String) : Decoded α := do
  let document := read s.toList
  let v ← d document.value
  if document.trailing then .error (.fault .malformed) else .ok v

end Loyalty.Json
