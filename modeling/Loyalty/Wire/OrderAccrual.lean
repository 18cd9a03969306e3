import Loyalty.Accrual.Answer
import Loyalty.Wire.Parts

/-!
# Answers of the accrual service in JSON

The status is read in any mixture of upper and lower case. An accrual may be left out or be
`null`; it is left out when there is none.
-/

namespace Loyalty.Wire

open Loyalty.Json

/-- A text with its letters from `a` to `z` in upper case. -/
def upperCased (s : String) : String := String.ofList (s.toList.map Char.toUpper)

/-- The status of a name in any case. -/
def parseAccrualStatus (s : String) : Except String AccrualStatus :=
  match AccrualStatus.ofName? (upperCased s) with
  | some status => .ok status
  | none => .error (upperCased s)

/-- A status of the service in any case. -/
def accrualStatus : Json → Decoded AccrualStatus :=
  decodeVia "a string" parseAccrualStatus ("unknown accrual status: " ++ ·)

/-- A status of the service by its exact name. -/
def exactAccrualStatus (j : Json) : Decoded AccrualStatus := do
  let s ← decodeVariant (AccrualStatus.all.map AccrualStatus.name) j
  match AccrualStatus.ofName? s with
  | some status => .ok status
  | none => .error (.unknownVariant s (AccrualStatus.all.map AccrualStatus.name))

def orderAccrualRecord : Record :=
  ⟨"OrderAccrual", [field "order" text, field "status" accrualStatus,
    { optionalField "accrual" decimal with presence := .defaulted }]⟩

def orderAccrual (j : Json) : Decoded OrderAccrual := do
  let vs ← orderAccrualRecord.values j
  return {
    order := ← text (vs.get "order")
    status := ← accrualStatus (vs.get "status")
    accrual := ← decodeOptional decimal (vs.get "accrual") }

def ofOrderAccrual (a : OrderAccrual) : Json :=
  .fields ([("order", .text a.order), ("status", .text a.status.name)] ++
    match a.accrual with
    | some d => [("accrual", ofDecimal d)]
    | none => [])

end Loyalty.Wire
