import Loyalty.Wire.Parts

/-!
# Users, orders, balances and ledger entries in JSON
-/

namespace Loyalty.Wire

open Loyalty.Json

def userRecord : Record :=
  ⟨"User", [field "id" uuid, field "username" text, field "created_at" timestamp]⟩

def user (j : Json) : Decoded User := do
  let vs ← userRecord.values j
  return {
    id := ← uuid (vs.get "id")
    username := ← text (vs.get "username")
    createdAt := ← timestamp (vs.get "created_at") }

def ofUser (u : User) : Json :=
  .fields [("id", ofUuid u.id), ("username", .text u.username),
    ("created_at", ofTimestamp u.createdAt)]

def orderRecord : Record :=
  ⟨"Order", [field "id" uuid, field "number" text, field "user_id" uuid,
    field "status" orderStatus, optionalField "accrual" decimal, field "uploaded_at" timestamp,
    field "modified_at" timestamp]⟩

def order (j : Json) : Decoded Order := do
  let vs ← orderRecord.values j
  return {
    id := ← uuid (vs.get "id")
    number := ← text (vs.get "number")
    user := ← uuid (vs.get "user_id")
    status := ← orderStatus (vs.get "status")
    accrual := ← decodeOptional decimal (vs.get "accrual")
    uploadedAt := ← timestamp (vs.get "uploaded_at")
    modifiedAt := ← timestamp (vs.get "modified_at") }

/-- Writes an order; no accrual is `null`. -/
def ofOrder (o : Order) : Json :=
  .fields [("id", ofUuid o.id), ("number", .text o.number), ("user_id", ofUuid o.user),
    ("status", .text o.status.name),
    ("accrual", match o.accrual with
      | some d => ofDecimal d
      | none => .null),
    ("uploaded_at", ofTimestamp o.uploadedAt), ("modified_at", ofTimestamp o.modifiedAt)]

def balanceRecord : Record :=
  ⟨"Balance", [field "id" uuid, field "user_id" uuid, field "current" decimal,
    field "withdrawn" decimal]⟩

def balance (j : Json) : Decoded Balance := do
  let vs ← balanceRecord.values j
  return {
    id := ← uuid (vs.get "id")
    user := ← uuid (vs.get "user_id")
    current := ← decimal (vs.get "current")
    withdrawn := ← decimal (vs.get "withdrawn") }

def ofBalance (b : Balance) : Json :=
  .fields [("id", ofUuid b.id), ("user_id", ofUuid b.user), ("current", ofDecimal b.current),
    ("withdrawn", ofDecimal b.withdrawn)]

def entryRecord : Record :=
  ⟨"Transaction", [field "id" uuid, field "processed_at" timestamp, field "user_id" uuid,
    field "order_number" text, field "type" entryKind, field "amount" decimal]⟩

def entry (j : Json) : Decoded Entry := do
  let vs ← entryRecord.values j
  return {
    id := ← uuid (vs.get "id")
    processedAt := ← timestamp (vs.get "processed_at")
    user := ← uuid (vs.get "user_id")
    order := ← text (vs.get "order_number")
    kind := ← entryKind (vs.get "type")
    amount := ← decimal (vs.get "amount") }

def ofEntry (e : Entry) : Json :=
  .fields [("id", ofUuid e.id), ("processed_at", ofTimestamp e.processedAt),
    ("user_id", ofUuid e.user), ("order_number", .text e.order), ("type", .text e.kind.name),
    ("amount", ofDecimal e.amount)]

end Loyalty.Wire
