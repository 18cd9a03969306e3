import Mathlib
import Loyalty.Proofs.Decimal.Reading
import Loyalty.Proofs.Json.Reading
import Loyalty.Proofs.Json.Record
import Loyalty.Wire.OrderAccrual

/-!
# Answers of the accrual service and their texts

An answer that was written is read again: its order number down to every character, its status, and
its accrual as the same number. A text that is read as an answer is read as the same answer when the
letters of its status are written in the other case.

Main statement: `orderAccrual_survives`.
-/

namespace Loyalty.Wire

open Loyalty.Json (Decoded Record)

/-! ### Letters in upper and lower case -/

/-- The texts differ in nothing but the case of letters from `a` to `z`. -/
def SameLetters (s t : String) : Prop :=
  s.toList.map Char.toLower = t.toList.map Char.toLower

theorem toUpper_toLower (c : Char) : c.toLower.toUpper = c.toUpper := by
  by_cases large : c.val ≥ 'A'.val ∧ c.val ≤ 'Z'.val
  · have every : ∀ n < 91, 64 < n → (Char.ofNat n).toLower.toUpper = (Char.ofNat n).toUpper := by
      decide
    have low : 65 ≤ c.toNat := UInt32.le_iff_toNat_le.1 large.1
    have high : c.toNat ≤ 90 := UInt32.le_iff_toNat_le.1 large.2
    have this := every c.toNat (by omega) (by omega)
    rwa [Char.ofNat_toNat] at this
  · rw [show c.toLower = c from dif_neg large]

theorem SameLetters.upperCased {s t : String} (same : SameLetters s t) :
    upperCased s = upperCased t := by
  have upper (s : String) :
      s.toList.map Char.toUpper = (s.toList.map Char.toLower).map Char.toUpper := by
    rw [List.map_map]
    exact List.map_congr_left fun c _ => (toUpper_toLower c).symm
  rw [Wire.upperCased, Wire.upperCased, upper s, upper t, same]

/-- The status does not depend on the case of its letters. -/
theorem SameLetters.accrualStatus {s t : String} (same : SameLetters s t) :
    accrualStatus (.text s) = accrualStatus (.text t) := by
  show (parseAccrualStatus s).mapError _ = (parseAccrualStatus t).mapError _
  rw [parseAccrualStatus, parseAccrualStatus, same.upperCased]

/-- A status is a string. -/
theorem text_of_accrualStatus {v : Json} {status : AccrualStatus}
    (read : accrualStatus v = .ok status) : ∃ s, v = .text s := by
  unfold accrualStatus Json.decodeVia at read
  cases this : Json.decodeText "a string" v with
  | error e =>
    rw [this] at read
    cases read
  | ok s => exact ⟨s, Json.decodeText_eq_ok.1 this⟩

theorem accrualStatus_name (status : AccrualStatus) :
    accrualStatus (.text status.name) = .ok status := by
  cases status <;> rfl

/-! ### Answers that are read -/

theorem check_eq_ok {α : Type} {name : String} {d : Json → Decoded α} {v : Json} :
    (field name d).check v = .ok () ↔ ∃ x, d v = .ok x := by
  show (d v).map _ = _ ↔ _
  cases d v <;> simp [Except.map]

theorem find_order : orderAccrualRecord.fields.find? (fun f => f.name = "order") =
    some (field "order" text) := rfl

theorem find_status : orderAccrualRecord.fields.find? (fun f => f.name = "status") =
    some (field "status" accrualStatus) := rfl

theorem find_accrual : orderAccrualRecord.fields.find? (fun f => f.name = "accrual") =
    some { optionalField "accrual" decimal with presence := .defaulted } := rfl

theorem orderAccrual_eq_ok {j : Json} {a : OrderAccrual} :
    orderAccrual j = .ok a ↔
      ∃ vs, orderAccrualRecord.values j = .ok vs ∧ text (vs.get "order") = .ok a.order ∧
        accrualStatus (vs.get "status") = .ok a.status ∧
        Json.decodeOptional decimal (vs.get "accrual") = .ok a.accrual := by
  unfold orderAccrual
  cases orderAccrualRecord.values j with
  | error e => simp [bind, Except.bind]
  | ok vs =>
    cases number : text (vs.get "order") with
    | error e => simp [bind, Except.bind, number]
    | ok number' =>
      cases status : accrualStatus (vs.get "status") with
      | error e => simp [bind, Except.bind, number, status]
      | ok status' =>
        cases accrual : Json.decodeOptional decimal (vs.get "accrual") with
        | error e => simp [bind, Except.bind, number, status, accrual]
        | ok accrual' =>
          obtain ⟨_, _, _⟩ := a
          simp [bind, Except.bind, pure, Except.pure, number, status, accrual]

/-- An object is read as an answer when its fields are found and complete. -/
theorem values_object {fs : List (Json × Json)} {open_ : Option Json.Fault} {vs : Record.Values} :
    orderAccrualRecord.values (.object fs open_) = .ok vs ↔
      ∃ seen, orderAccrualRecord.ofFields [] fs open_ = .ok seen ∧
        Record.complete seen orderAccrualRecord.fields = .ok vs := by
  show (orderAccrualRecord.ofFields [] fs open_ >>= fun seen =>
    Record.complete seen orderAccrualRecord.fields) = _ ↔ _
  cases orderAccrualRecord.ofFields [] fs open_ <;> simp [bind, Except.bind]

/-! ### Writing and reading -/

/-- The decimal that is read for a decimal that was written: the same number, its scale not below
zero. -/
def reread (d : Decimal) : Decimal := d.rescale (max d.scale 0)

theorem value_reread (d : Decimal) : (reread d).value = d.value :=
  Decimal.value_rescale_of_le (le_max_left _ _)

theorem reread_of_nonneg {d : Decimal} (nonneg : 0 ≤ d.scale) : reread d = d := by
  rw [reread, max_eq_left nonneg, Decimal.rescale_self]

theorem decimal_ofDecimal (d : Decimal) : decimal (ofDecimal d) = .ok (reread d) := by
  show (Decimal.parse d.toText).mapError _ = _
  rw [Decimal.parse_toText]
  rfl

/-- The value of an answer is read as the answer. -/
theorem orderAccrual_ofOrderAccrual (a : OrderAccrual) :
    orderAccrual (ofOrderAccrual a) = .ok { a with accrual := a.accrual.map reread } := by
  obtain ⟨number, status, accrual⟩ := a
  have number_ok : (field "order" text).check (.text number) = .ok () := rfl
  have status_ok : (field "status" accrualStatus).check (.text status.name) = .ok () :=
    check_eq_ok.2 ⟨_, accrualStatus_name status⟩
  rw [orderAccrual_eq_ok]
  cases accrual with
  | none =>
    refine ⟨[("order", .text number), ("status", .text status.name), ("accrual", .null)],
      values_object.2 ⟨[("status", .text status.name), ("order", .text number)], ?_, rfl⟩, rfl,
      accrualStatus_name status, rfl⟩
    exact (Record.ofFields_known find_order).2 ⟨rfl, number_ok,
      (Record.ofFields_known find_status).2 ⟨rfl, status_ok, rfl⟩⟩
  | some d =>
    have accrual_ok : Json.decodeOptional decimal (ofDecimal d) = .ok (some (reread d)) := by
      show (decimal (ofDecimal d)).map some = _
      rw [decimal_ofDecimal]
      rfl
    have accrual_check : (field "accrual" (Json.decodeOptional decimal)).check (ofDecimal d) =
        .ok () := check_eq_ok.2 ⟨_, accrual_ok⟩
    refine ⟨[("order", .text number), ("status", .text status.name), ("accrual", ofDecimal d)],
      values_object.2 ⟨[("accrual", ofDecimal d), ("status", .text status.name),
        ("order", .text number)], ?_, rfl⟩, rfl, accrualStatus_name status, accrual_ok⟩
    exact (Record.ofFields_known find_order).2 ⟨rfl, number_ok,
      (Record.ofFields_known find_status).2 ⟨rfl, status_ok,
        (Record.ofFields_known find_accrual).2 ⟨rfl, accrual_check, rfl⟩⟩⟩

/-- The value of an answer has no faults. -/
theorem isPlain_ofOrderAccrual (a : OrderAccrual) : (ofOrderAccrual a).IsPlain := by
  refine .fields fun f among => ?_
  obtain ⟨number, status, accrual⟩ := a
  have one : ∃ t, f.2 = .text t := by
    cases accrual <;> simp at among
    · obtain rfl | rfl := among <;> exact ⟨_, rfl⟩
    · obtain rfl | rfl | rfl := among <;> exact ⟨_, rfl⟩
  obtain ⟨t, same⟩ := one
  rw [same]
  exact .text t

/-- The text of an answer is read as the answer. -/
theorem decode_toText (a : OrderAccrual) :
    Json.decode orderAccrual (Json.toText (ofOrderAccrual a)) =
      .ok { a with accrual := a.accrual.map reread } := by
  unfold Json.decode Json.toText
  rw [String.toList_ofList, Json.read_write (isPlain_ofOrderAccrual a)]
  show (orderAccrual (ofOrderAccrual a) >>= fun b => .ok b) = _
  rw [orderAccrual_ofOrderAccrual]
  rfl

/-! ### The case of the status -/

/-- The status of an answer, where there is one and it is a string: behind its key in an object, or
the second item of an array. -/
def statusText? : Json → Option String
  | .object fs _ =>
    match Json.valuesOf "status" fs with
    | [.string s] => s
    | _ => none
  | .array (_ :: .string s :: _) _ => s
  | _ => none

/-- The value with another text for its status. -/
def withStatus (t : String) : Json → Json
  | .object fs open_ => .object (Json.replaceValue "status" (.text t) fs) open_
  | .array items open_ => .array (items.set 1 (.text t)) open_
  | v => v

/-- Another status takes the place of the one that was found. -/
theorem get_put (vs : Record.Values) (t : String) {name : String} (other : name ≠ "status") :
    (vs.put "status" (.text t)).get name = vs.get name := by
  rw [Record.Values.get, Record.Values.lookup_put, Record.Values.get]
  cases vs.lookup name with
  | none => rfl
  | some v => exact if_neg other

/-- An object that is read as an answer is read as the same answer with another string for its status
that says the same. -/
theorem orderAccrual_object {fs : List (Json × Json)} {open_ : Option Json.Fault}
    {a : OrderAccrual} (read : orderAccrual (.object fs open_) = .ok a) :
    ∃ s, statusText? (.object fs open_) = some s ∧ accrualStatus (.text s) = .ok a.status ∧
      ∀ t, accrualStatus (.text t) = .ok a.status →
        orderAccrual (withStatus t (.object fs open_)) = .ok a := by
  obtain ⟨vs, values, number, status, accrual⟩ := orderAccrual_eq_ok.1 read
  obtain ⟨seen, found, completed⟩ := values_object.1 values
  obtain ⟨v, before, after⟩ : ∃ v, seen.lookup "status" = some v ∧ vs.lookup "status" = some v :=
    Record.lookup_complete (List.mem_of_find?_eq_some find_status) rfl completed
  have own : vs.get "status" = v := by
    rw [Record.Values.get, after]
    rfl
  rw [own] at status
  obtain ⟨s, rfl⟩ := text_of_accrualStatus status
  have only : Json.valuesOf "status" fs = [.text s] := by
    have this := Record.lookup_ofFields found (by rw [find_status]; rfl)
    rw [before] at this
    exact this.symm
  refine ⟨s, by rw [statusText?, only]; rfl, status, fun t same => ?_⟩
  have passes : (field "status" accrualStatus).check (.text t) = .ok () :=
    check_eq_ok.2 ⟨_, same⟩
  have needed : ∀ f ∈ orderAccrualRecord.fields, f.name = "status" → f.presence = .required := by
    decide
  refine orderAccrual_eq_ok.2 ⟨vs.put "status" (.text t), values_object.2 ⟨_,
    Record.ofFields_replaceValue find_status passes found,
    Record.complete_put needed completed⟩, ?_, ?_, ?_⟩
  · rwa [get_put _ _ (by decide)]
  · rw [Record.Values.get, Record.Values.lookup_put, after]
    exact same
  · rwa [get_put _ _ (by decide)]

/-- So is an array, where the status is the second item. -/
theorem orderAccrual_array {items : List Json} {open_ : Option Json.Fault}
    {a : OrderAccrual} (read : orderAccrual (.array items open_) = .ok a) :
    ∃ s, statusText? (.array items open_) = some s ∧ accrualStatus (.text s) = .ok a.status ∧
      ∀ t, accrualStatus (.text t) = .ok a.status →
        orderAccrual (withStatus t (.array items open_)) = .ok a := by
  obtain ⟨vs, values, number, status, accrual⟩ := orderAccrual_eq_ok.1 read
  change orderAccrualRecord.ofItems 0 orderAccrualRecord.fields items open_ = .ok vs at values
  cases items with
  | nil => exact absurd (Record.ofItems_nil values) nofun
  | cons v items =>
    obtain ⟨v_ok, rest, others, rfl⟩ := Record.ofItems_cons.1 values
    cases items with
    | nil => exact absurd (Record.ofItems_nil others) nofun
    | cons w items =>
      obtain ⟨-, rest, last, rfl⟩ := Record.ofItems_cons.1 others
      obtain ⟨s, rfl⟩ := text_of_accrualStatus (v := w) status
      refine ⟨s, rfl, status, fun t same => ?_⟩
      have passes : (field "status" accrualStatus).check (.text t) = .ok () :=
        check_eq_ok.2 ⟨_, same⟩
      exact orderAccrual_eq_ok.2 ⟨_, Record.ofItems_cons.2 ⟨v_ok, _,
        Record.ofItems_cons.2 ⟨passes, _, last, rfl⟩, rfl⟩, number, same, accrual⟩

theorem orderAccrual_withStatus {j : Json} {a : OrderAccrual} (read : orderAccrual j = .ok a) :
    ∃ s, statusText? j = some s ∧ accrualStatus (.text s) = .ok a.status ∧
      ∀ t, accrualStatus (.text t) = .ok a.status → orderAccrual (withStatus t j) = .ok a := by
  obtain ⟨vs, values, -⟩ := orderAccrual_eq_ok.1 read
  obtain ⟨fs, open_, rfl⟩ | ⟨items, open_, rfl⟩ := Record.container_of_values values
  · exact orderAccrual_object read
  · exact orderAccrual_array read

/-- **Answers survive being written and read.** Every answer is read from its text, with its order
number, its status and, where there is one, an accrual of the same value, which is the same decimal
unless its scale is below zero. And what is read as an answer has a status string, in place of which
any string of the same letters, in upper or lower case, gives the same answer. -/
theorem orderAccrual_survives :
    (∀ a : OrderAccrual, ∃ b, Json.decode orderAccrual (Json.toText (ofOrderAccrual a)) = .ok b ∧
      b.order = a.order ∧ b.status = a.status ∧ (a.accrual = none → b.accrual = none) ∧
      ∀ d, a.accrual = some d →
        ∃ e, b.accrual = some e ∧ e.value = d.value ∧ (0 ≤ d.scale → e = d)) ∧
    ∀ (j : Json) (a : OrderAccrual), orderAccrual j = .ok a →
      ∃ s, statusText? j = some s ∧
        ∀ t, SameLetters s t → orderAccrual (withStatus t j) = .ok a := by
  constructor
  · intro a
    refine ⟨_, decode_toText a, rfl, rfl, fun absent => ?_, fun d present => ?_⟩
    · simp only [absent, Option.map_none]
    · refine ⟨reread d, ?_, value_reread d, reread_of_nonneg⟩
      simp only [present, Option.map_some]
  · intro j a read
    obtain ⟨s, own, status, others⟩ := orderAccrual_withStatus read
    exact ⟨s, own, fun t same => others t (same.accrualStatus ▸ status)⟩

/-- A number with a quote and a line end in it and minus five hundred survive; and a status in mixed
letters is read among fields in another order. -/
theorem orderAccrual_survives_quoted :
    (∃ b, Json.decode orderAccrual
          (Json.toText (ofOrderAccrual ⟨"12\"\n", .processed, some ⟨-5, -2⟩⟩)) = .ok b ∧
        b.order = "12\"\n" ∧ b.status = .processed ∧
        ∃ e, b.accrual = some e ∧ e.value = Decimal.value ⟨-5, -2⟩) ∧
      orderAccrual (withStatus "Invalid"
          (.fields [("status", .text "iNVALID"), ("note", .null), ("order", .text "18")])) =
        .ok ⟨"18", .invalid, none⟩ := by
  constructor
  · obtain ⟨b, read, number, status, -, accrual⟩ :=
      orderAccrual_survives.1 ⟨"12\"\n", .processed, some ⟨-5, -2⟩⟩
    obtain ⟨e, present, same, -⟩ := accrual _ rfl
    exact ⟨b, read, number, status, e, present, same⟩
  · have read : orderAccrual
        (.fields [("status", .text "iNVALID"), ("note", .null), ("order", .text "18")]) =
          .ok ⟨"18", .invalid, none⟩ := by
      rfl
    obtain ⟨s, own, others⟩ := orderAccrual_survives.2 _ _ read
    obtain rfl : "iNVALID" = s := Option.some.inj own
    have letters : SameLetters "iNVALID" "Invalid" := by
      show List.map _ _ = List.map _ _
      decide
    exact others "Invalid" letters

end Loyalty.Wire
