import Mathlib
import Loyalty.Json.Decode

/-!
# The values that a record finds

A field's value is found where the field's key stands, and it stands there once. When the value of a
field gives way to another one that passes the field's check, the record is read as before, with the
new value in that field.
-/

namespace Loyalty.Json

def isText (name : String) : Json → Bool
  | .string (some s) => s == name
  | _ => false

def valuesOf (name : String) (fs : List (Json × Json)) : List Json :=
  (fs.filter fun f => isText name f.1).map Prod.snd

def replaceValue (name : String) (w : Json) (fs : List (Json × Json)) : List (Json × Json) :=
  fs.map fun f => if isText name f.1 then (f.1, w) else f

section Fields

variable {name k : String} {v w : Json} {fs : List (Json × Json)}

theorem isText_text_iff : isText name (text k) = true ↔ k = name := beq_iff_eq

theorem valuesOf_cons :
    valuesOf name ((text k, v) :: fs) =
      if k = name then v :: valuesOf name fs else valuesOf name fs := by
  simp only [valuesOf, List.filter_cons, isText_text_iff]
  split <;> rfl

theorem replaceValue_cons :
    replaceValue name w ((text k, v) :: fs) =
      (text k, if k = name then w else v) :: replaceValue name w fs := by
  simp only [replaceValue, List.map_cons, isText_text_iff]
  split <;> rfl

end Fields

/-! ### Strings -/

theorem wrongType_ne_ok {α : Type} (expected : String) (v : Json) (x : α) :
    wrongType expected v ≠ .ok x := by
  unfold wrongType
  split
  case h_8 => split <;> exact nofun
  all_goals exact nofun

/-- Only a string is read as a string. -/
theorem decodeText_eq_ok {expected s : String} {v : Json} :
    decodeText expected v = .ok s ↔ v = text s := by
  refine ⟨fun read => ?_, fun same => by rw [same]; rfl⟩
  unfold decodeText at read
  split at read
  · cases read
    rfl
  · exact absurd read (wrongType_ne_ok _ _ _)

namespace Record

variable {r : Record} {seen vs : Values} {open_ : Option Fault} {name : String} {w : Json}

/-- A record is read from an object or from an array. -/
theorem container_of_values {v : Json} (found : r.values v = .ok vs) :
    (∃ fs f, v = .object fs f) ∨ ∃ items f, v = .array items f := by
  unfold values at found
  split at found
  · exact .inl ⟨_, _, rfl⟩
  · exact .inr ⟨_, _, rfl⟩
  · exact absurd found (wrongType_ne_ok _ _ _)

/-! ### Objects -/

/-- What behind a key that is one of the record's is read: the key has not come up, and the value
passes the check. -/
theorem ofFields_known {k : String} {v : Json} {more : List (Json × Json)} {field : Field}
    (known : r.fields.find? (fun field => field.name = k) = some field) :
    r.ofFields seen ((text k, v) :: more) open_ = .ok vs ↔
      seen.lookup k = none ∧ field.check v = .ok () ∧
        r.ofFields ((k, v) :: seen) more open_ = .ok vs := by
  rw [text, ofFields, known]
  cases before : seen.lookup k with
  | some _ => simp
  | none =>
    cases checked : field.check v with
    | error e => simp [bind, Except.bind, checked]
    | ok _ => simp [bind, Except.bind, checked]

/-- What has another key is passed over. -/
theorem ofFields_unknown {k : String} {v : Json} {more : List (Json × Json)}
    (unknown : r.fields.find? (fun field => field.name = k) = none) :
    r.ofFields seen ((text k, v) :: more) open_ = .ok vs ↔
      v.skipFault = none ∧ r.ofFields seen more open_ = .ok vs := by
  rw [text, ofFields, unknown]
  cases v.skipFault with
  | some _ => simp
  | none => simp

/-- The keys of an object that is read are strings. -/
theorem key_of_ofFields {key v : Json} {more : List (Json × Json)}
    (found : r.ofFields seen ((key, v) :: more) open_ = .ok vs) : ∃ k, key = text k := by
  cases key with
  | string s =>
    cases s with
    | some k => exact ⟨k, rfl⟩
    | none => cases found
  | _ => cases v <;> cases found

/-- Every value that is found of a field was found before or stands behind the field's key, and no
other one stands there. -/
theorem lookup_ofFields {fs : List (Json × Json)} (found : r.ofFields seen fs open_ = .ok vs)
    (among : (r.fields.find? fun field => field.name = name).isSome) :
    (vs.lookup name).toList = (seen.lookup name).toList ++ valuesOf name fs := by
  induction fs generalizing seen with
  | nil =>
    cases open_ with
    | some _ => cases found
    | none =>
      cases found
      rw [valuesOf, List.filter_nil, List.map_nil, List.append_nil]
  | cons f fs ih =>
    obtain ⟨key, v⟩ := f
    obtain ⟨k, rfl⟩ := key_of_ofFields found
    rw [valuesOf_cons]
    cases this : r.fields.find? fun field => field.name = k with
    | some field =>
      obtain ⟨fresh, -, found⟩ := (ofFields_known this).1 found
      rw [ih found, List.lookup_cons]
      by_cases same : k = name
      · rw [if_pos same, ← same, fresh, beq_self_eq_true]
        rfl
      · rw [if_neg same, beq_eq_false_iff_ne.2 (Ne.symm same)]
    | none =>
      have other : k ≠ name := by
        rintro rfl
        rw [this] at among
        cases among
      rw [if_neg other, ih ((ofFields_unknown this).1 found).2]

/-- The values that were found, with another one for a field. -/
def Values.put (vs : Values) (name : String) (w : Json) : Values :=
  vs.map fun (k, v) => (k, if k = name then w else v)

theorem Values.lookup_put (vs : Values) (k : String) :
    (vs.put name w).lookup k = (vs.lookup k).map fun v => if k = name then w else v := by
  induction vs with
  | nil => rfl
  | cons f vs ih =>
    obtain ⟨l, v⟩ := f
    have first : Values.put ((l, v) :: vs) name w =
      (l, if l = name then w else v) :: Values.put vs name w := rfl
    rw [first, List.lookup_cons, List.lookup_cons, ih]
    cases same : k == l with
    | true => rw [eq_of_beq same]; rfl
    | false => rfl

/-- Another value behind a key that passes the check of the key's field is read as the old one
was. -/
theorem ofFields_replaceValue {fs : List (Json × Json)} {field : Field}
    (own : r.fields.find? (fun field => field.name = name) = some field)
    (passes : field.check w = .ok ()) (found : r.ofFields seen fs open_ = .ok vs) :
    r.ofFields (seen.put name w) (replaceValue name w fs) open_ = .ok (vs.put name w) := by
  induction fs generalizing seen with
  | nil =>
    cases open_ with
    | some _ => cases found
    | none =>
      cases found
      rfl
  | cons f fs ih =>
    obtain ⟨key, v⟩ := f
    obtain ⟨k, rfl⟩ := key_of_ofFields found
    rw [replaceValue_cons]
    cases this : r.fields.find? fun field => field.name = k with
    | some field' =>
      obtain ⟨fresh, checked, found⟩ := (ofFields_known this).1 found
      refine (ofFields_known this).2 ⟨?_, ?_, ih found⟩
      · rw [Values.lookup_put, fresh]
        rfl
      · split
        next same =>
          rw [same, own] at this
          obtain rfl := Option.some.inj this
          exact passes
        next => exact checked
    | none =>
      have other : k ≠ name := by
        rintro rfl
        rw [this] at own
        cases own
      rw [if_neg other]
      obtain ⟨passed, found⟩ := (ofFields_unknown this).1 found
      exact (ofFields_unknown this).2 ⟨passed, ih found⟩

/-- What is complete has every field's value, and `null` in place of what may be left out. -/
theorem complete_cons {field : Field} {more : List Field} :
    complete seen (field :: more) = .ok vs ↔
      ∃ rest, complete seen more = .ok rest ∧
        ((∃ v, seen.lookup field.name = some v ∧ vs = (field.name, v) :: rest) ∨
          (seen.lookup field.name = none ∧ field.presence ≠ .required ∧
            vs = (field.name, .null) :: rest)) := by
  rw [complete]
  cases seen.lookup field.name with
  | some v => cases complete seen more <;> simp [Except.map, eq_comm]
  | none =>
    by_cases needed : field.presence = .required
    · simp [needed]
    · cases complete seen more <;> simp [needed, Except.map, eq_comm]

/-- The value of a required field has been found. -/
theorem lookup_complete {fields : List Field} {field : Field} (among : field ∈ fields)
    (needed : field.presence = .required) (completed : complete seen fields = .ok vs) :
    ∃ v, seen.lookup field.name = some v ∧ vs.lookup field.name = some v := by
  induction fields generalizing vs with
  | nil => cases among
  | cons first fields ih =>
    obtain ⟨rest, further, this⟩ := complete_cons.1 completed
    by_cases same : field.name = first.name
    · obtain ⟨v, found, rfl⟩ | ⟨none_, optional, rfl⟩ := this
      · exact ⟨v, same ▸ found, by rw [same, List.lookup_cons_self]⟩
      · obtain rfl | behind := List.mem_cons.1 among
        · exact absurd needed optional
        · obtain ⟨v, found, -⟩ := ih behind further
          rw [same, none_] at found
          cases found
    · obtain rfl | behind := List.mem_cons.1 among
      · exact absurd rfl same
      · obtain ⟨v, found, rest'⟩ := ih behind further
        refine ⟨v, found, ?_⟩
        have other : (field.name == first.name) = false := beq_eq_false_iff_ne.2 same
        obtain ⟨_, -, rfl⟩ | ⟨-, -, rfl⟩ := this
        · rw [List.lookup_cons, other, rest']
        · rw [List.lookup_cons, other, rest']

/-- Another value of a required field is complete as the old one was. -/
theorem complete_put {fields : List Field}
    (needed : ∀ field ∈ fields, field.name = name → field.presence = .required)
    (completed : complete seen fields = .ok vs) :
    complete (seen.put name w) fields = .ok (vs.put name w) := by
  induction fields generalizing vs with
  | nil =>
    cases completed
    rfl
  | cons first fields ih =>
    obtain ⟨rest, completed, this⟩ := complete_cons.1 completed
    have rest' := ih (fun field among => needed field (List.mem_cons_of_mem _ among)) completed
    refine complete_cons.2 ⟨_, rest', ?_⟩
    rw [Values.lookup_put]
    obtain ⟨v, found, rfl⟩ | ⟨none_, optional, rfl⟩ := this
    · exact .inl ⟨_, by rw [found]; rfl, rfl⟩
    · have other : first.name ≠ name := fun same =>
        optional (needed first List.mem_cons_self same)
      refine .inr ⟨by rw [none_]; rfl, optional, ?_⟩
      show (first.name, if first.name = name then w else .null) :: rest.put name w = _
      rw [if_neg other]

/-! ### Arrays -/

theorem ofItems_cons {index : Nat} {field : Field} {fields : List Field} {v : Json}
    {items : List Json} :
    r.ofItems index (field :: fields) (v :: items) open_ = .ok vs ↔
      field.check v = .ok () ∧
        ∃ rest, r.ofItems (index + 1) fields items open_ = .ok rest ∧
          vs = (field.name, v) :: rest := by
  rw [ofItems]
  cases checked : field.check v with
  | error e => simp [bind, Except.bind]
  | ok _ =>
    cases r.ofItems (index + 1) fields items open_ with
    | error e => simp [bind, Except.bind]
    | ok rest => simp [bind, Except.bind, pure, Except.pure, eq_comm]

/-- A required field does not fall behind the end of an array. -/
theorem ofItems_nil {index : Nat} {field : Field} {fields : List Field}
    (found : r.ofItems index (field :: fields) [] open_ = .ok vs) : field.presence = .defaulted := by
  cases open_ with
  | some f => cases found
  | none =>
    rw [ofItems] at found
    by_contra other
    rw [if_neg other] at found
    cases found

end Record

end Loyalty.Json
