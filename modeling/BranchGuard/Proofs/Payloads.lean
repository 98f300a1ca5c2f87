import BranchGuard.Proofs.Outages
import BranchGuard.Proofs.WrittenRecords

/-!
# What a body has to hold

A reader of an answer goes through two records: the envelope, which has to come without errors, and
the data in it, which have one field.  This module says on the wire what that comes down to.

* A record with one field holds a value (`Json.Holds`) under the name of the field or, in the form
  of an array, as the only item.
* A body holds data (`HoldsData`) if they are not `null` and stand beside no errors: the list of
  errors is left out, `null`, or empty.

What a reader makes of an answer is then what it makes of the data that the body holds
(`Delivery.result_eq_ok_iff`).
-/

namespace BranchGuard

namespace Json

variable {α : Type} {name : String} {read : Json → Option α} {members : List (String × Json)}
variable {json : Json}

/-- A record with one field holds this value in it. -/
inductive Holds (name : String) : Json → Json → Prop where
  | member {members : List (String × Json)} {value : Json}
      (once : isRepeated members name = false) (found : members.lookup name = some value) :
      Holds name (.object members) value
  | item (value : Json) : Holds name (.array [value]) value

theorem exists_onlyField_iff {value : Json} :
    (∃ record, fields? [⟨name, false⟩] json = some record ∧ record.lookup name = some value) ↔
      json.Holds name value := by
  constructor
  · rintro ⟨record, isRecord, found⟩
    cases json with
    | object members =>
        cases repeated : isRepeated members name with
        | true => simp [fields?, repeated] at isRecord
        | false =>
            simp only [fields?, List.any_cons, List.any_nil, repeated, Bool.or_self,
              Bool.false_eq_true, if_false, Option.some.injEq] at isRecord
            subst isRecord
            exact .member repeated found
    | array items =>
        rcases items with _ | ⟨item, _ | ⟨next, rest⟩⟩
        · simp [fields?, nameItems?] at isRecord
        · simp only [fields?, nameItems?, Option.map_eq_map, Option.map_some,
            Option.some.injEq] at isRecord
          subst isRecord
          rw [List.lookup_cons_self] at found
          cases found
          exact .item value
        · simp [fields?, nameItems?] at isRecord
    | _ => cases isRecord
  · rintro (⟨once, found⟩ | value)
    · exact ⟨_, by simp [fields?, once], found⟩
    · exact ⟨[(name, value)], rfl, List.lookup_cons_self⟩

theorem nullable_eq_some_some_iff {value : α} :
    nullable name read members = some (some value) ↔
      ∃ json, members.lookup name = some json ∧ json ≠ .null ∧ read json = some value := by
  cases found : members.lookup name with
  | none => simp [nullable, found]
  | some json =>
      by_cases isNull : json = .null
      · simp [nullable, found, isNull]
      · simp [nullable_of_ne_null found isNull, isNull]

theorem listOf?_eq_some_nil_iff (read : Json → Option α) :
    listOf? read json = some [] ↔ json = .array [] := by
  cases json with
  | array items =>
      cases items with
      | nil => simp [listOf?]
      | cons item rest =>
          have nonempty : (item :: rest).mapM read ≠ some [] := by
            rw [List.mapM_cons]
            cases read item <;> cases rest.mapM read <;> simp
          simpa [listOf?] using nonempty
  | _ => simp [listOf?]

/-- A list that need not be there is empty if it is left out, `null` or an array without items. -/
theorem exists_nullable_empty_iff (read : Json → Option α) :
    (∃ values, nullable name (listOf? read) members = some values ∧ values.getD [] = []) ↔
      members.lookup name = none ∨ members.lookup name = some .null ∨
        members.lookup name = some (.array []) := by
  cases found : members.lookup name with
  | none => simp [nullable, found]
  | some json =>
      by_cases isNull : json = .null
      · simp [nullable, found, isNull]
      · rw [nullable_of_ne_null found isNull]
        cases items : listOf? read json with
        | none =>
            have notEmpty : json ≠ .array [] := by
              rintro rfl
              cases items
            simp [isNull, notEmpty]
        | some values => simp [isNull, ← listOf?_eq_some_nil_iff read, items]

end Json

namespace GitHub

open Json

/-- The members of an envelope hold these data, and no errors beside them. -/
structure IsFull (members : List (String × Json)) (data : Json) : Prop where
  found : members.lookup "data" = some data
  notNull : data ≠ .null
  noErrors : members.lookup "errors" = none ∨ members.lookup "errors" = some .null ∨
    members.lookup "errors" = some (.array [])

/-- The body of an answer holds these data, and no errors beside them. -/
inductive HoldsData : Json → Json → Prop where
  | members {members : List (String × Json)} {data : Json}
      (dataOnce : isRepeated members "data" = false)
      (errorsOnce : isRepeated members "errors" = false) (full : IsFull members data) :
      HoldsData (.object members) data
  | items {data : Json} {errors : List Json} (notNull : data ≠ .null)
      (noErrors : errors = [] ∨ errors = [.null] ∨ errors = [.array []]) :
      HoldsData (.array (data :: errors)) data

variable {α : Type} {body data : Json} {envelope : Envelope}

/-- An envelope is read from the two fields of a body. -/
def envelopeFields : List Field :=
  [⟨"data", false⟩, ⟨"errors", true⟩]

theorem exists_isFull_iff :
    (∃ record, fields? envelopeFields body = some record ∧ IsFull record data) ↔
      HoldsData body data := by
  constructor
  · rintro ⟨record, isRecord, full⟩
    cases body with
    | object members =>
        simp only [fields?, envelopeFields, List.any_cons, List.any_nil, Bool.or_false] at isRecord
        split at isRecord
        · cases isRecord
        next once =>
          cases isRecord
          rw [Bool.or_eq_true, not_or, Bool.not_eq_true, Bool.not_eq_true] at once
          exact .members once.1 once.2 full
    | array items =>
        rcases items with _ | ⟨first, _ | ⟨second, _ | ⟨third, rest⟩⟩⟩
        · simp [fields?, envelopeFields, nameItems?] at isRecord
        · cases isRecord
          cases full.found
          exact .items full.notNull (.inl rfl)
        · cases isRecord
          cases full.found
          have noErrors : some second = none ∨ some second = some .null ∨
              some second = some (.array []) := full.noErrors
          exact .items full.notNull (by simpa using noErrors)
        · simp [fields?, envelopeFields, nameItems?] at isRecord
    | _ => cases isRecord
  · intro held
    cases held with
    | members dataOnce errorsOnce full =>
        exact ⟨_, by simp [fields?, envelopeFields, dataOnce, errorsOnce], full⟩
    | items notNull noErrors =>
        rcases noErrors with rfl | rfl | rfl
        · exact ⟨_, rfl, rfl, notNull, .inl rfl⟩
        · exact ⟨_, rfl, rfl, notNull, .inr (.inl rfl)⟩
        · exact ⟨_, rfl, rfl, notNull, .inr (.inr rfl)⟩

namespace Envelope

theorem ofJson?_eq_some_iff :
    ofJson? body = some envelope ↔
      ∃ record, fields? envelopeFields body = some record ∧
        nullable "data" some record = some envelope.data ∧
        nullable "errors" (listOf? GraphQlError.ofJson?) record = some envelope.errors := by
  rcases envelope with ⟨data, errors⟩
  simp only [ofJson?, Option.bind_eq_bind, Option.bind_eq_some_iff, Option.pure_def,
    Option.some.injEq, Envelope.mk.injEq]
  constructor
  · rintro ⟨record, isRecord, _, isData, _, isErrors, rfl, rfl⟩
    exact ⟨record, isRecord, isData, isErrors⟩
  · rintro ⟨record, isRecord, isData, isErrors⟩
    exact ⟨record, isRecord, data, isData, errors, isErrors, rfl, rfl⟩

theorem contents_eq_ok_iff :
    envelope.contents = .ok data ↔ envelope.errors.getD [] = [] ∧ envelope.data = some data := by
  by_cases noErrors : envelope.errors.getD [] = []
  · rw [contents_of_noErrors noErrors]
    cases envelope.data <;> simp [noErrors]
  · simp only [noErrors, false_and, iff_false]
    intro full
    by_cases missing : envelope.ReportsMissing
    · rw [contents_of_missing missing] at full
      cases full
    · rcases contents_of_errors noErrors missing with ⟨failure, failed, -⟩
      rw [failed] at full
      cases full

/-- A body holds data if it is an envelope that has them for its contents. -/
theorem exists_contents_iff :
    (∃ envelope, ofJson? body = some envelope ∧ envelope.contents = .ok data) ↔
      HoldsData body data := by
  have isData (record : List (String × Json)) :
      nullable "data" some record = some (some data) ↔
        record.lookup "data" = some data ∧ data ≠ .null := by
    simp [nullable_eq_some_some_iff]
  rw [← exists_isFull_iff]
  constructor
  · rintro ⟨envelope, isEnvelope, full⟩
    rcases ofJson?_eq_some_iff.mp isEnvelope with ⟨record, isRecord, held, isErrors⟩
    rcases contents_eq_ok_iff.mp full with ⟨noErrors, isContents⟩
    rw [isContents, isData] at held
    exact ⟨record, isRecord, held.1, held.2,
      (exists_nullable_empty_iff _).mp ⟨envelope.errors, isErrors, noErrors⟩⟩
  · rintro ⟨record, isRecord, found, notNull, noErrors⟩
    rcases (exists_nullable_empty_iff GraphQlError.ofJson?).mpr noErrors with
      ⟨errors, isErrors, isEmpty⟩
    refine ⟨⟨some data, errors⟩, ?_, contents_eq_ok_iff.mpr ⟨isEmpty, rfl⟩⟩
    exact ofJson?_eq_some_iff.mpr
      ⟨record, isRecord, (isData record).mpr ⟨found, notNull⟩, isErrors⟩

end Envelope

variable {read : Json → Option α} {value : α}

theorem payload_eq_ok_iff :
    payload read body = .ok value ↔ ∃ data, HoldsData body data ∧ read data = some value := by
  simp only [← Envelope.exists_contents_iff]
  constructor
  · intro succeeded
    unfold payload at succeeded
    split at succeeded
    · cases succeeded
    next envelope enveloped =>
      split at succeeded
      · cases succeeded
      next data full =>
        split at succeeded
        next decoded =>
          cases succeeded
          exact ⟨data, ⟨envelope, enveloped, full⟩, decoded⟩
        next => cases succeeded
  · rintro ⟨data, ⟨envelope, enveloped, full⟩, decoded⟩
    simp [payload, enveloped, full, decoded]

/-- An answer comes down to what is read from the data that its body holds. -/
theorem Delivery.result_eq_ok_iff {delivery : Delivery} :
    delivery.result read = .ok value ↔
      ∃ body data, delivery.read = .ok body ∧ HoldsData body data ∧ read data = some value := by
  unfold result
  cases delivery.read with
  | error failure => simp
  | ok body => simp [payload_eq_ok_iff]

theorem single?_eq_some_some_iff {name : String} {json : Json} :
    single? name read json = some (some value) ↔
      ∃ field, json.Holds name field ∧ field ≠ .null ∧ read field = some value := by
  simp only [single?, Option.bind_eq_bind, Option.bind_eq_some_iff, nullable_eq_some_some_iff,
    ← exists_onlyField_iff]
  constructor
  · rintro ⟨record, isRecord, field, found, present⟩
    exact ⟨field, ⟨record, isRecord, found⟩, present⟩
  · rintro ⟨field, ⟨record, isRecord, found⟩, present⟩
    exact ⟨record, isRecord, field, found, present⟩

end GitHub

end BranchGuard
