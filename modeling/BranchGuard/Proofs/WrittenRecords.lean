import Mathlib.Data.List.Nodup
import BranchGuard.Json.Record
import BranchGuard.Proofs.WrittenJson

/-!
# Records read back from their JSON form

A record is written as an object of those fields that have a value.  What is read depends on the
members alone and not on their order (`Lists`), so each field is settled by one lookup: a field that
may be absent is left out, written as `null` or written empty, and its reader undoes just that.

Written records are tidy values (`IsTidy`), so what holds for their objects holds for their text as
well.  `IsWireForm` says all that there is to say about a record that survives being written.
-/

namespace BranchGuard.Json

variable {α : Type} {members : List (String × Json)} {fields : List (String × Option Json)}

/-! ## Members in any order -/

/-- Both are objects and hold the same members, in whatever order. -/
inductive Rearranges : Json → Json → Prop where
  | object {members members' : List (String × Json)} (rearranged : members.Perm members') :
      Rearranges (.object members) (.object members')

theorem lookup_eq_some_iff_mem {γ : Type} {entries : List (String × γ)}
    (distinct : (entries.map (·.1)).Nodup) {name : String} {value : γ} :
    entries.lookup name = some value ↔ (name, value) ∈ entries := by
  constructor
  · intro found
    rcases List.lookup_eq_some_iff.mp found with ⟨before, after, rfl, -⟩
    exact List.mem_append_right before List.mem_cons_self
  · intro member
    rcases List.append_of_mem member with ⟨before, after, rfl⟩
    apply List.lookup_eq_some_iff.mpr
    refine ⟨before, after, rfl, ?_⟩
    intro entry isBefore
    rw [List.map_append, List.map_cons, List.nodup_append] at distinct
    rw [bne_iff_ne]
    exact (distinct.2.2 _ (List.mem_map_of_mem isBefore) _ List.mem_cons_self).symm

theorem nodup_present (distinct : (fields.map (·.1)).Nodup) :
    ((fields.filterMap fun field => field.2.map (field.1, ·)).map (·.1)).Nodup := by
  rw [List.Nodup, List.pairwise_map] at distinct ⊢
  apply distinct.filterMap
  intro first second differ one isFirst other isSecond
  rcases Option.map_eq_some_iff.mp isFirst with ⟨-, -, rfl⟩
  rcases Option.map_eq_some_iff.mp isSecond with ⟨-, -, rfl⟩
  exact differ

theorem isRepeated_of_nodup (distinct : (members.map (·.1)).Nodup) (name : String) :
    isRepeated members name = false := by
  have once : (members.map (·.1)).count name ≤ 1 := List.nodup_iff_count_le_one.mp distinct name
  rw [List.count, List.countP_map] at once
  rw [isRepeated, decide_eq_false_iff_not, Nat.not_lt]
  exact once

theorem any_isRepeated_of_nodup (distinct : (members.map (·.1)).Nodup) (names : List String) :
    names.any (isRepeated members) = false := by
  simp [isRepeated_of_nodup distinct]

theorem fields?_of_nodup (distinct : (members.map (·.1)).Nodup) (known : List Field) :
    fields? known (.object members) = some members := by
  simp [fields?, isRepeated_of_nodup distinct]

/-- The members are those that a record with these fields is written with, in some order. -/
structure Lists (members : List (String × Json)) (fields : List (String × Option Json)) : Prop where
  distinct : (members.map (·.1)).Nodup
  lookup : ∀ name, members.lookup name = (fields.lookup name).join

theorem exists_lists {json : Json} (written : Rearranges (ofFields fields) json)
    (distinct : (fields.map (·.1)).Nodup) :
    ∃ members, json = .object members ∧ Lists members fields := by
  rw [ofFields] at written
  cases written with
  | @object _ members rearranged =>
      have distinct' : (members.map (·.1)).Nodup :=
        (rearranged.map _).nodup_iff.mp (nodup_present distinct)
      refine ⟨members, rfl, distinct', ?_⟩
      intro name
      apply Option.ext
      intro value
      rw [lookup_eq_some_iff_mem distinct', ← rearranged.mem_iff, List.mem_filterMap,
        Option.join_eq_some_iff, lookup_eq_some_iff_mem distinct]
      constructor
      · rintro ⟨⟨other, present⟩, isField, same⟩
        rcases Option.map_eq_some_iff.mp same with ⟨_, rfl, ⟨⟩⟩
        exact isField
      · intro isField
        exact ⟨(name, some value), isField, rfl⟩

/-! ## Readers of written values -/

/-- Everything that `write` writes is read as what was written. -/
def Recovers (read : Json → Option α) (write : α → Json) : Prop :=
  ∀ value, read (write value) = some value

theorem recovers_string : Recovers string? .string := fun _ => rfl

theorem recovers_bool : Recovers bool? .bool := fun _ => rfl

theorem Recovers.list {read : Json → Option α} {write : α → Json} (recovers : Recovers read write) :
    Recovers (listOf? read) fun values => .array (values.map write) := by
  intro values
  rw [listOf?]
  induction values with
  | nil => rfl
  | cons value rest ih =>
      rw [List.map_cons, List.mapM_cons, recovers, ih]
      rfl

theorem recovers_strings : Recovers strings? ofStrings := recovers_string.list

theorem recovers_int32 : Recovers int32? fun count => .integer count.toInt := by
  intro count
  have inRange : Int32.minValue.toInt ≤ count.toInt ∧ count.toInt ≤ Int32.maxValue.toInt :=
    ⟨count.minValue_le_toInt, count.toInt_le⟩
  rw [int32?, integerBetween?, if_pos inRange, Option.map_some, Int32.ofInt_toInt]

theorem recovers_uint8 : Recovers uint8? fun count => .integer count.toNat := by
  intro count
  have inRange : (0 : Int) ≤ count.toNat ∧ (count.toNat : Int) ≤ UInt8.size - 1 := by
    have small := count.toNat_lt
    rw [UInt8.size]
    omega
  rw [uint8?, integerBetween?, if_pos inRange, Option.map_some, Int.toNat_natCast,
    UInt8.ofNat_toNat]

section Fields

variable {read : Json → Option α} {write : α → Json} {name : String}

theorem Recovers.required (recovers : Recovers read write) {value : α}
    (found : members.lookup name = some (write value)) :
    required name read members = some value := by
  rw [Json.required, found]
  exact recovers value

theorem nullable_of_ne_null {value : Json} (found : members.lookup name = some value)
    (notNull : value ≠ .null) : nullable name read members = (read value).map some := by
  rw [Json.nullable, found]
  split
  · next absent => cases absent
  · next isNull => exact absurd (Option.some.inj isNull) notNull
  · next _ _ present =>
      cases present
      rfl

theorem Recovers.ne_null (recovers : Recovers read write) (refuses : read .null = none)
    (value : α) : write value ≠ .null := by
  intro isNull
  have accepted : read .null = some value := isNull ▸ recovers value
  rw [refuses] at accepted
  cases accepted

theorem Recovers.nullable (recovers : Recovers read write) (refuses : read .null = none)
    {value : Option α}
    (found : members.lookup name = value.map write ∨
      members.lookup name = some (orNull write value)) :
    nullable name read members = some value := by
  cases value with
  | none =>
      rw [Json.nullable]
      rcases found with found | found <;> rw [found] <;> rfl
  | some value =>
      have found : members.lookup name = some (write value) := by
        rcases found with found | found <;> exact found
      rw [nullable_of_ne_null found (recovers.ne_null refuses value), recovers, Option.map_some]

theorem Recovers.defaulted (recovers : Recovers read write) (default : α) {value : α}
    (found : members.lookup name = some (write value)) :
    defaulted name default read members = some value := by
  rw [Json.defaulted, found]
  exact recovers value

end Fields

/-! ## Tidy records -/

section Tidy

variable {depth : Nat} {json : Json} {write : α → Json}

theorem isTidy_texts (texts : List (String × String)) (distinct : (texts.map (·.1)).Nodup) :
    IsTidy 1 (.object (texts.map fun text => (text.1, .string text.2))) := by
  constructor
  · rw [List.map_map]
    exact distinct
  · rw [List.forall_mem_map]
    intro text _
    exact .string 0 text.2

theorem isTidy_int32 (depth : Nat) (count : Int32) : IsTidy depth (.integer count.toInt) := by
  apply IsTidy.integer
  have above := count.le_toInt
  have below := count.toInt_lt
  simp [fitsWord]
  omega

theorem isTidy_uint8 (depth : Nat) (count : UInt8) : IsTidy depth (.integer count.toNat) := by
  apply IsTidy.integer
  have below := count.toNat_lt
  simp [fitsWord]
  omega

theorem isTidy_list (each : ∀ value, IsTidy depth (write value)) (values : List α) :
    IsTidy (depth + 1) (.array (values.map write)) := by
  constructor
  rw [List.forall_mem_map]
  intro value _
  exact each value

theorem isTidy_orNull (each : ∀ value, IsTidy depth (write value)) (value : Option α) :
    IsTidy depth (orNull write value) := by
  cases value with
  | none => exact .null depth
  | some value => exact each value

theorem isTidy_map (each : ∀ value, IsTidy depth (write value)) (value : Option α) :
    ∀ json, value.map write = some json → IsTidy depth json := by
  intro json present
  rcases Option.map_eq_some_iff.mp present with ⟨value, -, rfl⟩
  exact each value

theorem isTidy_ofFields (distinct : (fields.map (·.1)).Nodup)
    (each : ∀ field ∈ fields, ∀ value, field.2 = some value → IsTidy depth value) :
    IsTidy (depth + 1) (ofFields fields) := by
  constructor
  · exact nodup_present distinct
  · intro member isMember
    rcases List.mem_filterMap.mp isMember with ⟨field, isField, present⟩
    rcases Option.map_eq_some_iff.mp present with ⟨value, isValue, rfl⟩
    exact each field isField value isValue

theorem IsTidy.rearranged (tidy : IsTidy depth json) {json' : Json}
    (rearranges : Rearranges json json') : IsTidy depth json' := by
  cases rearranges with
  | object perm =>
      cases tidy with
      | object depth _ distinct each =>
          constructor
          · exact (perm.map _).nodup_iff.mp distinct
          · intro member isMember
            exact each member (perm.mem_iff.mpr isMember)

end Tidy

/-! ## Wire forms -/

/-- The values of a type survive being written and read. -/
structure IsWireForm (read : Json → Option α) (write : α → Json) : Prop where
  recovers : Recovers read write
  /-- It does not matter in which order the members stand. -/
  rearranged : ∀ value json, Rearranges (write value) json → read json = some value
  /-- The value is also read back from the text. -/
  text : ∀ value, (parse? (write value).write).bind read = some value
  injective : Function.Injective write
  injective_text : Function.Injective fun value => (write value).write
  /-- What is accepted is written in a form that does not change any more. -/
  fixpoint : ∀ json again,
    (read json).map write = some again → (read again).map write = some again

theorem isWireForm {read : Json → Option α} {write : α → Json}
    (rearranged : ∀ value json, Rearranges (write value) json → read json = some value)
    (isRecord : ∀ value, ∃ fields, write value = ofFields fields)
    (tidy : ∀ value, IsTidy maxDepth (write value)) : IsWireForm read write := by
  have recovers : Recovers read write := by
    intro value
    apply rearranged
    rcases isRecord value with ⟨fields, written⟩
    rw [written]
    exact .object (.refl _)
  have text (value : α) : (parse? (write value).write).bind read = some value := by
    rw [(tidy value).parse?_write, Option.bind_some, recovers]
  refine ⟨recovers, rearranged, text, ?_, ?_, ?_⟩
  · intro first second same
    apply Option.some.inj
    rw [← recovers first, same, recovers]
  · intro first second same
    apply Option.some.inj
    rw [← text first, ← text second]
    exact congrArg (fun text => (parse? text).bind read) same
  · intro json again rewritten
    rcases Option.map_eq_some_iff.mp rewritten with ⟨value, -, rfl⟩
    rw [recovers, Option.map_some]

/-! ## Bodies -/

theorem keepLast_sublist (members : List (String × Json)) : (keepLast members).Sublist members := by
  induction members with
  | nil => exact .slnil
  | cons member rest ih =>
      rw [keepLast]
      split
      · exact ih.cons member
      · exact ih.cons_cons member

theorem nodup_keepLast (members : List (String × Json)) :
    ((keepLast members).map (·.1)).Nodup := by
  induction members with
  | nil => exact List.nodup_nil
  | cons member rest ih =>
      rw [keepLast]
      split
      · exact ih
      · next notRepeated =>
          rw [List.map_cons, List.nodup_cons]
          refine ⟨?_, ih⟩
          intro repeated
          rcases List.mem_map.mp repeated with ⟨other, isOther, sameName⟩
          apply notRepeated
          rw [List.any_eq_true]
          exact ⟨other, (keepLast_sublist rest).subset isOther, beq_iff_eq.mpr sameName⟩

theorem exists_of_mem_lastWinsMembers {member : String × Json}
    (isMember : member ∈ lastWinsMembers members) : ∃ value : Json, member.2 = value.lastWins := by
  induction members with
  | nil => cases isMember
  | cons first rest ih =>
      rw [lastWinsMembers] at isMember
      rcases List.mem_cons.mp isMember with rfl | isMember
      · exact ⟨first.2, rfl⟩
      · exact ih isMember

/-- Where names were sorted out, a value that has a member is an object without repeated names. -/
theorem exists_of_member?_lastWins {json value : Json} {name : String}
    (found : json.lastWins.member? name = some value) :
    ∃ members, json.lastWins = .object members ∧ (members.map (·.1)).Nodup ∧
      members.lookup name = some value ∧ ∃ inner : Json, value = inner.lastWins := by
  cases json with
  | object members =>
      rw [lastWins] at found ⊢
      have distinct := nodup_keepLast (lastWinsMembers members)
      have isMember : (name, value) ∈ keepLast (lastWinsMembers members) :=
        (lookup_eq_some_iff_mem distinct).mp found
      exact ⟨_, rfl, distinct, found,
        exists_of_mem_lastWinsMembers ((keepLast_sublist _).subset isMember)⟩
  | _ => simp [lastWins, member?] at found

end BranchGuard.Json
