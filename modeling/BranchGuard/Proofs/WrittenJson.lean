import BranchGuard.Json.Parser
import BranchGuard.Json.Printer
import Mathlib.Tactic.IntervalCases

/-!
# Written JSON is read back

The reader takes one character at a time, so what it does with the written form of a value is the
composition of what it does with the parts (`Reader.Reads`).  At the end of a value it has handed the
value on, or it is in the middle of a number which the next character ends (`Reader.Settles`).

A value without doubles that names no member twice is `IsTidy`.  Wherever such a value may stand, it
is read back from its written form (`IsTidy.isReadBack`), so the text of it denotes the value and
nothing else (`IsTidy.parse?_write`).
-/

namespace BranchGuard.Json

open Text

/-! ## Digits -/

theorem digitIn?_digitChar_of_hexadecimal :
    ∀ digit < 16, digitIn? 16 (Nat.digitChar digit) = some digit := by
  decide

theorem digitIn?_digitChar_of_decimal :
    ∀ digit < 10, digitIn? 10 (Nat.digitChar digit) = some digit := by
  decide

namespace Reader

variable {leading : Bool} {containers : List Open} {expect : Expect}

/-- The reader takes these characters and is then in such a state. -/
def Reads (leading : Bool) (before : Reader) (text : List Char) (after : Reader) : Prop :=
  text.foldlM (advance leading) before = some after

theorem reads_nil (reader : Reader) : Reads leading reader [] reader := rfl

theorem reads_cons {before middle after : Reader} {c : Char} {rest : List Char}
    (step : advance leading before c = some middle) (reads : Reads leading middle rest after) :
    Reads leading before (c :: rest) after := by
  rw [Reads, List.foldlM_cons, step]
  exact reads

theorem reads_single {before after : Reader} {c : Char}
    (step : advance leading before c = some after) : Reads leading before [c] after :=
  reads_cons step (reads_nil after)

theorem Reads.append {before middle after : Reader} {first second : List Char}
    (reads : Reads leading before first middle) (later : Reads leading middle second after) :
    Reads leading before (first ++ second) after := by
  rw [Reads, List.foldlM_append, reads]
  exact later

/-! ## Steps of the reader while a value is incomplete -/

section

variable (c : Char) (body : StringBody)

theorem advance_between :
    advance leading ⟨.between, .building containers expect⟩ c =
      begin ⟨.between, .building containers expect⟩ c := by
  simp [advance, Progress.isComplete]

theorem advance_string :
    advance leading ⟨.string body, .building containers expect⟩ c =
      inString ⟨.string body, .building containers expect⟩ body c := by
  simp [advance, Progress.isComplete]

theorem advance_escape :
    advance leading ⟨.escape body, .building containers expect⟩ c =
      inEscape ⟨.escape body, .building containers expect⟩ body c := by
  simp [advance, Progress.isComplete]

theorem advance_unit (count value : Nat) :
    advance leading ⟨.unit body count value, .building containers expect⟩ c =
      inUnit ⟨.unit body count value, .building containers expect⟩ body count value c := by
  simp [advance, Progress.isComplete]

end

/-! ## Strings -/

theorem advance_unit_digit (body : StringBody) (count value digit : Nat)
    (isDigit : digit < 16) :
    advance leading ⟨.unit body count value, .building containers expect⟩
        (Nat.digitChar digit) =
      some (if count ≤ 1
        then ⟨.string (body.pushUnit (value * 16 + digit)), .building containers expect⟩
        else ⟨.unit body (count - 1) (value * 16 + digit), .building containers expect⟩) := by
  rw [advance_unit, inUnit, digitIn?_digitChar_of_hexadecimal digit isDigit, Option.map_some]

/-- Four hexadecimal digits are read as the code unit they stand for. -/
theorem reads_unitDigits (body : StringBody) {unit : Nat} (fits : unit < 0x10000) :
    Reads leading ⟨.unit body 4 0, .building containers expect⟩ (unitDigits unit)
      ⟨.string (body.pushUnit unit), .building containers expect⟩ := by
  have value : (((0 * 16 + unit / 4096 % 16) * 16 + unit / 256 % 16) * 16 + unit / 16 % 16) * 16 +
      unit % 16 = unit := by
    omega
  have isDigit (number : Nat) : number % 16 < 16 := Nat.mod_lt _ (by decide)
  rw [unitDigits]
  refine reads_cons (advance_unit_digit body 4 _ _ (isDigit _)) ?_
  refine reads_cons (advance_unit_digit body 3 _ _ (isDigit _)) ?_
  refine reads_cons (advance_unit_digit body 2 _ _ (isDigit _)) ?_
  refine reads_single ((advance_unit_digit body 1 _ _ (isDigit _)).trans ?_)
  rw [value]
  rfl

theorem pushUnit_of_small (body : StringBody) {unit : Nat} (small : unit < 0xD800) :
    body.pushUnit unit = body.push (Char.ofNat unit) := by
  rw [StringBody.pushUnit, if_neg (by omega), if_neg (by omega)]

/-- A character is read back from its written form inside a string. -/
theorem reads_writeChar (body : StringBody) (c : Char) :
    Reads leading ⟨.string body, .building containers expect⟩ (writeChar c)
      ⟨.string (body.push c), .building containers expect⟩ := by
  rw [writeChar]
  split
  next isQuote =>
    subst isQuote
    exact reads_cons (advance_string _ body) (reads_single (advance_escape _ body))
  next notQuote =>
    split
    next isBackslash =>
      subst isBackslash
      exact reads_cons (advance_string _ body) (reads_single (advance_escape _ body))
    next notBackslash =>
      split
      next isEscaped =>
        have small : c.toNat < 0xD800 := by
          simp only [isEscapedByCode, Bool.or_eq_true, decide_eq_true_eq] at isEscaped
          omega
        have asUnit : body.push c = body.pushUnit c.toNat := by
          rw [pushUnit_of_small body small, Char.ofNat_toNat]
        rw [asUnit]
        refine reads_cons (advance_string _ body) ?_
        refine reads_cons (advance_escape _ body) ?_
        exact reads_unitDigits body (by omega)
      next notEscaped =>
        have printable : ¬ c.toNat < 0x20 := by
          simp only [isEscapedByCode, Bool.or_eq_true, decide_eq_true_eq] at notEscaped
          omega
        apply reads_single
        rw [advance_string, inString, if_neg notQuote, if_neg notBackslash, if_neg printable]

theorem reads_characters (body : StringBody) (text : List Char) :
    Reads leading ⟨.string body, .building containers expect⟩ (text.flatMap writeChar)
      ⟨.string (text.foldl StringBody.push body), .building containers expect⟩ := by
  induction text generalizing body with
  | nil => exact reads_nil _
  | cons c rest ih => exact (reads_writeChar body c).append (ih (body.push c))

theorem text?_foldl_push (characters : List Char) (before : List Char) :
    (characters.foldl StringBody.push { characters := before }).text? =
      some (String.ofList (before.reverse ++ characters)) := by
  induction characters generalizing before with
  | nil => simp [StringBody.text?]
  | cons c rest ih =>
      rw [List.foldl_cons]
      have pushed : StringBody.push { characters := before } c = { characters := c :: before } := rfl
      rw [pushed, ih]
      simp

/-- A string is read back from its written form. -/
theorem reads_writeString (text : String) {progress : Progress}
    (fed : (Progress.building containers expect).feed (.text (some text)) = some progress) :
    Reads leading ⟨.between, .building containers expect⟩ (writeString text).toList
      ⟨.between, progress⟩ := by
  have written : (writeString text).toList =
      '"' :: (text.toList.flatMap writeChar ++ ['"']) := by
    simp [writeString]
  have whole : (text.toList.foldl StringBody.push {}).text? = some text := by
    rw [text?_foldl_push]
    simp
  rw [written]
  refine reads_cons (advance_between _) ?_
  refine (reads_characters {} text.toList).append ?_
  apply reads_single
  rw [advance_string, inString, if_pos rfl, whole, emit, fed]
  rfl

/-! ## Words -/

/-- A word is read to its end, where its value is handed on. -/
theorem reads_word (word : List Char) (value : Json) {progress : Progress} (notEmpty : word ≠ [])
    (fed : (Progress.building containers expect).feed (.scalar value) = some progress) :
    Reads leading ⟨.word word value, .building containers expect⟩ word ⟨.between, progress⟩ := by
  induction word with
  | nil => exact absurd rfl notEmpty
  | cons c rest ih =>
      cases rest with
      | nil =>
          apply reads_single
          simp [advance, Progress.isComplete, emit, fed]
      | cons next rest =>
          refine reads_cons ?_ (ih (List.cons_ne_nil next rest))
          simp [advance, Progress.isComplete]

/-! ## Numbers -/

/-- The characters that can follow a value inside a container. -/
def IsDelimiter (c : Char) : Prop :=
  c = ',' ∨ c = ']' ∨ c = '\x7d'

/--
The reader has come to the end of a value, and so far with everything.  It may be in the middle of a
number that the characters after it do not continue.
-/
inductive Settles : Reader → Progress → Prop where
  | between (progress : Progress) : Settles ⟨.between, progress⟩ progress
  | number (numeral : Numeral) (containers : List Open) (expect : Expect) (value : Json)
      (progress : Progress) (ends : ∀ c, IsDelimiter c → numeral.extend? c = none)
      (isValue : numeral.value? = some value)
      (fed : (Progress.building containers expect).feed (.scalar value) = some progress) :
      Settles ⟨.number numeral, .building containers expect⟩ progress

theorem Settles.finish {reader : Reader} {value : Json}
    (settles : Settles reader (.complete value)) : reader.finish = some value := by
  generalize isProgress : Progress.complete value = progress at settles
  cases settles with
  | between => subst isProgress; rfl
  | number numeral containers expect scalar progress ends isValue fed =>
      subst isProgress
      simp [Reader.finish, isValue, emit, fed]

theorem Settles.advance {reader : Reader}
    (settles : Settles reader (.building containers expect)) {c : Char}
    (delimits : IsDelimiter c) :
    reader.advance leading c = begin ⟨.between, .building containers expect⟩ c := by
  generalize isProgress : Progress.building containers expect = progress at settles
  cases settles with
  | between =>
      subst isProgress
      exact advance_between c
  | number numeral outer expected scalar progress ends isValue fed =>
      subst isProgress
      simp [Reader.advance, Progress.isComplete, ends c delimits, isValue, emit, fed]

/-- Digits are read as the number they are written for, once the first of them is. -/
theorem reads_digits (negative : Bool) {before : Reader}
    (starts : ∀ digit, 0 < digit → digit < 10 →
      advance leading before (Nat.digitChar digit) =
        some ⟨.number { negative := negative, digits := digit, phase := .whole },
          .building containers expect⟩)
    (number : Nat) (positive : 0 < number) (fits : number < UInt64.size) :
    Reads leading before (Nat.toDigits 10 number)
      ⟨.number { negative := negative, digits := number, phase := .whole },
        .building containers expect⟩ := by
  induction number using Nat.strongRecOn with
  | ind number ih =>
      by_cases single : number < 10
      · rw [Nat.toDigits_of_lt_base single]
        exact reads_single (starts number positive single)
      · have lastDigit : number % 10 < 10 := Nat.mod_lt _ (by decide)
        have digits : Nat.toDigits 10 number =
            Nat.toDigits 10 (number / 10) ++ [Nat.digitChar (number % 10)] := by
          rw [← Nat.toDigits_of_lt_base lastDigit,
            Nat.toDigits_append_toDigits (by decide) (by omega) lastDigit, Nat.div_add_mod]
        have value : number / 10 * 10 + number % 10 = number := by omega
        rw [digits]
        refine (ih (number / 10) (by omega) (by omega) (by omega)).append (reads_single ?_)
        simp [advance, Progress.isComplete, Numeral.extend?,
          digitIn?_digitChar_of_decimal _ lastDigit, Numeral.withDigit, Numeral.pushDigit?, value,
          fits]

theorem value?_whole (negative : Bool) (number : Nat) (positive : 0 < number)
    (fits : fitsWord (if negative then -number else number) = true) :
    Numeral.value? { negative := negative, digits := number, phase := .whole } =
      some (.integer (if negative then -number else number)) := by
  have notZero : number ≠ 0 := Nat.pos_iff_ne_zero.mp positive
  simp only [Numeral.value?, fits, Numeral.isMinusZero, notZero]
  simp

/-- An integer is read back from its written form. -/
theorem reads_integer (value : Int) (fits : fitsWord value = true) {progress : Progress}
    (fed : (Progress.building containers expect).feed (.scalar (.integer value)) =
      some progress) :
    ∃ after, Reads leading ⟨.between, .building containers expect⟩ (toString value).toList after ∧
      Settles after progress := by
  have bounds : -(2 ^ 63 : Int) ≤ value ∧ value < 2 ^ 64 := by
    simpa [fitsWord] using fits
  cases value with
  | ofNat number =>
      have written : (toString (Int.ofNat number)).toList = Nat.toDigits 10 number := by
        change (Nat.repr number).toList = _
        rw [Nat.repr, String.toList_ofList]
      rw [written]
      cases number with
      | zero =>
          refine ⟨_, reads_single (advance_between _), .number _ _ _ _ _ ?_ rfl fed⟩
          rintro c (rfl | rfl | rfl) <;> rfl
      | succ number =>
          refine ⟨_, reads_digits false ?_ _ (Nat.succ_pos number) ?_,
            .number _ _ _ _ _ ?_ (value?_whole false _ (Nat.succ_pos number) fits) fed⟩
          · intro digit positive isDigit
            rw [advance_between]
            interval_cases digit <;> rfl
          · rw [Int.ofNat_eq_natCast] at bounds
            change number + 1 < 2 ^ 64
            omega
          · rintro c (rfl | rfl | rfl) <;> rfl
  | negSucc number =>
      have written : (toString (Int.negSucc number)).toList =
          '-' :: Nat.toDigits 10 (number + 1) := by
        change ("-" ++ Nat.repr (number + 1)).toList = _
        simp [Nat.repr]
      rw [written]
      refine ⟨_, reads_cons (advance_between _)
        (reads_digits true ?_ _ (Nat.succ_pos number) ?_),
        .number _ _ _ _ _ ?_ (value?_whole true _ (Nat.succ_pos number) fits) fed⟩
      · intro digit positive isDigit
        interval_cases digit <;> simp [advance, Progress.isComplete] <;> rfl
      · change number + 1 < 2 ^ 64
        omega
      · rintro c (rfl | rfl | rfl) <;> rfl

/-! ## Values -/

/-- A value may stand where such a token is expected. -/
def TakesValue (expect : Expect) : Prop :=
  expect = .value ∨ expect = .valueOrClose

/-- A token that closes no container starts or is a value where one is expected. -/
theorem feed_of_takesValue (takesValue : TakesValue expect) {token : Token}
    (notClosing : Progress.close token containers = none) :
    (Progress.building containers expect).feed token = Progress.takeValue containers token := by
  rcases takesValue with rfl | rfl
  · rfl
  · simp [Progress.feed, notClosing]

theorem close_openArray : Progress.close .openArray containers = none := by
  rcases containers with _ | ⟨_ | _ | _, _⟩ <;> rfl

theorem close_openObject : Progress.close .openObject containers = none := by
  rcases containers with _ | ⟨_ | _ | _, _⟩ <;> rfl

theorem close_text (text : Option String) : Progress.close (.text text) containers = none := by
  rcases containers with _ | ⟨_ | _ | _, _⟩ <;> rfl

theorem close_scalar (value : Json) : Progress.close (.scalar value) containers = none := by
  rcases containers with _ | ⟨_ | _ | _, _⟩ <;> rfl

/-- Wherever the value may stand, it is read back from its written form. -/
def IsReadBack (leading : Bool) (json : Json) : Prop :=
  ∀ containers expect progress, TakesValue expect →
    Progress.place json containers = some progress →
      ∃ after, Reads leading ⟨.between, .building containers expect⟩ json.write.toList after ∧
        Settles after progress

theorem isReadBack_null : IsReadBack leading .null := by
  intro containers expect progress takesValue placed
  have fed : (Progress.building containers expect).feed (.scalar .null) = some progress := by
    rw [feed_of_takesValue takesValue (close_scalar _)]
    exact placed
  refine ⟨_, reads_cons (advance_between _) ?_, .between _⟩
  exact reads_word ['u', 'l', 'l'] .null (List.cons_ne_nil _ _) fed

theorem isReadBack_bool (value : Bool) : IsReadBack leading (.bool value) := by
  intro containers expect progress takesValue placed
  have fed : (Progress.building containers expect).feed (.scalar (.bool value)) =
      some progress := by
    rw [feed_of_takesValue takesValue (close_scalar _)]
    exact placed
  cases value with
  | false =>
      refine ⟨_, reads_cons (advance_between _) ?_, .between _⟩
      exact reads_word ['a', 'l', 's', 'e'] (.bool false) (List.cons_ne_nil _ _) fed
  | true =>
      refine ⟨_, reads_cons (advance_between _) ?_, .between _⟩
      exact reads_word ['r', 'u', 'e'] (.bool true) (List.cons_ne_nil _ _) fed

theorem isReadBack_integer {value : Int} (fits : fitsWord value = true) :
    IsReadBack leading (.integer value) := by
  intro containers expect progress takesValue placed
  apply reads_integer value fits
  rw [feed_of_takesValue takesValue (close_scalar _)]
  exact placed

theorem isReadBack_string (text : String) : IsReadBack leading (.string text) := by
  intro containers expect progress takesValue placed
  refine ⟨_, reads_writeString text ?_, .between _⟩
  rw [feed_of_takesValue takesValue (close_text _)]
  exact placed

/-! ## Arrays -/

/-- Items are read one after the other, up to the end of their array. -/
theorem reads_items {items : List Json} (notEmpty : items ≠ [])
    (each : ∀ item ∈ items, IsReadBack leading item) (before : List Json) (outer : List Open)
    (expect : Expect) (takesValue : TakesValue expect) {progress : Progress}
    (placed : Progress.place (.array (before.reverse ++ items)) outer = some progress) :
    Reads leading ⟨.between, .building (.array before :: outer) expect⟩
      ((writeItems items).toList ++ [']']) ⟨.between, progress⟩ := by
  induction items generalizing before expect with
  | nil => exact absurd rfl notEmpty
  | cons item rest ih =>
      rcases each item List.mem_cons_self (.array before :: outer) expect _ takesValue rfl with
        ⟨after, reads, settles⟩
      cases rest with
      | nil =>
          have closed : Progress.close .closeArray (.array (item :: before) :: outer) =
              some progress := by
            rw [Progress.close, List.reverse_cons]
            exact placed
          refine reads.append (reads_single ?_)
          rw [settles.advance (.inr (.inl rfl))]
          change Option.map _ (Progress.close .closeArray (.array (item :: before) :: outer)) = _
          rw [closed]
          rfl
      | cons next rest =>
          have written : (writeItems (item :: next :: rest)).toList ++ [']'] =
              item.write.toList ++ ',' :: ((writeItems (next :: rest)).toList ++ [']']) := by
            simp [writeItems]
          rw [written]
          refine reads.append (reads_cons (settles.advance (.inl rfl)) ?_)
          refine ih (List.cons_ne_nil next rest) ?_ (item :: before) .value (.inl rfl) ?_
          · intro other member
            exact each other (List.mem_cons_of_mem _ member)
          · simpa using placed

theorem isReadBack_array {items : List Json} (each : ∀ item ∈ items, IsReadBack leading item) :
    IsReadBack leading (.array items) := by
  intro containers expect progress takesValue placed
  have opened : advance leading ⟨.between, .building containers expect⟩ '[' =
      some ⟨.between, .building (.array [] :: containers) .valueOrClose⟩ := by
    rw [advance_between]
    change Option.map _ ((Progress.building containers expect).feed .openArray) = _
    rw [feed_of_takesValue takesValue close_openArray]
    rfl
  have written : (Json.array items).write.toList = '[' :: ((writeItems items).toList ++ [']']) := by
    simp [write]
  rw [written]
  refine ⟨_, reads_cons opened ?_, .between progress⟩
  cases items with
  | nil =>
      apply reads_single
      rw [advance_between]
      change Option.map _ (Option.orElse (Progress.place (.array []) containers) _) = _
      rw [placed]
      rfl
  | cons item rest => exact reads_items (List.cons_ne_nil _ _) each [] _ _ (.inr rfl) placed

/-! ## Objects -/

/-- A member is read to the end of its value. -/
theorem reads_member (name : String) {value : Json} (isReadBack : IsReadBack leading value)
    (before : List (String × Json)) (outer : List Open)
    (wanted : expect = .name ∨ expect = .nameOrClose) :
    ∃ after,
      Reads leading ⟨.between, .building (.object before true :: outer) expect⟩
        ((writeString name).toList ++ ':' :: value.write.toList) after ∧
      Settles after (.building (.object ((name, value) :: before) true :: outer) .commaOrClose) := by
  have named : (Progress.building (.object before true :: outer) expect).feed (.text (some name)) =
      some (.building (.member name before true :: outer) .colon) := by
    rcases wanted with rfl | rfl <;> rfl
  rcases isReadBack (.member name before true :: outer) .value _ (.inl rfl) rfl with
    ⟨after, reads, settles⟩
  exact ⟨after, (reads_writeString name named).append (reads_cons (advance_between _) reads),
    settles⟩

/-- Members are read one after the other, up to the end of their object. -/
theorem reads_members {members : List (String × Json)} (notEmpty : members ≠ [])
    (each : ∀ member ∈ members, IsReadBack leading member.2) (before : List (String × Json))
    (outer : List Open) (wanted : expect = .name ∨ expect = .nameOrClose) {progress : Progress}
    (placed : Progress.place (.object (before.reverse ++ members)) outer = some progress) :
    Reads leading ⟨.between, .building (.object before true :: outer) expect⟩
      ((writeMembers members).toList ++ ['\x7d']) ⟨.between, progress⟩ := by
  induction members generalizing before expect with
  | nil => exact absurd rfl notEmpty
  | cons member rest ih =>
      rcases member with ⟨name, value⟩
      rcases reads_member name (each (name, value) List.mem_cons_self) before outer
        wanted with ⟨after, reads, settles⟩
      cases rest with
      | nil =>
          have closed : Progress.close .closeObject
              (.object ((name, value) :: before) true :: outer) = some progress := by
            rw [Progress.close, List.reverse_cons]
            exact placed
          have written : (writeMembers [(name, value)]).toList ++ ['\x7d'] =
              ((writeString name).toList ++ ':' :: value.write.toList) ++ ['\x7d'] := by
            simp [writeMembers]
          rw [written]
          refine reads.append (reads_single ?_)
          rw [settles.advance (.inr (.inr rfl))]
          change Option.map _ (Progress.close .closeObject
            (.object ((name, value) :: before) true :: outer)) = _
          rw [closed]
          rfl
      | cons next rest =>
          have written : (writeMembers ((name, value) :: next :: rest)).toList ++ ['\x7d'] =
              ((writeString name).toList ++ ':' :: value.write.toList) ++
                ',' :: ((writeMembers (next :: rest)).toList ++ ['\x7d']) := by
            simp [writeMembers]
          rw [written]
          refine reads.append (reads_cons (settles.advance (.inl rfl)) ?_)
          refine ih (List.cons_ne_nil next rest) ?_ ((name, value) :: before) (.inl rfl) ?_
          · intro other member
            exact each other (List.mem_cons_of_mem _ member)
          · simpa using placed

theorem isReadBack_object {members : List (String × Json)}
    (each : ∀ member ∈ members, IsReadBack leading member.2) :
    IsReadBack leading (.object members) := by
  intro containers expect progress takesValue placed
  have opened : advance leading ⟨.between, .building containers expect⟩ '\x7b' =
      some ⟨.between, .building (.object [] true :: containers) .nameOrClose⟩ := by
    rw [advance_between]
    change Option.map _ ((Progress.building containers expect).feed .openObject) = _
    rw [feed_of_takesValue takesValue close_openObject]
    rfl
  have written : (Json.object members).write.toList =
      '\x7b' :: ((writeMembers members).toList ++ ['\x7d']) := by
    simp [write]
  rw [written]
  refine ⟨_, reads_cons opened ?_, .between progress⟩
  cases members with
  | nil =>
      apply reads_single
      rw [advance_between]
      change Option.map _ (Option.orElse (Progress.place (.object []) containers) _) = _
      rw [placed]
      rfl
  | cons member rest => exact reads_members (List.cons_ne_nil _ _) each [] _ (.inr rfl) placed

end Reader

/-! ## Tidy values -/

/--
The value nests at most so many containers deep, names no member of an object twice, and holds
nothing but texts, truth values, integers of 64 bits and `null`.
-/
inductive IsTidy : Nat → Json → Prop where
  | null (depth : Nat) : IsTidy depth .null
  | bool (depth : Nat) (value : Bool) : IsTidy depth (.bool value)
  | integer (depth : Nat) (value : Int) (fits : fitsWord value = true) :
      IsTidy depth (.integer value)
  | string (depth : Nat) (text : String) : IsTidy depth (.string text)
  | array (depth : Nat) (items : List Json) (each : ∀ item ∈ items, IsTidy depth item) :
      IsTidy (depth + 1) (.array items)
  | object (depth : Nat) (members : List (String × Json))
      (distinct : (members.map (·.1)).Nodup)
      (each : ∀ member ∈ members, IsTidy depth member.2) :
      IsTidy (depth + 1) (.object members)

/-- Where no name is repeated, all members stay. -/
theorem keepLast_of_nodup {members : List (String × Json)}
    (distinct : (members.map (·.1)).Nodup) : keepLast members = members := by
  induction members with
  | nil => rfl
  | cons member rest ih =>
      rw [List.map_cons, List.nodup_cons] at distinct
      have notRepeated : rest.any (·.1 == member.1) = false := by
        rw [List.any_eq_false]
        intro other isOther sameName
        apply distinct.1
        rw [← beq_iff_eq.mp sameName]
        exact List.mem_map_of_mem isOther
      rw [keepLast, notRepeated, ih distinct.2]
      rfl

namespace IsTidy

variable {depth : Nat} {json : Json}

theorem mono (tidy : IsTidy depth json) {depth' : Nat} (deeper : depth ≤ depth') :
    IsTidy depth' json := by
  induction tidy generalizing depth' with
  | null => exact .null _
  | bool _ value => exact .bool _ value
  | integer _ value fits => exact .integer _ value fits
  | string _ text => exact .string _ text
  | array depth items each ih =>
      cases depth' with
      | zero => exact absurd deeper (Nat.not_succ_le_zero depth)
      | succ depth' =>
          exact .array _ items fun item member =>
            ih item member (Nat.le_of_succ_le_succ deeper)
  | object depth members distinct each ih =>
      cases depth' with
      | zero => exact absurd deeper (Nat.not_succ_le_zero depth)
      | succ depth' =>
          exact .object _ members distinct fun member isMember =>
            ih member isMember (Nat.le_of_succ_le_succ deeper)

theorem isSound (tidy : IsTidy depth json) : json.isSound depth = true := by
  induction tidy with
  | null | bool | integer | string => rfl
  | array depth items each ih =>
      rw [Json.isSound]
      clear each
      induction items with
      | nil => rfl
      | cons item rest restSound =>
          rw [List.forall_mem_cons] at ih
          rw [allSound, ih.1, restSound ih.2]
          rfl
  | object depth members distinct each ih =>
      rw [Json.isSound]
      clear each distinct
      induction members with
      | nil => rfl
      | cons member rest restSound =>
          rw [List.forall_mem_cons] at ih
          rw [membersSound, ih.1, restSound ih.2]
          rfl

theorem lastWins (tidy : IsTidy depth json) : json.lastWins = json := by
  induction tidy with
  | null | bool | integer | string => rfl
  | array depth items each ih =>
      rw [Json.lastWins]
      congr 1
      clear each
      induction items with
      | nil => rfl
      | cons item rest same =>
          rw [List.forall_mem_cons] at ih
          rw [lastWinsItems, ih.1, same ih.2]
  | object depth members distinct each ih =>
      have same : lastWinsMembers members = members := by
        clear each distinct
        induction members with
        | nil => rfl
        | cons member rest same =>
            rw [List.forall_mem_cons] at ih
            rw [lastWinsMembers, ih.1, same ih.2]
      rw [Json.lastWins, same, keepLast_of_nodup distinct]

theorem isReadBack (tidy : IsTidy depth json) (leading : Bool) :
    Reader.IsReadBack leading json := by
  induction tidy with
  | null => exact Reader.isReadBack_null
  | bool _ value => exact Reader.isReadBack_bool value
  | integer _ value fits => exact Reader.isReadBack_integer fits
  | string _ text => exact Reader.isReadBack_string text
  | array _ items _ ih => exact Reader.isReadBack_array ih
  | object _ members _ _ ih => exact Reader.isReadBack_object ih

theorem readText_write (tidy : IsTidy depth json) (leading : Bool) :
    readText leading json.write = some json := by
  rcases tidy.isReadBack leading [] .value (.complete json) (.inl rfl) rfl with
    ⟨after, reads, settles⟩
  have folded : json.write.toList.foldlM (Reader.advance leading) Reader.start = some after := reads
  rw [readText, folded]
  exact settles.finish

/-- A tidy value is read back from its written form. -/
theorem parse?_write (tidy : IsTidy maxDepth json) : parse? json.write = some json := by
  rw [parse?, tidy.readText_write, Option.bind_some, sound?, if_pos tidy.isSound]

theorem parseLeading?_write (tidy : IsTidy maxDepth json) :
    parseLeading? json.write = some json := by
  rw [parseLeading?, tidy.readText_write, Option.bind_some, sound?, if_pos tidy.isSound]

end IsTidy

end BranchGuard.Json
