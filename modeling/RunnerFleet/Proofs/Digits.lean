import Mathlib.Algebra.Group.Nat.Defs
import Mathlib.Data.List.Induction
import RunnerFleet.Json.Reader
import RunnerFleet.Json.Writer

/-!
# Few enough digits

An integer with too many digits is neither read nor written.  So every integer of a value that
was read can be written again, and a value is written to its end exactly if all of its integers
can be.
-/

namespace RunnerFleet

namespace Value

mutual

/-- Whether all integers of a value have few enough digits to be written. -/
def isWritable : Value → Bool
  | .int number => Number.isWritable number
  | .list items => itemsAreWritable items
  | .object fields => fieldsAreWritable fields
  | .null | .bool _ | .real _ | .text _ => true

/-- Whether all items of a list can be written. -/
def itemsAreWritable : List Value → Bool
  | [] => true
  | item :: rest => isWritable item && itemsAreWritable rest

/-- Whether all fields of an object can be written. -/
def fieldsAreWritable : List (Text × Value) → Bool
  | [] => true
  | (_, value) :: rest => isWritable value && fieldsAreWritable rest

end

theorem itemsAreWritable_iff {items : List Value} :
    itemsAreWritable items = true ↔ ∀ item ∈ items, item.isWritable = true := by
  induction items with
  | nil => simp [itemsAreWritable]
  | cons item rest ih => simp [itemsAreWritable, ih]

theorem fieldsAreWritable_iff {fields : List (Text × Value)} :
    fieldsAreWritable fields = true ↔ ∀ field ∈ fields, field.2.isWritable = true := by
  induction fields with
  | nil => simp [fieldsAreWritable]
  | cons field rest ih =>
    rcases field with ⟨name, value⟩
    simp [fieldsAreWritable, ih]

end Value

/-! ## What is written to its end -/

namespace Json

@[simp]
theorem Written.whole_done (text : String) : (Written.done text).whole = true :=
  rfl

@[simp]
theorem Written.whole_andThen (first second : Written) :
    (first.andThen second).whole = (first.whole && second.whole) := by
  rw [Written.andThen]
  cases whole : first.whole with
  | true => simp
  | false => simp [whole]

@[simp]
theorem whole_writeBlock (before closing : String) (level : Nat) (parts : Written) :
    (writeBlock before closing level parts).whole = parts.whole := by
  simp [writeBlock]

mutual

theorem whole_writeAt :
    ∀ (level : Nat) (before : String) (value : Value),
      (writeAt level before value).whole = value.isWritable
  | _, _, .null | _, _, .bool _ | _, _, .real _ | _, _, .text _ => by
    simp [writeAt, Value.isWritable]
  | _, _, .int number => by
    rw [writeAt, Value.isWritable]
    cases Number.isWritable number with
    | true => rfl
    | false => rfl
  | level, before, .list items => by
    rw [writeAt, Value.isWritable, ← whole_writeItems (level + 1) ("[" ++ newLine (level + 1))]
    cases items with
    | nil => rfl
    | cons item rest => rw [List.isEmpty_cons, if_neg Bool.false_ne_true, whole_writeBlock]
  | level, before, .object fields => by
    rw [writeAt, Value.isWritable,
      ← whole_writeFields (level + 1) ("\x7b" ++ newLine (level + 1))]
    cases fields with
    | nil => rfl
    | cons field rest => rw [List.isEmpty_cons, if_neg Bool.false_ne_true, whole_writeBlock]

theorem whole_writeItems :
    ∀ (level : Nat) (before : String) (items : List Value),
      (writeItems level before items).whole = Value.itemsAreWritable items
  | _, _, [] => rfl
  | level, before, item :: rest => by
    rw [writeItems, Value.itemsAreWritable, Written.whole_andThen, whole_writeAt,
      whole_writeItems]

theorem whole_writeFields :
    ∀ (level : Nat) (before : String) (fields : List (Text × Value)),
      (writeFields level before fields).whole = Value.fieldsAreWritable fields
  | _, _, [] => rfl
  | level, before, (name, value) :: rest => by
    rw [writeFields, Value.fieldsAreWritable, Written.whole_andThen, Written.whole_andThen,
      whole_writeAt, whole_writeFields, Written.whole_done, Bool.true_and]

end

/-- A value is written to its end exactly if its integers can be written. -/
theorem whole_write (value : Value) : (write value).whole = value.isWritable :=
  whole_writeAt 0 "" value

/-! ## What is read -/

theorem ofDigits_append (digits : List Nat) (digit : Nat) :
    Number.ofDigits (digits ++ [digit]) = 10 * Number.ofDigits digits + digit := by
  simp [Number.ofDigits]

/-- A number is below the power of ten that its digits count. -/
theorem ofDigits_lt {digits : List Nat} (decimal : ∀ digit ∈ digits, digit < 10) :
    Number.ofDigits digits < 10 ^ digits.length := by
  induction digits using List.reverseRecOn with
  | nil => decide
  | append_singleton digits digit ih =>
    rw [List.forall_mem_append, List.forall_mem_singleton] at decimal
    rcases decimal with ⟨others, last⟩
    have smaller := ih others
    rw [ofDigits_append, List.length_append, List.length_singleton, Nat.pow_succ]
    omega

theorem decimalDigit?_lt {char : Char} {digit : Nat} (found : decimalDigit? char = some digit) :
    digit < 10 := by
  rw [decimalDigit?] at found
  split at found
  next range =>
    rcases Bool.and_eq_true_iff.mp range with ⟨_, most⟩
    have bound : char.toNat ≤ 57 := of_decide_eq_true most
    cases found
    omega
  · cases found

theorem leadingDigits_lt (text : Text) : ∀ digit ∈ leadingDigits text, digit < 10 := by
  induction text with
  | nil => exact List.forall_mem_nil _
  | cons point rest ih =>
    rw [leadingDigits]
    split
    next digit found =>
      rcases Option.bind_eq_some_iff.mp found with ⟨char, _, decimal⟩
      exact List.forall_mem_cons.mpr ⟨decimalDigit?_lt decimal, ih⟩
    · exact List.forall_mem_nil _

theorem wholePart_lt (text : Text) : ∀ digit ∈ wholePart text, digit < 10 := by
  rw [wholePart]
  split
  · simp
  · exact leadingDigits_lt text

/-- An integer with at most as many digits as are allowed can be written. -/
theorem isWritable_negateIf
    {digits : List Nat}
    (decimal : ∀ digit ∈ digits, digit < 10)
    (short : digits.length ≤ Number.digitLimit)
    (negative : Bool) :
    Number.isWritable (Number.negateIf negative (Number.ofDigits digits)) = true := by
  have magnitude :
      (Number.negateIf negative (Number.ofDigits digits)).natAbs = Number.ofDigits digits := by
    cases negative with
    | true => exact Int.natAbs_neg _
    | false => rfl
  rw [Number.isWritable, magnitude, decide_eq_true_iff]
  -- The limit stays a variable, so that nothing computes the power.
  generalize Number.digitLimit = limit at short ⊢
  calc
    Number.ofDigits digits < 10 ^ digits.length := ofDigits_lt decimal
    _ ≤ 10 ^ limit := Nat.pow_le_pow_right (Nat.succ_pos 9) short

/-- What a reading tells has a property, if it tells anything. -/
def Reading.Tells {Item : Type} (reading : Reading Item) (property : Item → Prop) : Prop :=
  ∀ item after, reading = .ok (item, after) → property item

namespace Reading.Tells

variable {Item : Type} {property : Item → Prop}

protected theorem ok {item : Item} {after : Cursor} (holds : property item) :
    Reading.Tells (.ok (item, after)) property := by
  rintro _ _ ⟨⟩
  exact holds

protected theorem error (stop : Stop) :
    Reading.Tells (.error stop : Reading Item) property :=
  nofun

end Reading.Tells

theorem numberFrom_tells
    {whole : List Nat}
    (decimal : ∀ digit ∈ whole, digit < 10)
    (negative : Bool)
    (cursor : Cursor) :
    (numberFrom negative whole cursor).Tells fun value => value.isWritable = true := by
  simp only [numberFrom]
  split
  · exact .ok rfl
  · split
    · split
      · exact .error _
      next short => exact .ok (isWritable_negateIf decimal (Nat.le_of_not_lt short) negative)
    · exact .ok rfl

theorem number_tells (cursor : Cursor) :
    (number cursor).Tells fun value => value.isWritable = true := by
  rw [number]
  split
  · split
    · exact .error _
    · exact numberFrom_tells (wholePart_lt _) _ _
  · split
    · exact .error _
    · exact numberFrom_tells (wholePart_lt _) _ _

theorem scalar_tells (cursor : Cursor) :
    (scalar cursor).Tells fun value => value.isWritable = true := by
  rw [scalar]
  split
  next word value spelled =>
    have known : ∀ word ∈ words, word.2.isWritable = true := by
      simp [words, Value.isWritable]
    exact .ok (known _ (List.mem_of_find?_eq_some spelled))
  · exact number_tells cursor

/-- Whatever is read has only integers that can be written: the bound goes down from a value to
its items and fields. -/
theorem readings_tell (bound levels : Nat) (cursor : Cursor) :
    ((valueFrom bound levels cursor).Tells fun value => value.isWritable = true) ∧
      ((itemsFrom bound levels cursor).Tells fun items =>
        ∀ item ∈ items, item.isWritable = true) ∧
        (fieldsFrom bound levels cursor).Tells fun fields =>
          ∀ field ∈ fields, field.2.isWritable = true := by
  induction bound generalizing levels cursor with
  | zero => exact ⟨.error _, .error _, .error _⟩
  | succ bound ih =>
    refine ⟨?_, ?_, ?_⟩
    · unfold valueFrom
      split
      · split
        · exact .ok rfl
        · exact .error _
      · exact .error _
      · dsimp only
        split
        · exact .ok rfl
        · split
          next items _ told =>
            exact .ok (Value.itemsAreWritable_iff.mpr ((ih _ _).2.1 _ _ told))
          · exact .error _
      · exact .error _
      · dsimp only
        split
        · exact .ok rfl
        · split
          next fields _ told =>
            refine .ok (Value.fieldsAreWritable_iff.mpr ?_)
            exact Table.forall_content_ofPairs (fun value : Value => value.isWritable = true)
              ((ih _ _).2.2 _ _ told)
          · exact .error _
      · exact scalar_tells cursor
    · unfold itemsFrom
      split
      · exact .error _
      next item between told =>
        have first := (ih _ _).1 _ _ told
        dsimp only
        split
        · exact .ok (List.forall_mem_singleton.mpr first)
        · split
          next others _ told =>
            exact .ok (List.forall_mem_cons.mpr ⟨first, (ih _ _).2.1 _ _ told⟩)
          · exact .error _
        · exact .error _
    · unfold fieldsFrom
      split
      · split
        · exact .error _
        · dsimp only
          split
          · split
            · exact .error _
            next value between told =>
              have first := (ih _ _).1 _ _ told
              split
              · exact .ok (List.forall_mem_singleton.mpr first)
              · split
                next others _ told =>
                  exact .ok (List.forall_mem_cons.mpr ⟨first, (ih _ _).2.2 _ _ told⟩)
                · exact .error _
              · exact .error _
          · exact .error _
      · exact .error _

/-- The integers of a value that was read can be written. -/
theorem isWritable_of_read
    {nesting : Nat}
    {text : Text}
    {value : Value}
    (told : read nesting text = .ok value) :
    value.isWritable = true := by
  rw [read] at told
  split at told
  next whole =>
    cases told
    unfold readWhole at whole
    split at whole
    · cases whole
    · split at whole
      · cases whole
      next reads =>
        dsimp only at whole
        split at whole
        · cases whole
          exact (readings_tell _ _ _).1 _ _ reads
        · cases whole
  · cases told

end Json

end RunnerFleet
