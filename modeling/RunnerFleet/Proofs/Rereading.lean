import RunnerFleet.Proofs.Escapes
import RunnerFleet.Proofs.Shortest

/-!
# What is written reads back

A value that is written to its end has a layout: its tokens, one item or field on a line.  Read
with enough nesting, the layout yields the value again, up to what a text of JSON cannot keep:
surrogates that make a pair are joined, a real is the double nearest to its shortest numeral, and
of fields with one name the last counts.
-/

namespace RunnerFleet

namespace Value

mutual

/-- What a value reads back as, once it is written. -/
def reread : Value → Value
  | .null => .null
  | .bool flag => .bool flag
  | .int number => .int number
  | .real number => .real (Number.reread number)
  | .text content => .text content.paired
  | .list items => .list (rereadItems items)
  | .object fields => .object (Table.ofPairs (rereadFields fields))

/-- What the items of a list read back as. -/
def rereadItems : List Value → List Value
  | [] => []
  | item :: rest => item.reread :: rereadItems rest

/-- What the fields of an object read back as. -/
def rereadFields : List (Text × Value) → List (Text × Value)
  | [] => []
  | (name, value) :: rest => (name.paired, value.reread) :: rereadFields rest

end

mutual

/-- How deep lists and objects are nested in a value. -/
def depth : Value → Nat
  | .list items => itemsDepth items + 1
  | .object fields => fieldsDepth fields + 1
  | .null | .bool _ | .int _ | .real _ | .text _ => 0

/-- How deep lists and objects are nested in the items of a list. -/
def itemsDepth : List Value → Nat
  | [] => 0
  | item :: rest => max item.depth (itemsDepth rest)

/-- How deep lists and objects are nested in the fields of an object. -/
def fieldsDepth : List (Text × Value) → Nat
  | [] => 0
  | (_, value) :: rest => max value.depth (fieldsDepth rest)

end

end Value

namespace Json

/-! ## Layout -/

/-- The start of a line at a level, as a text. -/
def lineStart (level : Nat) : Text :=
  newLine level

/-- The name of a field as it is written, with what stands before its value. -/
def fieldStart (name : Text) : Text :=
  Text.ofString (writeText name ++ ": ")

mutual

/-- The text of a value that is written to its end at a level. -/
def layout (level : Nat) : Value → Text
  | .null => "null"
  | .bool flag => Text.ofString (if flag then "true" else "false")
  | .int number => toString number
  | .real number => writeReal number
  | .text content => writeText content
  | .list [] => "[]"
  | .list (item :: rest) =>
    .scalar '[' ::
      (lineStart (level + 1) ++
        (layout (level + 1) item ++
          (moreItems (level + 1) rest ++ (lineStart level ++ [.scalar ']']))))
  | .object [] => "\x7b\x7d"
  | .object ((name, value) :: rest) =>
    .scalar '\x7b' ::
      (lineStart (level + 1) ++
        (fieldStart name ++
          (layout (level + 1) value ++
            (moreFields (level + 1) rest ++ (lineStart level ++ [.scalar '\x7d'])))))

/-- The text of items after the first one. -/
def moreItems (level : Nat) : List Value → Text
  | [] => []
  | item :: rest =>
    .scalar ',' :: (lineStart level ++ (layout level item ++ moreItems level rest))

/-- The text of fields after the first one. -/
def moreFields (level : Nat) : List (Text × Value) → Text
  | [] => []
  | (name, value) :: rest =>
    .scalar ',' ::
      (lineStart level ++ (fieldStart name ++ (layout level value ++ moreFields level rest)))

end

theorem text_andThen {first second : Written} (whole : first.whole = true) :
    (first.andThen second).text = first.text ++ second.text := by
  rw [Written.andThen, if_pos whole]

/-- What follows a value that is written to its end is written as well. -/
theorem text_writeAt_andThen
    {value : Value}
    (writable : value.isWritable = true)
    (level : Nat)
    (before : String)
    (more : Written) :
    ((writeAt level before value).andThen more).text =
      (writeAt level before value).text ++ more.text :=
  text_andThen ((whole_writeAt level before value).trans writable)

theorem text_writeBlock
    {parts : Written}
    (whole : parts.whole = true)
    (before closing : String)
    (level : Nat) :
    (writeBlock before closing level parts).text =
      before ++ (parts.text ++ (newLine level ++ closing)) := by
  rw [writeBlock, text_andThen rfl, text_andThen whole]
  rfl

mutual

/-- A value that is written to its end is written in its layout. -/
theorem text_writeAt :
    ∀ (level : Nat) (before : String) (value : Value), value.isWritable = true →
      Text.ofString (writeAt level before value).text = before ++ layout level value
  | level, before, .null | level, before, .bool _ | level, before, .real _
  | level, before, .text _ => by
    intro _
    rw [writeAt, layout]
    exact Text.ofString_append _ _
  | level, before, .int number => by
    intro writable
    rw [Value.isWritable] at writable
    rw [writeAt, if_pos writable, layout]
    exact Text.ofString_append _ _
  | level, before, .list [] | level, before, .object [] => by
    intro _
    rw [writeAt, layout]
    exact Text.ofString_append _ _
  | level, before, .list (item :: rest) => by
    intro writable
    rw [Value.isWritable] at writable
    have whole :
        (writeItems (level + 1) ("[" ++ newLine (level + 1)) (item :: rest)).whole = true := by
      rw [whole_writeItems, writable]
    rw [Value.itemsAreWritable, Bool.and_eq_true] at writable
    rw [writeAt, List.isEmpty_cons, if_neg Bool.false_ne_true, text_writeBlock whole, writeItems,
      text_writeAt_andThen writable.1]
    simp only [Text.ofString_append, text_writeAt (level + 1) _ item writable.1,
      text_moreItems (level + 1) rest writable.2, layout, List.append_assoc]
    rfl
  | level, before, .object ((name, value) :: rest) => by
    intro writable
    rw [Value.isWritable] at writable
    have whole :
        (writeFields (level + 1) ("\x7b" ++ newLine (level + 1)) ((name, value) :: rest)).whole =
          true := by
      rw [whole_writeFields, writable]
    rw [Value.fieldsAreWritable, Bool.and_eq_true] at writable
    rw [writeAt, List.isEmpty_cons, if_neg Bool.false_ne_true, text_writeBlock whole, writeFields,
      text_andThen rfl, text_writeAt_andThen writable.1]
    simp only [Text.ofString_append, text_writeAt (level + 1) _ value writable.1, Written.done,
      text_moreFields (level + 1) rest writable.2, layout, fieldStart, List.append_assoc]
    rfl

theorem text_moreItems :
    ∀ (level : Nat) (items : List Value), Value.itemsAreWritable items = true →
      Text.ofString (writeItems level ("," ++ newLine level) items).text = moreItems level items
  | _, [] => fun _ => rfl
  | level, item :: rest => by
    intro writable
    rw [Value.itemsAreWritable, Bool.and_eq_true] at writable
    rw [writeItems, text_writeAt_andThen writable.1]
    simp only [Text.ofString_append, text_writeAt level _ item writable.1,
      text_moreItems level rest writable.2, moreItems, List.append_assoc]
    rfl

theorem text_moreFields :
    ∀ (level : Nat) (fields : List (Text × Value)), Value.fieldsAreWritable fields = true →
      Text.ofString (writeFields level ("," ++ newLine level) fields).text =
        moreFields level fields
  | _, [] => fun _ => rfl
  | level, (name, value) :: rest => by
    intro writable
    rw [Value.fieldsAreWritable, Bool.and_eq_true] at writable
    rw [writeFields, text_andThen rfl, text_writeAt_andThen writable.1]
    simp only [Text.ofString_append, text_writeAt level _ value writable.1, Written.done,
      text_moreFields level rest writable.2, moreFields, fieldStart, List.append_assoc]
    rfl

end

/-! ## Between tokens -/

theorem skipSpaces_of_solid
    {point : CodePoint}
    (solid : point.isIn isSpace = false)
    (rest : Text)
    (offset : Nat) :
    skipSpaces (point :: rest) offset = ⟨point :: rest, offset⟩ := by
  rw [skipSpaces, solid, if_neg Bool.false_ne_true]

theorem lineStart_eq (level : Nat) :
    lineStart level = .scalar '\n' :: List.replicate (2 * level) (.scalar ' ') := by
  rw [lineStart, newLine, Text.ofString_append]
  simp [Text.ofString]

/-- The spaces at the start of a line are skipped. -/
theorem skipSpaces_lineStart
    {point : CodePoint}
    (solid : point.isIn isSpace = false)
    (level : Nat)
    (rest : Text)
    (offset : Nat) :
    ∃ later, skipSpaces (lineStart level ++ point :: rest) offset = ⟨point :: rest, later⟩ := by
  have spaces (count offset : Nat) :
      ∃ later,
        skipSpaces (List.replicate count (.scalar ' ') ++ point :: rest) offset =
          ⟨point :: rest, later⟩ := by
    induction count generalizing offset with
    | zero => exact ⟨offset, skipSpaces_of_solid solid rest offset⟩
    | succ count ih =>
      rcases ih (offset + 1) with ⟨later, skipped⟩
      exact ⟨later, by rw [List.replicate_succ, List.cons_append, skipSpaces, ← skipped]; rfl⟩
  rcases spaces (2 * level) (offset + 1) with ⟨later, skipped⟩
  exact ⟨later, by rw [lineStart_eq, List.cons_append, skipSpaces, ← skipped]; rfl⟩

/-- A text of which a value is read starts with the value, and not with a space or a closing
bracket. -/
theorem solid_of_yields
    {bound levels offset : Nat}
    {text rest : Text}
    {value : Value}
    (yields : (valueFrom bound levels ⟨text, offset⟩).Yields value rest) :
    ∃ point more,
      text = point :: more ∧
        point.isIn isSpace = false ∧ point ≠ .scalar ']' ∧ point ≠ .scalar '\uFEFF' := by
  rcases yields with ⟨later, reads⟩
  cases bound with
  | zero => cases reads
  | succ bound =>
    cases text with
    | nil => cases reads
    | cons point more =>
      have refused :
          ∀ char ∈ [' ', '\t', '\n', '\r', ']', '\uFEFF'], point ≠ .scalar char := by
        rintro char known rfl
        simp only [List.mem_cons, List.not_mem_nil, or_false] at known
        rcases known with rfl | rfl | rfl | rfl | rfl | rfl
        all_goals cases reads
      refine ⟨point, more, rfl, ?_, refused ']' (by decide), refused '\uFEFF' (by decide)⟩
      cases point with
      | surrogate index => rfl
      | scalar char =>
        cases space : isSpace char with
        | false => exact space
        | true =>
          have known : char ∈ [' ', '\t', '\n', '\r', ']', '\uFEFF'] := by
            simp only [isSpace, Bool.or_eq_true, decide_eq_true_iff] at space
            simp only [List.mem_cons, List.not_mem_nil, or_false]
            tauto
          exact absurd rfl (refused char known)

/-! ## Reading the layout -/

/-- Within enough levels, and with a bound of twice its length, the layout of a value reads back
in front of whatever closes a value. -/
def ReadsBack (value : Value) : Prop :=
  ∀ (level bound levels offset : Nat) (rest : Text),
    value.isWritable = true →
      value.depth ≤ levels →
        2 * (layout level value).length ≤ bound →
          Closes rest →
            (valueFrom bound levels ⟨layout level value ++ rest, offset⟩).Yields value.reread rest

/-- A value that can be read back does not start with a space or a closing bracket. -/
theorem ReadsBack.solid
    {value : Value}
    (back : ReadsBack value)
    (writable : value.isWritable = true)
    (level : Nat) :
    ∃ point more,
      layout level value = point :: more ∧
        point.isIn isSpace = false ∧ point ≠ .scalar ']' ∧ point ≠ .scalar '\uFEFF' := by
  have reads :=
    back level (2 * (layout level value).length) value.depth 0 [] writable (Nat.le_refl _)
      (Nat.le_refl _) nofun
  rw [List.append_nil] at reads
  exact solid_of_yields reads

theorem closes_lineStart (level : Nat) (rest : Text) : Closes (lineStart level ++ rest) := by
  rw [lineStart_eq]
  rintro point ⟨⟩
  exact .inr rfl

theorem closes_comma (rest : Text) : Closes (.scalar ',' :: rest) := by
  rintro point ⟨⟩
  exact .inl rfl

/-! ### Items and fields, one after another -/

section

variable {bound levels : Nat} {start between : Cursor} {rest after : Text}

theorem itemsFrom_of_last
    {item : Value}
    {offset : Nat}
    (reads : valueFrom bound levels start = .ok (item, between))
    (ends : between.skip = ⟨.scalar ']' :: after, offset⟩) :
    (itemsFrom (bound + 1) levels start).Yields [item] after := by
  refine ⟨offset + 1, ?_⟩
  unfold itemsFrom
  simp only [reads, ends]

theorem itemsFrom_of_more
    {item : Value}
    {items : List Value}
    {offset : Nat}
    (reads : valueFrom bound levels start = .ok (item, between))
    (goesOn : between.skip = ⟨.scalar ',' :: rest, offset⟩)
    (others : (itemsFrom bound levels (skipSpaces rest (offset + 1))).Yields items after) :
    (itemsFrom (bound + 1) levels start).Yields (item :: items) after := by
  rcases others with ⟨last, others⟩
  refine ⟨last, ?_⟩
  unfold itemsFrom
  simp only [reads, goesOn, others]

variable {opening offset colon : Nat} {name quoted : Text} {value : Value}

theorem fieldsFrom_of_last
    (named : stringFrom opening quoted (opening + 1) = .ok (name, ⟨.scalar ':' :: rest, colon⟩))
    (reads : valueFrom bound levels (skipSpaces rest (colon + 1)) = .ok (value, between))
    (ends : between.skip = ⟨.scalar '\x7d' :: after, offset⟩) :
    (fieldsFrom (bound + 1) levels ⟨.scalar '"' :: quoted, opening⟩).Yields [(name, value)]
      after := by
  have skipped : (⟨.scalar ':' :: rest, colon⟩ : Cursor).skip = ⟨.scalar ':' :: rest, colon⟩ := rfl
  refine ⟨offset + 1, ?_⟩
  unfold fieldsFrom
  simp only [named, skipped, reads, ends]

theorem fieldsFrom_of_more
    {more : Text}
    {fields : List (Text × Value)}
    (named : stringFrom opening quoted (opening + 1) = .ok (name, ⟨.scalar ':' :: rest, colon⟩))
    (reads : valueFrom bound levels (skipSpaces rest (colon + 1)) = .ok (value, between))
    (goesOn : between.skip = ⟨.scalar ',' :: more, offset⟩)
    (others : (fieldsFrom bound levels (skipSpaces more (offset + 1))).Yields fields after) :
    (fieldsFrom (bound + 1) levels ⟨.scalar '"' :: quoted, opening⟩).Yields
      ((name, value) :: fields) after := by
  have skipped : (⟨.scalar ':' :: rest, colon⟩ : Cursor).skip = ⟨.scalar ':' :: rest, colon⟩ := rfl
  rcases others with ⟨last, others⟩
  refine ⟨last, ?_⟩
  unfold fieldsFrom
  simp only [named, skipped, reads, goesOn, others]

end

section

variable (level outer levels : Nat) (after : Text)

/-- The items of a list read back, one after another. -/
theorem itemsFrom_layout
    {first : Value}
    {items : List Value}
    (each : ∀ item ∈ first :: items, ReadsBack item)
    (writable : ∀ item ∈ first :: items, item.isWritable = true)
    (deep : ∀ item ∈ first :: items, item.depth ≤ levels)
    (bound offset : Nat)
    (enough : 2 * (layout level first ++ moreItems level items).length + 1 ≤ bound) :
    (itemsFrom bound levels
        ⟨layout level first ++
          (moreItems level items ++ (lineStart outer ++ .scalar ']' :: after)), offset⟩).Yields
      (first.reread :: Value.rereadItems items) after := by
  -- Every item takes one of the bound, and the line before the next item is longer than that.
  induction items generalizing first bound offset with
  | nil =>
    obtain ⟨less, rfl⟩ : ∃ less, bound = less + 1 := ⟨bound - 1, by omega⟩
    rw [List.forall_mem_singleton] at each writable deep
    rw [moreItems, List.append_nil] at enough
    rcases each level less levels offset (lineStart outer ++ .scalar ']' :: after) writable deep
      (by omega) (closes_lineStart outer _) with ⟨between, reads⟩
    have solid : (CodePoint.scalar ']').isIn isSpace = false := rfl
    rcases skipSpaces_lineStart solid outer after between with ⟨later, ends⟩
    exact itemsFrom_of_last reads ends
  | cons second others ih =>
    obtain ⟨less, rfl⟩ : ∃ less, bound = less + 1 := ⟨bound - 1, by omega⟩
    rw [List.forall_mem_cons] at each writable deep
    have line : (lineStart level).length = 2 * level + 1 := by simp [lineStart_eq]
    simp only [moreItems, List.length_append, List.length_cons, line] at enough
    rcases (each.2 second List.mem_cons_self).solid (writable.2 second List.mem_cons_self) level
      with ⟨point, more, starts, solid, _⟩
    let later := layout level second ++
      (moreItems level others ++ (lineStart outer ++ .scalar ']' :: after))
    rcases each.1 level less levels offset (.scalar ',' :: (lineStart level ++ later)) writable.1
      deep.1 (by omega) (closes_comma _) with ⟨between, reads⟩
    obtain ⟨next, skipped⟩ :
        ∃ next, skipSpaces (lineStart level ++ later) (between + 1) = ⟨later, next⟩ := by
      simp only [later, starts, List.cons_append]
      exact skipSpaces_lineStart solid level _ _
    have remaining :=
      ih each.2 writable.2 deep.2 less next (by rw [List.length_append]; omega)
    rw [moreItems, List.cons_append, List.append_assoc, List.append_assoc]
    exact itemsFrom_of_more reads rfl (skipped ▸ remaining)

theorem fieldStart_append (name rest : Text) :
    fieldStart name ++ rest =
      .scalar '"' ::
        (escaped name ++ .scalar '"' :: .scalar ':' :: .scalar ' ' :: rest) := by
  rw [fieldStart, Text.ofString_append, ofString_writeText]
  simp [Text.ofString]

/-- The name of a field and its value read back, in front of whatever closes a value. -/
theorem field_reads
    (name rest : Text)
    {value : Value}
    (back : ReadsBack value)
    (writable : value.isWritable = true)
    (deep : value.depth ≤ levels)
    {bound : Nat}
    (enough : 2 * (layout level value).length ≤ bound)
    (closes : Closes rest)
    (opening : Nat) :
    ∃ colon between,
      stringFrom opening
          (escaped name ++ .scalar '"' :: .scalar ':' :: .scalar ' ' ::
            (layout level value ++ rest)) (opening + 1) =
          .ok (name.paired,
            ⟨.scalar ':' :: .scalar ' ' :: (layout level value ++ rest), colon⟩) ∧
        valueFrom bound levels
            (skipSpaces (.scalar ' ' :: (layout level value ++ rest)) (colon + 1)) =
          .ok (value.reread, ⟨rest, between⟩) := by
  rcases stringFrom_escaped name (.scalar ':' :: .scalar ' ' :: (layout level value ++ rest))
    opening (opening + 1) with ⟨colon, named⟩
  rcases back.solid writable level with ⟨point, more, starts, solid, _⟩
  have skipped :
      skipSpaces (.scalar ' ' :: (layout level value ++ rest)) (colon + 1) =
        ⟨layout level value ++ rest, colon + 2⟩ := by
    rw [starts, List.cons_append]
    exact skipSpaces_of_solid solid _ _
  rcases back level bound levels (colon + 2) rest writable deep enough closes with
    ⟨between, reads⟩
  exact ⟨colon, between, named, skipped ▸ reads⟩

/-- The fields of an object read back, one after another. -/
theorem fieldsFrom_layout
    {first : Text × Value}
    {fields : List (Text × Value)}
    (each : ∀ field ∈ first :: fields, ReadsBack field.2)
    (writable : ∀ field ∈ first :: fields, field.2.isWritable = true)
    (deep : ∀ field ∈ first :: fields, field.2.depth ≤ levels)
    (bound offset : Nat)
    (enough : 2 * (layout level first.2 ++ moreFields level fields).length + 1 ≤ bound) :
    (fieldsFrom bound levels
        ⟨fieldStart first.1 ++
          (layout level first.2 ++
            (moreFields level fields ++ (lineStart outer ++ .scalar '\x7d' :: after))),
          offset⟩).Yields
      ((first.1.paired, first.2.reread) :: Value.rereadFields fields) after := by
  induction fields generalizing first bound offset with
  | nil =>
    obtain ⟨less, rfl⟩ : ∃ less, bound = less + 1 := ⟨bound - 1, by omega⟩
    rw [List.forall_mem_singleton] at each writable deep
    rw [moreFields, List.append_nil] at enough
    have short : 2 * (layout level first.2).length ≤ less := by omega
    rcases field_reads level levels first.1 (lineStart outer ++ .scalar '\x7d' :: after) each
      writable deep short (closes_lineStart outer _) offset with
      ⟨colon, between, named, reads⟩
    have solid : (CodePoint.scalar '\x7d').isIn isSpace = false := rfl
    rcases skipSpaces_lineStart solid outer after between with ⟨later, ends⟩
    rw [fieldStart_append]
    exact fieldsFrom_of_last named reads ends
  | cons second others ih =>
    obtain ⟨less, rfl⟩ : ∃ less, bound = less + 1 := ⟨bound - 1, by omega⟩
    rw [List.forall_mem_cons] at each writable deep
    have line : (lineStart level).length = 2 * level + 1 := by simp [lineStart_eq]
    simp only [moreFields, List.length_append, List.length_cons, line] at enough
    let later := fieldStart second.1 ++
      (layout level second.2 ++
        (moreFields level others ++ (lineStart outer ++ .scalar '\x7d' :: after)))
    have short : 2 * (layout level first.2).length ≤ less := by omega
    rcases field_reads level levels first.1 (.scalar ',' :: (lineStart level ++ later)) each.1
      writable.1 deep.1 short (closes_comma _) offset with ⟨colon, between, named, reads⟩
    obtain ⟨next, skipped⟩ :
        ∃ next, skipSpaces (lineStart level ++ later) (between + 1) = ⟨later, next⟩ := by
      have solid : (CodePoint.scalar '"').isIn isSpace = false := rfl
      simp only [later, fieldStart_append]
      exact skipSpaces_lineStart solid level _ _
    have remaining :=
      ih each.2 writable.2 deep.2 less next (by rw [List.length_append]; omega)
    rw [moreFields, List.cons_append, List.append_assoc, List.append_assoc, List.append_assoc,
      fieldStart_append]
    exact fieldsFrom_of_more named reads rfl (skipped ▸ remaining)

end

/-! ### Values -/

/-- What is read as a word or a number is read as a value. -/
theorem valueFrom_of_scalar
    {bound levels offset : Nat}
    {text rest : Text}
    {value : Value}
    (positive : 0 < bound)
    (yields : (scalar ⟨text, offset⟩).Yields value rest) :
    (valueFrom bound levels ⟨text, offset⟩).Yields value rest := by
  rcases yields with ⟨last, reads⟩
  obtain ⟨less, rfl⟩ : ∃ less, bound = less + 1 := ⟨bound - 1, by omega⟩
  unfold valueFrom
  dsimp only
  split
  · cases reads
  · cases reads
  · cases reads
  · cases reads
  · cases reads
  · exact ⟨last, reads⟩

/-- What is written as a word or a number reads back as a value. -/
theorem readsBack_of_scalar
    {value : Value}
    (reads :
      value.isWritable = true →
        ∀ (level : Nat) (rest : Text) (offset : Nat), Closes rest →
          (scalar ⟨layout level value ++ rest, offset⟩).Yields value.reread rest) :
    ReadsBack value := by
  intro level bound levels offset rest writable _ enough closes
  refine valueFrom_of_scalar ?_ (reads writable level rest offset closes)
  have given : layout level value ≠ [] := by
    intro none
    rcases reads writable level [] offset nofun with ⟨_, impossible⟩
    rw [none] at impossible
    cases impossible
  have positive := List.length_pos_iff.mpr given
  omega

theorem readsBack_text (content : Text) : ReadsBack (.text content) := by
  intro level bound levels offset rest _ _ enough _
  rw [layout, ofString_writeText, List.length_cons] at enough
  obtain ⟨less, rfl⟩ : ∃ less, bound = less + 1 := ⟨bound - 1, by omega⟩
  rcases stringFrom_escaped content rest offset (offset + 1) with ⟨last, reads⟩
  refine ⟨last, ?_⟩
  rw [layout, ofString_writeText, List.cons_append, List.append_assoc, List.singleton_append]
  unfold valueFrom
  simp only [reads]
  rfl

section

variable
  {bound levels offset : Nat}
  {rest more after : Text}
  {point : CodePoint}
  {later : Nat}
  (opens : skipSpaces rest (offset + 1) = ⟨point :: more, later⟩)

include opens

theorem valueFrom_of_items
    {items : List Value}
    (filled : point ≠ .scalar ']')
    (reads : (itemsFrom bound levels ⟨point :: more, later⟩).Yields items after) :
    (valueFrom (bound + 1) (levels + 1) ⟨.scalar '[' :: rest, offset⟩).Yields (.list items)
      after := by
  rcases reads with ⟨last, reads⟩
  refine ⟨last, ?_⟩
  unfold valueFrom
  simp only [opens]
  split
  next equal => exact absurd (List.cons.inj equal).1 filled
  · simp only [reads]

theorem valueFrom_of_fields
    {fields : List (Text × Value)}
    (filled : point ≠ .scalar '\x7d')
    (reads : (fieldsFrom bound levels ⟨point :: more, later⟩).Yields fields after) :
    (valueFrom (bound + 1) (levels + 1) ⟨.scalar '\x7b' :: rest, offset⟩).Yields
      (.object (Table.ofPairs fields)) after := by
  rcases reads with ⟨last, reads⟩
  refine ⟨last, ?_⟩
  unfold valueFrom
  simp only [opens]
  split
  next equal => exact absurd (List.cons.inj equal).1 filled
  · simp only [reads]

end

theorem depth_le_of_mem_items {items : List Value} {item : Value} (member : item ∈ items) :
    item.depth ≤ Value.itemsDepth items := by
  induction items with
  | nil => cases member
  | cons first rest ih =>
    rw [Value.itemsDepth]
    rcases List.mem_cons.mp member with rfl | later
    · exact Nat.le_max_left _ _
    · exact Nat.le_trans (ih later) (Nat.le_max_right _ _)

theorem depth_le_of_mem_fields
    {fields : List (Text × Value)}
    {field : Text × Value}
    (member : field ∈ fields) :
    field.2.depth ≤ Value.fieldsDepth fields := by
  induction fields with
  | nil => cases member
  | cons first rest ih =>
    rcases first with ⟨name, value⟩
    rw [Value.fieldsDepth]
    rcases List.mem_cons.mp member with rfl | later
    · exact Nat.le_max_left _ _
    · exact Nat.le_trans (ih later) (Nat.le_max_right _ _)

theorem readsBack_list
    {items : List Value}
    (each : ∀ item ∈ items, ReadsBack item) :
    ReadsBack (.list items) := by
  intro level bound levels offset rest writable deep enough _
  rw [Value.isWritable, Value.itemsAreWritable_iff] at writable
  rw [Value.depth] at deep
  obtain ⟨inner, rfl⟩ : ∃ inner, levels = inner + 1 := ⟨levels - 1, by omega⟩
  have inside (item : Value) (member : item ∈ items) : item.depth ≤ inner :=
    Nat.le_trans (depth_le_of_mem_items member) (Nat.le_of_succ_le_succ deep)
  cases items with
  | nil =>
    obtain ⟨less, rfl⟩ : ∃ less, bound = less + 1 := ⟨bound - 1, by
      have length : (layout level (.list [])).length = 2 := rfl
      omega⟩
    exact ⟨_, rfl⟩
  | cons item others =>
    rcases (each item List.mem_cons_self).solid (writable item List.mem_cons_self) (level + 1)
      with ⟨point, more, starts, solid, filled, _⟩
    rw [layout] at enough ⊢
    simp only [List.length_cons, List.length_append] at enough
    obtain ⟨less, rfl⟩ : ∃ less, bound = less + 1 := ⟨bound - 1, by omega⟩
    let body := layout (level + 1) item ++
      (moreItems (level + 1) others ++ (lineStart level ++ .scalar ']' :: rest))
    obtain ⟨front, body_eq⟩ : ∃ front, body = point :: front := by
      simp only [body, starts, List.cons_append]
      exact ⟨_, rfl⟩
    rcases skipSpaces_lineStart solid (level + 1) front (offset + 1) with ⟨later, opens⟩
    have short :
        2 * (layout (level + 1) item ++ moreItems (level + 1) others).length + 1 ≤ less := by
      rw [List.length_append]
      omega
    have reads := itemsFrom_layout (level + 1) level inner rest each writable inside less later short
    have text :
        .scalar '[' ::
            (lineStart (level + 1) ++
              (layout (level + 1) item ++
                (moreItems (level + 1) others ++ (lineStart level ++ [.scalar ']'])))) ++
            rest =
          .scalar '[' :: (lineStart (level + 1) ++ body) := by
      simp [body]
    rw [text, body_eq]
    refine valueFrom_of_items opens filled ?_
    rw [← body_eq]
    exact reads

theorem readsBack_object
    {fields : List (Text × Value)}
    (each : ∀ field ∈ fields, ReadsBack field.2) :
    ReadsBack (.object fields) := by
  intro level bound levels offset rest writable deep enough _
  rw [Value.isWritable, Value.fieldsAreWritable_iff] at writable
  rw [Value.depth] at deep
  obtain ⟨inner, rfl⟩ : ∃ inner, levels = inner + 1 := ⟨levels - 1, by omega⟩
  have inside (field : Text × Value) (member : field ∈ fields) : field.2.depth ≤ inner :=
    Nat.le_trans (depth_le_of_mem_fields member) (Nat.le_of_succ_le_succ deep)
  cases fields with
  | nil =>
    obtain ⟨less, rfl⟩ : ∃ less, bound = less + 1 := ⟨bound - 1, by
      have length : (layout level (.object [])).length = 2 := rfl
      omega⟩
    exact ⟨_, rfl⟩
  | cons field others =>
    rcases field with ⟨name, value⟩
    rw [layout] at enough ⊢
    simp only [List.length_cons, List.length_append] at enough
    obtain ⟨less, rfl⟩ : ∃ less, bound = less + 1 := ⟨bound - 1, by omega⟩
    let body := layout (level + 1) value ++
      (moreFields (level + 1) others ++ (lineStart level ++ .scalar '\x7d' :: rest))
    have solid : (CodePoint.scalar '"').isIn isSpace = false := rfl
    rcases skipSpaces_lineStart solid (level + 1)
      (escaped name ++ .scalar '"' :: .scalar ':' :: .scalar ' ' :: body) (offset + 1) with
      ⟨later, opens⟩
    have short :
        2 * (layout (level + 1) value ++ moreFields (level + 1) others).length + 1 ≤ less := by
      rw [List.length_append]
      omega
    have reads := fieldsFrom_layout (level + 1) level inner rest each writable inside less later short
    have text :
        .scalar '\x7b' ::
            (lineStart (level + 1) ++
              (fieldStart name ++
                (layout (level + 1) value ++
                  (moreFields (level + 1) others ++ (lineStart level ++ [.scalar '\x7d']))))) ++
            rest =
          .scalar '\x7b' :: (lineStart (level + 1) ++ (fieldStart name ++ body)) := by
      simp [body]
    rw [text, fieldStart_append]
    refine valueFrom_of_fields opens (by decide) ?_
    rw [← fieldStart_append]
    exact reads

theorem sizeOf_lt_of_mem_fields
    {fields : List (Text × Value)}
    {field : Text × Value}
    (member : field ∈ fields) :
    sizeOf field.2 < sizeOf fields := by
  rcases field with ⟨name, value⟩
  have smaller := List.sizeOf_lt_of_mem member
  rw [Prod.mk.sizeOf_spec] at smaller
  dsimp only
  omega

/-- Every value that is written to its end reads back. -/
theorem readsBack : ∀ value : Value, ReadsBack value
  | .null =>
    readsBack_of_scalar fun _ _ rest offset _ =>
      have known : ((("null" : Text), .null) : Text × Value) ∈ words := by simp [words]
      scalar_word known rest offset
  | .bool true =>
    readsBack_of_scalar fun _ _ rest offset _ =>
      have known : ((("true" : Text), .bool true) : Text × Value) ∈ words := by simp [words]
      scalar_word known rest offset
  | .bool false =>
    readsBack_of_scalar fun _ _ rest offset _ =>
      have known : ((("false" : Text), .bool false) : Text × Value) ∈ words := by simp [words]
      scalar_word known rest offset
  | .int _ => readsBack_of_scalar fun writable _ _ offset closes => scalar_int closes writable offset
  | .real number => readsBack_of_scalar fun _ _ _ offset closes => scalar_real closes number offset
  | .text content => readsBack_text content
  | .list items => readsBack_list fun item _ => readsBack item
  | .object fields =>
    readsBack_object fun field member =>
      have _ := sizeOf_lt_of_mem_fields member
      readsBack field.2

/-! ## Whole texts -/

/-- What is written of a value to its end reads back, with enough nesting. -/
theorem read_write
    {value : Value}
    (whole : (write value).whole = true)
    {nesting : Nat}
    (deep : value.depth ≤ nesting) :
    read nesting (write value).text = .ok value.reread := by
  rw [whole_write] at whole
  have text : Text.ofString (write value).text = layout 0 value := text_writeAt 0 "" value whole
  have reads :=
    readsBack value 0 (2 * (layout 0 value).length + 2) nesting 0 [] whole deep (by omega) nofun
  rw [List.append_nil] at reads
  rcases solid_of_yields reads with ⟨point, more, starts, solid, _, unmarked⟩
  rcases reads with ⟨last, reads⟩
  rw [starts] at reads
  have wholeRead : readWhole nesting (layout 0 value) = .ok value.reread := by
    rw [starts]
    unfold readWhole
    split
    next equal => exact absurd (List.cons.inj equal).1 unmarked
    · rw [skipSpaces_of_solid solid, reads]
      rfl
  rw [text, read, wholeRead]

end Json

end RunnerFleet
