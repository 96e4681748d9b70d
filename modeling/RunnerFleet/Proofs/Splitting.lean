import RunnerFleet.Label

/-!
# Splitting and joining

The stretches of a text between its separators hold no separator.  So parts that were joined
are told apart again exactly if none of them holds the separator.

For labels this is a matter of commas.  The labels of a text that was split at its commas hold
none, and a merge holds nothing but the labels that are merged.
-/

namespace RunnerFleet

/-! ## Stretches -/

namespace Text

variable {Item : Type} [DecidableEq Item] {separator : Item}

theorem stretches_eq_splitOn (separator : Item) (items : List Item) :
    stretches separator items = items.splitOn separator := by
  induction items with
  | nil => rw [List.splitOn_nil, stretches]
  | cons item rest ih =>
    rw [stretches, ih, List.splitOn_cons_eq_if_modifyHead]
    by_cases same : item = separator
    · rw [if_pos same, if_pos (beq_iff_eq.mpr same)]
    · rw [if_neg same, if_neg (by simpa using same)]
      cases split : rest.splitOn separator with
      | nil => exact absurd split (List.splitOn_ne_nil separator rest)
      | cons first others => rfl

/-- No stretch holds the separator. -/
theorem notMem_of_mem_stretches
    {items stretch : List Item}
    (member : stretch ∈ stretches separator items) :
    separator ∉ stretch := by
  induction items generalizing stretch with
  | nil =>
    rw [stretches, List.mem_singleton] at member
    rw [member]
    exact List.not_mem_nil
  | cons item rest ih =>
    rw [stretches] at member
    split at member
    · rcases List.mem_cons.mp member with rfl | later
      · exact List.not_mem_nil
      · exact ih later
    next differs =>
      split at member
      next none =>
        rw [stretches_eq_splitOn] at none
        exact absurd none (List.splitOn_ne_nil separator rest)
      next first others split =>
        rw [split] at ih
        rcases List.mem_cons.mp member with rfl | later
        · rw [List.mem_cons, not_or]
          exact ⟨Ne.symm differs, ih List.mem_cons_self⟩
        · exact ih (List.mem_cons_of_mem _ later)

/-- Parts that were joined are told apart again exactly if none of them holds the separator. -/
theorem stretches_intercalate_iff
    {parts : List (List Item)}
    (nonempty : parts ≠ []) :
    stretches separator ([separator].intercalate parts) = parts ↔
      ∀ part ∈ parts, separator ∉ part := by
  constructor
  · intro same part member
    rw [← same] at member
    exact notMem_of_mem_stretches member
  · intro free
    rw [stretches_eq_splitOn]
    exact List.splitOn_intercalate separator free nonempty

/-- What holds no separator is added to the last stretch. -/
theorem stretches_append (separator : Item) (items : List Item) :
    ∃ before last,
      stretches separator items = before ++ [last] ∧
        ∀ suffix, separator ∉ suffix →
          stretches separator (items ++ suffix) = before ++ [last ++ suffix] := by
  simp only [stretches_eq_splitOn]
  by_cases held : separator ∈ items
  · rcases List.eq_append_cons_of_mem (List.mem_reverse.mpr held) with
      ⟨last, before, split, free⟩
    have whole : items = before.reverse ++ separator :: last.reverse := by
      simpa using congrArg List.reverse split
    have apart (suffix : List Item) (unseparated : separator ∉ suffix) :
        separator ∉ last.reverse ++ suffix := by
      simp [free, unseparated]
    refine ⟨before.reverse.splitOn separator, last.reverse, ?_, fun suffix unseparated => ?_⟩
    · have own := apart [] List.not_mem_nil
      rw [List.append_nil] at own
      rw [whole, List.splitOn_append_cons_self, List.splitOn_eq_singleton own]
    · rw [whole, List.append_assoc, List.cons_append, List.splitOn_append_cons_self,
        List.splitOn_eq_singleton (apart suffix unseparated)]
  · exact ⟨[], items, List.splitOn_eq_singleton held, fun suffix unseparated =>
      List.splitOn_eq_singleton (by simp [held, unseparated])⟩

omit [DecidableEq Item] in
/-- Trimming adds nothing. -/
theorem mem_of_mem_trimWhere
    {blank : Item → Bool}
    {items : List Item}
    {item : Item}
    (member : item ∈ trimWhere blank items) :
    item ∈ items := by
  rw [trimWhere, List.mem_reverse] at member
  have inner := (List.dropWhile_sublist blank).subset member
  rw [List.mem_reverse] at inner
  exact (List.dropWhile_sublist blank).subset inner

end Text

/-! ## Labels -/

namespace Label

/-- The comma, which stands between labels. -/
def comma : CodePoint :=
  .scalar ','

theorem joined_comma (labels : List Text) :
    Text.joined "," labels = [comma].intercalate labels :=
  rfl

/-- The labels that are read from a text hold no comma. -/
theorem comma_notMem_of_mem_parse
    {text label : Text}
    (member : label ∈ parse text) :
    comma ∉ label := by
  rw [parse, List.mem_filter, List.mem_map] at member
  rcases member with ⟨⟨stretch, among, rfl⟩, _⟩
  intro held
  exact Text.notMem_of_mem_stretches among (Text.mem_of_mem_trimWhere held)

theorem mem_adjoin {labels : List Text} {label other : Text} :
    label ∈ adjoin labels other ↔ label ∈ labels ∨ label = other := by
  rw [adjoin]
  split
  next known =>
    have known := List.contains_iff_mem.mp known
    constructor
    · exact .inl
    · rintro (member | rfl)
      · exact member
      · exact known
  · rw [List.mem_append, List.mem_singleton]

theorem mem_foldl_adjoin {labels others : List Text} {label : Text} :
    label ∈ others.foldl adjoin labels ↔ label ∈ labels ∨ label ∈ others := by
  induction others generalizing labels with
  | nil => simp
  | cons other rest ih => rw [List.foldl_cons, ih, mem_adjoin, List.mem_cons, or_assoc]

/-- A merge holds the declared labels and those defaults whose name none of them has. -/
theorem mem_merge {declared defaults : List Text} {label : Text} :
    label ∈ merge declared defaults ↔
      label ∈ declared ∨ label ∈ defaults ∧ ∀ other ∈ declared, name other ≠ name label := by
  simp [merge, mem_foldl_adjoin]

/-- Merged labels that are joined are told apart again exactly if no declared label holds a
comma, provided that no default does. -/
theorem stretches_joined_merge
    {declared defaults : List Text}
    (free : ∀ label ∈ defaults, comma ∉ label)
    (nonempty : merge declared defaults ≠ []) :
    Text.stretches comma (Text.joined "," (merge declared defaults)) = merge declared defaults ↔
      ∀ label ∈ declared, comma ∉ label := by
  rw [joined_comma, Text.stretches_intercalate_iff nonempty]
  constructor
  · intro all label member
    exact all label (mem_merge.mpr (.inl member))
  · intro own label member
    rcases mem_merge.mp member with declared | ⟨default, _⟩
    · exact own label declared
    · exact free label default

/-- A label with a comma comes apart. -/
example :
    let labels : List Text := ["linux,x64"]
    Text.stretches comma (Text.joined "," labels) ≠ labels := by
  decide

end Label

end RunnerFleet
