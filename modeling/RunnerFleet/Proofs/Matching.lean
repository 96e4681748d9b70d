import Mathlib.Data.List.TakeWhile
import RunnerFleet.Label

/-!
# Requirements contained in what is offered

A label that a job requires is met by an offered label that is the same, and under the schema
matcher also by one that puts a colon and a schema after it.  What is required need not be a
text, and what is no text is met by no label.

A job is accepted if every label that it requires is met by some offered one.  So it matters
which labels are required and offered, but not how often or in which order; more that is
offered can only help, and more that is required can only hurt.
-/

namespace RunnerFleet

/-! ## Names of labels -/

namespace Label

/-- The colon, which stands between the name of a label and its schema. -/
def colon : CodePoint :=
  .scalar ':'

theorem bne_colon_of_mem {label : Text} (plain : colon ∉ label) :
    ∀ point ∈ label, (point != colon) = true := by
  intro point member
  rw [bne_iff_ne]
  rintro rfl
  exact plain member

/-- A label without a colon is its own name. -/
theorem name_of_notMem {label : Text} (plain : colon ∉ label) : name label = label :=
  List.takeWhile_eq_self_iff.mpr (bne_colon_of_mem plain)

/-- What stands before the first colon is the name. -/
theorem name_append_colon {label : Text} (plain : colon ∉ label) (schema : Text) :
    name (label ++ colon :: schema) = label := by
  change (label ++ colon :: schema).takeWhile (· != colon) = label
  rw [List.takeWhile_append_of_pos (bne_colon_of_mem plain),
    List.takeWhile_cons_of_neg (by simp), List.append_nil]

/-- A label has a name exactly if the name holds no colon, and the label is the name or goes on
after it with a colon. -/
theorem name_eq_iff {label text : Text} :
    name label = text ↔
      colon ∉ text ∧ (label = text ∨ ∃ schema, label = text ++ colon :: schema) := by
  constructor
  · rintro rfl
    by_cases held : colon ∈ label
    · -- The label is taken apart at its first colon.
      rcases List.eq_append_cons_of_mem held with ⟨first, schema, rfl, plain⟩
      rw [name_append_colon plain]
      exact ⟨plain, .inr ⟨schema, rfl⟩⟩
    · rw [name_of_notMem held]
      exact ⟨held, .inl rfl⟩
  · rintro ⟨plain, rfl | ⟨schema, rfl⟩⟩
    · exact name_of_notMem plain
    · exact name_append_colon plain schema

/-- An offered label meets a requirement: it is the required label, or the required one is a
text without a colon that it continues with a colon and a schema. -/
inductive Meets (offered : Text) : Value → Prop where
  | same : Meets offered (.text offered)
  | named
      {required schema : Text}
      (plain : colon ∉ required)
      (split : offered = required ++ colon :: schema) :
      Meets offered (.text required)

end Label

namespace Matcher

/-! ## One label -/

theorem exact_provides_iff {required : Value} {offered : Text} :
    exact.provides required offered = true ↔ required = .text offered := by
  cases required with
  | text label => simp [provides]
  | null | bool | int | real | list | object => simp [provides]

theorem schema_provides_iff {required : Value} {offered : Text} :
    schema.provides required offered = true ↔ Label.Meets offered required := by
  cases required with
  | text label =>
    simp only [provides, Bool.or_eq_true, beq_iff_eq, Label.name_eq_iff]
    constructor
    · rintro (rfl | ⟨plain, rfl | ⟨schema, split⟩⟩)
      · exact .same
      · exact .same
      · exact .named plain split
    · rintro (_ | ⟨plain, split⟩)
      · exact .inl rfl
      · exact .inr ⟨plain, .inr ⟨_, split⟩⟩
  | null | bool | int | real | list | object =>
    simp only [provides, Bool.false_eq_true, false_iff]
    nofun

/-- A required label without a colon is provided by the labels of which it is the name. -/
theorem schema_provides_plain_iff
    {required offered : Text}
    (plain : Label.colon ∉ required) :
    schema.provides (.text required) offered = true ↔ Label.name offered = required := by
  simp only [provides, Bool.or_eq_true, beq_iff_eq, or_iff_right_iff_imp]
  rintro rfl
  exact Label.name_of_notMem plain

/-! ## All labels -/

variable {matcher : Matcher} {required others : List Value} {offered offers : List Text}

theorem accepts_iff :
    matcher.accepts required offered = true ↔
      ∀ label ∈ required, ∃ other ∈ offered, matcher.provides label other = true := by
  simp only [accepts, List.all_eq_true, List.any_eq_true]

/-- Fewer requirements are accepted where more is offered. -/
theorem accepts_mono
    (fewer : required ⊆ others)
    (more : offered ⊆ offers)
    (accepted : matcher.accepts others offered = true) :
    matcher.accepts required offers = true := by
  rw [accepts_iff] at accepted ⊢
  intro label member
  rcases accepted label (fewer member) with ⟨other, among, provided⟩
  exact ⟨other, more among, provided⟩

theorem accepts_congr
    (same : ∀ label, label ∈ required ↔ label ∈ others)
    (alike : ∀ label, label ∈ offered ↔ label ∈ offers) :
    matcher.accepts required offered = matcher.accepts others offers := by
  rw [Bool.eq_iff_iff]
  constructor
  · exact accepts_mono (fun label => (same label).mpr) (fun label => (alike label).mp)
  · exact accepts_mono (fun label => (same label).mp) (fun label => (alike label).mpr)

/-- The schema matcher accepts exactly the jobs whose requirements are contained in what is
offered.

Each required label has to be met by an offered one, so that only the sets of labels count.
Offering more turns no acceptance into a refusal, requiring more turns no refusal into an
acceptance, and requirements may be examined in two parts.  What the exact matcher accepts is
accepted as well, and the two matchers agree where no offered label holds a colon. -/
theorem requirements_contained
    (required others : List Value)
    (offered offers : List Text) :
    (schema.accepts required offered = true ↔
        ∀ label ∈ required, ∃ other ∈ offered, Label.Meets other label) ∧
      ((∀ label, label ∈ required ↔ label ∈ others) →
        (∀ label, label ∈ offered ↔ label ∈ offers) →
          schema.accepts required offered = schema.accepts others offers) ∧
      (offered ⊆ offers →
        schema.accepts required offered = true → schema.accepts required offers = true) ∧
      (required ⊆ others →
        schema.accepts required offered = false → schema.accepts others offered = false) ∧
      schema.accepts (required ++ others) offered =
        (schema.accepts required offered && schema.accepts others offered) ∧
      (exact.accepts required offered = true → schema.accepts required offered = true) ∧
      ((∀ label ∈ offered, Label.colon ∉ label) →
        schema.accepts required offered = exact.accepts required offered) := by
  have contained (needs : List Value) :
      schema.accepts needs offered = true ↔
        ∀ label ∈ needs, ∃ other ∈ offered, Label.Meets other label := by
    simp only [accepts_iff, schema_provides_iff]
  have identical :
      exact.accepts required offered = true ↔
        ∀ label ∈ required, ∃ other ∈ offered, label = .text other := by
    simp only [accepts_iff, exact_provides_iff]
  refine ⟨contained required, accepts_congr, accepts_mono (List.Subset.refl _), ?more, ?parts,
    ?looser, ?agree⟩
  case more =>
    intro subset refused
    rw [← Bool.not_eq_true] at refused ⊢
    exact mt (accepts_mono subset (List.Subset.refl _)) refused
  case parts => exact List.all_append
  case looser =>
    rw [contained, identical]
    intro accepted label member
    rcases accepted label member with ⟨other, among, rfl⟩
    exact ⟨other, among, .same⟩
  case agree =>
    intro plain
    rw [Bool.eq_iff_iff, contained, identical]
    refine forall₂_congr fun label _ => exists_congr fun other => and_congr_right fun among => ?_
    constructor
    · intro met
      cases met with
      | same => rfl
      | named _ split =>
        have held : Label.colon ∈ other := by simp [split]
        exact absurd held (plain other among)
    · rintro rfl
      exact .same

/-- Labels that are repeated and offered in another order meet the same requirements, one of
them a name before two colons and one of them an empty name. -/
theorem requirements_contained_reordered :
    let required : List Value := [.text "ubuntu", .text ""]
    let others : List Value := [.text "", .text "ubuntu", .text ""]
    let offered : List Text := ["ubuntu:docker://node:16", ":latest"]
    let offers : List Text := [":latest", "ubuntu:docker://node:16", ":latest"]
    (∀ label, label ∈ required ↔ label ∈ others) ∧
      (∀ label, label ∈ offered ↔ label ∈ offers) ∧
      schema.accepts required offered = true ∧ schema.accepts others offers = true := by
  intro required others offered offers
  have same (label : Value) : label ∈ required ↔ label ∈ others := by
    simp [required, others, or_comm]
  have alike (label : Text) : label ∈ offered ↔ label ∈ offers := by
    simp [offered, offers, or_comm]
  have accepted : schema.accepts required offered = true := by decide +kernel
  have unchanged := (requirements_contained required others offered offers).2.1 same alike
  exact ⟨same, alike, accepted, unchanged.symm.trans accepted⟩

/-- A requirement with a colon is not met by a label that goes on after it, and a number is not
met by its digits. -/
example :
    schema.accepts [.text "ubuntu:docker"] ["ubuntu:docker://node:16"] = false ∧
      schema.accepts [.int 1] ["1"] = false := by
  decide +kernel

end Matcher

end RunnerFleet
