import Mathlib.Data.List.DropRight
import RunnerFleet.Proofs.Registering

/-!
# Labels that a text gives

A text gives its labels with commas between them.  Reading it takes the stretches between the
commas, trims them, and drops those of which nothing is left.  So texts with a comma between
them give the labels of the one and then those of the other, and labels that can be read at
all are read from the text that joins them.

A pool's definition may give its labels as one text.  If it has the right shape otherwise, it
defines a pool with just the labels that are read from the text.
-/

namespace RunnerFleet

/-! ## Trimming -/

namespace Text

/-- Neither the first nor the last item of a list is of a class. -/
structure IsTrimmed {Item : Type} (blank : Item → Bool) (items : List Item) : Prop where
  head : ∀ item ∈ items.head?, blank item = false
  last : ∀ item ∈ items.getLast?, blank item = false

variable {Item : Type} {blank : Item → Bool} {items : List Item}

theorem head?_dropWhile_eq_false :
    ∀ item ∈ (items.dropWhile blank).head?, blank item = false := by
  intro item first
  have stops := List.head?_dropWhile_not blank items
  rw [Option.mem_def.mp first] at stops
  exact stops

theorem isTrimmed_trimWhere (blank : Item → Bool) (items : List Item) :
    IsTrimmed blank (trimWhere blank items) := by
  constructor
  case head =>
    have whole : trimWhere blank items <+: items.dropWhile blank :=
      List.rdropWhile_prefix _ _
    rcases whole with ⟨trimmed, split⟩
    intro item first
    have still : item ∈ (items.dropWhile blank).head? := by
      rw [← split, List.head?_append, Option.mem_def.mp first]
      rfl
    exact head?_dropWhile_eq_false item still
  case last =>
    rw [trimWhere, List.getLast?_reverse]
    exact head?_dropWhile_eq_false

theorem IsTrimmed.reverse (trimmed : IsTrimmed blank items) :
    IsTrimmed blank items.reverse where
  head := by
    rw [List.head?_reverse]
    exact trimmed.last
  last := by
    rw [List.getLast?_reverse]
    exact trimmed.head

theorem IsTrimmed.dropWhile_eq (trimmed : IsTrimmed blank items) :
    items.dropWhile blank = items := by
  rw [List.dropWhile_eq_self_iff]
  intro filled
  have leads : items.head? = some items[0] := by
    rw [List.head?_eq_getElem?, List.getElem?_eq_getElem filled]
  rw [trimmed.head items[0] leads]
  exact Bool.false_ne_true

/-- Nothing is trimmed off what is trimmed. -/
theorem IsTrimmed.trimWhere_eq (trimmed : IsTrimmed blank items) :
    trimWhere blank items = items := by
  rw [trimWhere, trimmed.dropWhile_eq, trimmed.reverse.dropWhile_eq, List.reverse_reverse]

theorem stretches_append_cons
    [DecidableEq Item]
    (separator : Item)
    (first second : List Item) :
    stretches separator (first ++ separator :: second) =
      stretches separator first ++ stretches separator second := by
  simp only [stretches_eq_splitOn]
  exact List.splitOn_append_cons_self first second

end Text

/-! ## Reading labels -/

namespace Label

/-- A label as a text with commas can give it: it is not empty, holds no comma, and neither
begins nor ends with a blank. -/
structure IsTidy (label : Text) : Prop where
  nonempty : label ≠ []
  whole : comma ∉ label
  trimmed : Text.IsTrimmed (CodePoint.isIn Text.isBlank) label

theorem isTidy_of_mem_parse
    {text label : Text}
    (member : label ∈ parse text) :
    IsTidy label where
  nonempty := by
    have kept := (List.mem_filter.mp member).2
    simpa using kept
  whole := comma_notMem_of_mem_parse member
  trimmed := by
    rcases List.mem_map.mp (List.mem_filter.mp member).1 with ⟨stretch, _, rfl⟩
    exact Text.isTrimmed_trimWhere _ stretch

/-- Labels on both sides of a comma are read apart. -/
theorem parse_append_comma (first second : Text) :
    parse (first ++ comma :: second) = parse first ++ parse second := by
  have apart :
      Text.stretches (.scalar ',') (first ++ comma :: second) =
        Text.stretches (.scalar ',') first ++ Text.stretches (.scalar ',') second :=
    Text.stretches_append_cons comma first second
  rw [parse, apart, List.map_append, List.filter_append]
  rfl

/-- A tidy label is all that is read from it. -/
theorem parse_of_isTidy {label : Text} (tidy : IsTidy label) : parse label = [label] := by
  have single : Text.stretches (.scalar ',') label = [label] := by
    rw [Text.stretches_eq_splitOn]
    exact List.splitOn_eq_singleton tidy.whole
  rw [parse, single, List.map_singleton, tidy.trimmed.trimWhere_eq]
  simpa using tidy.nonempty

/-- Tidy labels are read from the text that joins them. -/
theorem parse_joined
    {labels : List Text}
    (tidy : ∀ label ∈ labels, IsTidy label) :
    parse (Text.joined "," labels) = labels := by
  induction labels with
  | nil => rfl
  | cons label rest ih =>
    rcases List.forall_mem_cons.mp tidy with ⟨first, others⟩
    cases rest with
    | nil =>
      rw [joined_comma, List.intercalate_singleton]
      exact parse_of_isTidy first
    | cons next further =>
      have split :
          Text.joined "," (label :: next :: further) =
            label ++ comma :: Text.joined "," (next :: further) := by
        rw [joined_comma, joined_comma, List.intercalate_cons_cons, List.append_assoc,
          List.singleton_append]
      rw [split, parse_append_comma, parse_of_isTidy first, ih others, List.singleton_append]

end Label

/-! ## Labels of a definition -/

namespace Value

theorem orElse_text_iff {value : Value} {default : Text} :
    (∃ content, value.orElse (.text default) = .text content) ↔
      (value.truthy = true → ∃ content, value = .text content) := by
  rw [orElse]
  split
  next given => simp [given]
  next missing => simp [missing]

end Value

/-- A definition has the right shape, apart from its labels: what it adds to the environment is
an object, its capacity can be read as an integer, and its name, its address and its qualifiers
are texts.  What does not count as given may be of any kind, save for the capacity, the name
and the address, which may only be missing. -/
structure Fields.IsShaped (fields : Fields) : Prop where
  extras :
    (Fields.get fields "env").truthy = true → ∃ added, Fields.get fields "env" = .object added
  capacity :
    ∃ capacity,
      Pool.capacityOf (Fields.getOr fields "name" (.text ""))
          (Fields.getOr fields "max_active_runners" (.int 1)) =
        .ok capacity
  name : ∃ content, Fields.getOr fields "name" (.text "") = .text content
  address : ∃ content, Fields.getOr fields "gitea_url" (.text "") = .text content
  qualifiers :
    ∀ field ∈ ["org", "user", "repo"],
      (Fields.get fields field).truthy = true →
        ∃ content, Fields.get fields field = .text content

namespace Pool

theorem textOf_eq_ok_iff {name value : Value} {field : String} {content : Text} :
    textOf name field value = .ok content ↔ value = .text content := by
  cases value <;> simp [textOf]

theorem exists_extraEnvironmentOf?_iff {value : Value} :
    (∃ extras, extraEnvironmentOf? value = some extras) ↔
      (value.truthy = true → ∃ added, value = .object added) := by
  cases truthy : value.truthy with
  | false => simp [extraEnvironmentOf?, Value.orElse, truthy]
  | true => cases value <;> simp [extraEnvironmentOf?, Value.orElse, truthy]

/-- The labels that a definition gives as one text. -/
theorem labelsOf?_text (content : Text) :
    labelsOf? (.text content) = some (Label.parse content) := by
  -- An empty text does not count as given, and an empty list stands in for it.
  cases content with
  | nil => rfl
  | cons point rest => rfl

/-- A definition whose labels can be read defines a pool exactly if it has the right shape
otherwise. -/
theorem exists_ofValue_iff
    {fields : Fields}
    {labels : List Text}
    (given : labelsOf? (Fields.get fields "labels") = some labels) :
    (∃ pool, ofValue (.object fields) = .ok pool) ↔ fields.IsShaped := by
  cases extras : extraEnvironmentOf? (Fields.get fields "env") with
  | none =>
    simp only [ofValue, given, extras]
    constructor
    · rintro ⟨_, ⟨⟩⟩
    · intro shaped
      rcases exists_extraEnvironmentOf?_iff.mpr shaped.extras with ⟨added, found⟩
      rw [extras] at found
      cases found
  | some environment =>
    simp only [ofValue, given, extras, pure_bind, bind_eq_ok_iff, textOf_eq_ok_iff]
    constructor
    · rintro ⟨_, capacity, integral, name, named, address, located, organisation, first, user,
        second, repository, third, _⟩
      refine ⟨exists_extraEnvironmentOf?_iff.mp ⟨environment, extras⟩, ⟨capacity, integral⟩,
        ⟨name, named⟩, ⟨address, located⟩, ?_⟩
      simp only [List.forall_mem_cons]
      exact ⟨Value.orElse_text_iff.mp ⟨_, first⟩, Value.orElse_text_iff.mp ⟨_, second⟩,
        Value.orElse_text_iff.mp ⟨_, third⟩, List.forall_mem_nil _⟩
    · rintro ⟨_, ⟨capacity, integral⟩, ⟨name, named⟩, ⟨address, located⟩, qualifiers⟩
      have qualifier (field : String) (member : field ∈ ["org", "user", "repo"]) :
          ∃ content, (Fields.get fields field).orElse (.text "") = .text content :=
        Value.orElse_text_iff.mpr (qualifiers field member)
      rcases qualifier "org" (by simp) with ⟨organisation, first⟩
      rcases qualifier "user" (by simp) with ⟨user, second⟩
      rcases qualifier "repo" (by simp) with ⟨repository, third⟩
      exact ⟨_, capacity, integral, name, named, address, located, organisation, first, user,
        second, repository, third, rfl⟩

end Pool

/-! ## Labels as one text -/

namespace Label

/-- Reading labels takes a text apart at its commas and is undone by joining them.

A comma between two texts separates their labels.  Labels that are read are tidy, and tidy
labels are read from the text that joins them, in particular those that were read before.  A
definition that gives its labels as a text defines a pool exactly if it has the right shape
otherwise, and the labels of the pool are those that are read from the text. -/
theorem parse_stable (first second : Text) (labels : List Text) :
    parse (first ++ comma :: second) = parse first ++ parse second ∧
      (∀ label ∈ parse first, IsTidy label) ∧
      ((∀ label ∈ labels, IsTidy label) → parse (Text.joined "," labels) = labels) ∧
      parse (Text.joined "," (parse first)) = parse first ∧
      ∀ fields : Fields,
        Fields.get fields "labels" = .text first →
          ((∃ pool, Pool.ofValue (.object fields) = .ok pool) ↔ fields.IsShaped) ∧
            ∀ pool, Pool.ofValue (.object fields) = .ok pool → pool.labels = parse first := by
  refine ⟨parse_append_comma first second, fun _ => isTidy_of_mem_parse, parse_joined,
    parse_joined fun _ => isTidy_of_mem_parse, ?_⟩
  intro fields given
  have read : Pool.labelsOf? (Fields.get fields "labels") = some (parse first) := by
    rw [given, Pool.labelsOf?_text]
  refine ⟨Pool.exists_ofValue_iff read, ?_⟩
  intro pool defined
  have labels := Pool.labels_of_ofValue defined
  rw [read] at labels
  exact (Option.some.inj labels).symm

/-- A pool that is defined by a text with blanks around its labels and with nothing between two
commas. -/
theorem parse_stable_spaced :
    let text : Text := " linux, x64 ,,docker "
    let labels : List Text := ["linux", "x64", "docker"]
    let fields : Fields :=
      [("name", .text "builders"), ("labels", .text text), ("org", .null),
        ("max_active_runners", .int 2)]
    (∀ label ∈ labels, IsTidy label) ∧
      parse (Text.joined "," labels) = labels ∧
      Fields.get fields "labels" = .text text ∧
      fields.IsShaped ∧
      ∃ pool, Pool.ofValue (.object fields) = .ok pool ∧ pool.labels = labels := by
  intro text labels fields
  have read : parse text = labels := by decide +kernel
  rcases parse_stable text [] labels with ⟨_, tidy, joins, _, defines⟩
  rw [read] at tidy
  have given : Fields.get fields "labels" = .text text := rfl
  have shaped : fields.IsShaped :=
    { extras := nofun
      capacity := ⟨2, rfl⟩
      name := ⟨_, rfl⟩
      address := ⟨_, rfl⟩
      qualifiers := by
        simp only [List.forall_mem_cons]
        exact ⟨nofun, nofun, nofun, List.forall_mem_nil _⟩ }
  rcases (defines fields given).1.mpr shaped with ⟨pool, defined⟩
  exact ⟨tidy, joins tidy, given, shaped, pool, defined,
    ((defines fields given).2 pool defined).trans read⟩

end Label

end RunnerFleet
