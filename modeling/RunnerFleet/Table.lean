/-!
# Ordered tables

A table is a list of pairs with distinct keys.  Putting a value under a known
key replaces the value and keeps the key's place; a new key goes to the end.
-/

namespace RunnerFleet.Table

variable {Name Content : Type} [BEq Name]

/-- Put a value under a key. -/
def put (name : Name) (content : Content) : List (Name × Content) → List (Name × Content)
  | [] => [(name, content)]
  | (other, old) :: rest =>
    if other == name then (other, content) :: rest
    else (other, old) :: put name content rest

/-- The table of a list of pairs: of several pairs with one key the last value
counts, at the place of the first. -/
def ofPairs (pairs : List (Name × Content)) : List (Name × Content) :=
  pairs.foldl (fun table pair => put pair.1 pair.2 table) []

/-- Remove a key. -/
def drop (name : Name) (table : List (Name × Content)) : List (Name × Content) :=
  table.filter fun pair => !(pair.1 == name)

/-- What holds of all contents still holds after one of which it holds was put. -/
theorem forall_content_put
    (holds : Content → Prop)
    {name : Name}
    {content : Content}
    {table : List (Name × Content)}
    (own : holds content)
    (all : ∀ pair ∈ table, holds pair.2) :
    ∀ pair ∈ put name content table, holds pair.2 := by
  induction table with
  | nil => exact List.forall_mem_singleton.mpr own
  | cons pair rest ih =>
    rcases pair with ⟨other, old⟩
    rcases List.forall_mem_cons.mp all with ⟨first, others⟩
    rw [put]
    split
    · exact List.forall_mem_cons.mpr ⟨own, others⟩
    · exact List.forall_mem_cons.mpr ⟨first, ih others⟩

/-- What holds of the contents of all pairs holds of the contents of their table. -/
theorem forall_content_ofPairs
    (holds : Content → Prop)
    {pairs : List (Name × Content)}
    (all : ∀ pair ∈ pairs, holds pair.2) :
    ∀ pair ∈ ofPairs pairs, holds pair.2 := by
  have grown (table : List (Name × Content)) (start : ∀ pair ∈ table, holds pair.2) :
      ∀ pair ∈ pairs.foldl (fun table pair => put pair.1 pair.2 table) table,
        holds pair.2 := by
    induction pairs generalizing table with
    | nil => exact start
    | cons pair rest ih =>
      rcases List.forall_mem_cons.mp all with ⟨first, others⟩
      exact ih others _ (forall_content_put holds first start)
  exact grown [] (List.forall_mem_nil _)

/-- Looking up the key just put finds the new value. -/
theorem lookup_put_self
    [LawfulBEq Name]
    (name : Name)
    (content : Content)
    (table : List (Name × Content)) :
    (put name content table).lookup name = some content := by
  induction table with
  | nil => simp [put]
  | cons pair rest ih =>
    obtain ⟨other, old⟩ := pair
    by_cases same : other = name
    · subst same
      simp [put]
    · have different : (name == other) = false := by
        simpa using fun equal => same equal.symm
      have kept : (other == name) = false := by simpa using same
      simp [put, kept, List.lookup_cons, different, ih]

/-- Looking up any other key finds what was there before. -/
theorem lookup_put_of_ne
    [LawfulBEq Name]
    {name query : Name}
    (different : query ≠ name)
    (content : Content)
    (table : List (Name × Content)) :
    (put name content table).lookup query = table.lookup query := by
  induction table with
  | nil =>
    have unequal : (query == name) = false := by simpa using different
    simp [put, List.lookup_cons, unequal]
  | cons pair rest ih =>
    obtain ⟨other, old⟩ := pair
    by_cases same : other = name
    · subst same
      have unequal : (query == other) = false := by simpa using different
      simp [put, List.lookup_cons, unequal]
    · have kept : (other == name) = false := by simpa using same
      by_cases found : query = other
      · subst found
        simp [put, kept]
      · have unequal : (query == other) = false := by simpa using found
        simp [put, kept, List.lookup_cons, unequal, ih]

/-- Looking up any key but a removed one finds what was there before. -/
theorem lookup_drop_of_ne
    [LawfulBEq Name]
    {name query : Name}
    (differs : query ≠ name)
    (table : List (Name × Content)) :
    (drop name table).lookup query = table.lookup query := by
  induction table with
  | nil => rfl
  | cons pair rest ih =>
    rcases pair with ⟨other, content⟩
    rw [drop] at ih ⊢
    by_cases dropped : other = name
    · subst dropped
      have unequal : (query == other) = false := by simpa using differs
      simp [List.lookup_cons, unequal, ih]
    · have kept : (other == name) = false := by simpa using dropped
      simp [List.lookup_cons, kept, ih]

theorem lookup_of_notMem
    [LawfulBEq Name]
    {name : Name}
    {table : List (Name × Content)}
    (unknown : name ∉ table.map (·.1)) :
    table.lookup name = none := by
  rw [List.lookup_eq_none_iff]
  intro pair member
  have differs : name ≠ pair.1 := by
    rintro rfl
    exact unknown (List.mem_map_of_mem member)
  simpa using differs

/-- A removed key is not found. -/
theorem lookup_drop_self
    [LawfulBEq Name]
    (name : Name)
    (table : List (Name × Content)) :
    (drop name table).lookup name = none := by
  apply lookup_of_notMem
  intro known
  rcases List.mem_map.mp known with ⟨pair, member, same⟩
  simp [drop, same] at member

/-! ## Keys -/

section

variable [LawfulBEq Name]

theorem exists_lookup_of_mem
    {name : Name}
    {table : List (Name × Content)}
    (known : name ∈ table.map (·.1)) :
    ∃ content, table.lookup name = some content := by
  induction table with
  | nil => cases known
  | cons pair rest ih =>
    rcases pair with ⟨other, content⟩
    rw [List.lookup_cons]
    cases same : name == other with
    | true => exact ⟨content, rfl⟩
    | false =>
      rcases List.mem_cons.mp known with equal | later
      · rw [beq_eq_false_iff_ne] at same
        exact absurd equal same
      · exact ih later

/-- Putting a value under a known key leaves the keys as they were. -/
theorem keys_put_of_mem
    {name : Name}
    {table : List (Name × Content)}
    (known : name ∈ table.map (·.1))
    (content : Content) :
    (put name content table).map (·.1) = table.map (·.1) := by
  induction table with
  | nil => cases known
  | cons pair rest ih =>
    rcases pair with ⟨other, old⟩
    rw [put]
    cases same : other == name with
    | true => rfl
    | false =>
      rcases List.mem_cons.mp known with equal | later
      · rw [beq_eq_false_iff_ne] at same
        exact absurd equal.symm same
      · exact congrArg (other :: ·) (ih later)

/-- A key that is new goes to the end. -/
theorem put_of_notMem
    {name : Name}
    {table : List (Name × Content)}
    (fresh : name ∉ table.map (·.1))
    (content : Content) :
    put name content table = table ++ [(name, content)] := by
  induction table with
  | nil => rfl
  | cons pair rest ih =>
    rcases pair with ⟨other, old⟩
    rw [List.map_cons, List.mem_cons, not_or] at fresh
    rcases fresh with ⟨differs, later⟩
    have unequal : (other == name) = false := by simpa using fun equal => differs equal.symm
    simp only [put, unequal, Bool.false_eq_true, if_false, ih later, List.cons_append]

/-- A key that is known keeps its place. -/
theorem put_append_cons
    {name : Name}
    {before : List (Name × Content)}
    (fresh : name ∉ before.map (·.1))
    (content old : Content)
    (after : List (Name × Content)) :
    put name content (before ++ (name, old) :: after) =
      before ++ (name, content) :: after := by
  induction before with
  | nil => simp [put]
  | cons pair rest ih =>
    rcases pair with ⟨other, kept⟩
    rw [List.map_cons, List.mem_cons, not_or] at fresh
    rcases fresh with ⟨differs, later⟩
    have unequal : (other == name) = false := by simpa using fun equal => differs equal.symm
    simp only [List.cons_append, put, unequal, Bool.false_eq_true, if_false, ih later]

omit [BEq Name] [LawfulBEq Name] in
theorem notMem_of_nodup
    {before after : List (Name × Content)}
    {pair : Name × Content}
    (distinct : ((before ++ pair :: after).map (·.1)).Nodup) :
    pair.1 ∉ before.map (·.1) := by
  rw [List.map_append, List.map_cons, List.nodup_append] at distinct
  intro known
  exact distinct.2.2 _ known _ List.mem_cons_self rfl

theorem foldl_put_of_new
    {before pairs : List (Name × Content)}
    (distinct : ((before ++ pairs).map (·.1)).Nodup) :
    pairs.foldl (fun table pair => put pair.1 pair.2 table) before = before ++ pairs := by
  induction pairs generalizing before with
  | nil => rw [List.foldl_nil, List.append_nil]
  | cons pair rest ih =>
    rw [List.foldl_cons, put_of_notMem (notMem_of_nodup distinct),
      List.append_cons before pair rest]
    rw [List.append_cons before pair rest] at distinct
    exact ih distinct

/-- Pairs with different keys are a table already. -/
theorem ofPairs_of_nodup
    {pairs : List (Name × Content)}
    (distinct : (pairs.map (·.1)).Nodup) :
    ofPairs pairs = pairs :=
  foldl_put_of_new distinct

/-- Of pairs with different keys each is found under its key. -/
theorem lookup_of_mem
    {pairs : List (Name × Content)}
    (distinct : (pairs.map (·.1)).Nodup)
    {pair : Name × Content}
    (member : pair ∈ pairs) :
    pairs.lookup pair.1 = some pair.2 := by
  induction pairs with
  | nil => cases member
  | cons first rest ih =>
    rw [List.map_cons, List.nodup_cons] at distinct
    rcases List.mem_cons.mp member with rfl | later
    · rw [List.lookup_cons, beq_self_eq_true]
    · have differs : pair.1 ≠ first.1 := by
        intro same
        exact distinct.1 (same ▸ List.mem_map_of_mem later)
      rw [List.lookup_cons, beq_eq_false_iff_ne.mpr differs]
      exact ih distinct.2 later

/-- Pairs with different keys that are put into a table cover what was there under their keys,
and nothing else. -/
theorem lookup_foldl_put
    {pairs : List (Name × Content)}
    (distinct : (pairs.map (·.1)).Nodup)
    (table : List (Name × Content))
    (query : Name) :
    (pairs.foldl (fun table pair => put pair.1 pair.2 table) table).lookup query =
      (pairs.lookup query).or (table.lookup query) := by
  induction pairs generalizing table with
  | nil => rfl
  | cons pair rest ih =>
    rw [List.map_cons, List.nodup_cons] at distinct
    rw [List.foldl_cons, ih distinct.2, List.lookup_cons]
    cases same : query == pair.1 with
    | true =>
      obtain rfl : query = pair.1 := eq_of_beq same
      rw [lookup_of_notMem distinct.1, lookup_put_self]
      rfl
    | false => rw [lookup_put_of_ne (ne_of_beq_false same)]

/-- New contents for all keys of a table, in their order, take the places of the old. -/
theorem foldl_put_of_known
    {before pairs table : List (Name × Content)}
    (same : table.map (·.1) = pairs.map (·.1))
    (distinct : ((before ++ pairs).map (·.1)).Nodup) :
    pairs.foldl (fun table pair => put pair.1 pair.2 table) (before ++ table) =
      before ++ pairs := by
  induction pairs generalizing before table with
  | nil => rw [List.map_eq_nil_iff.mp same, List.foldl_nil]
  | cons pair rest ih =>
    rcases table with _ | ⟨⟨name, old⟩, others⟩
    · cases same
    rw [List.map_cons, List.map_cons, List.cons.injEq] at same
    rcases same with ⟨rfl, same⟩
    rw [List.foldl_cons, put_append_cons (notMem_of_nodup distinct),
      List.append_cons before pair others, List.append_cons before pair rest]
    rw [List.append_cons before pair rest] at distinct
    exact ih same distinct

end

end RunnerFleet.Table
