import Mathlib.Data.Finset.Basic
import Mathlib.Data.Finset.Dedup
import RunnerFleet.Proofs.Matching
import RunnerFleet.Proofs.Splitting

/-!
# Declared labels before default ones

A merge begins with the declared labels, and goes on with the defaults that they spare: a
default is left out if a declared label has its name.  Both are kept once, where they first
occur.

What is left out is not missed by a job that asks for plain names, since the declared label
that took the place of a default has its name.  A job that asks for the schema of a default
gets it only if the default is spared.
-/

namespace RunnerFleet

namespace Label

/-! ## First occurrences -/

theorem adjoin_eraseDups (labels : List Text) (label : Text) :
    adjoin labels.eraseDups label = (labels ++ [label]).eraseDups := by
  rw [adjoin, List.eraseDups_append]
  by_cases known : label ∈ labels
  · simp [known, List.removeAll]
  · simp [known, List.removeAll, List.eraseDups_cons]

/-- Adding labels one by one keeps the first occurrence of each. -/
theorem foldl_adjoin_eraseDups (labels others : List Text) :
    others.foldl adjoin labels.eraseDups = (labels ++ others).eraseDups := by
  induction others generalizing labels with
  | nil => rw [List.foldl_nil, List.append_nil]
  | cons label rest ih =>
    rw [List.foldl_cons, adjoin_eraseDups, ih, List.append_assoc, List.singleton_append]

theorem nodup_eraseDups (labels : List Text) : labels.eraseDups.Nodup := by
  induction labels using List.reverseRecOn with
  | nil => exact List.nodup_nil
  | append_singleton labels label ih =>
    rw [← adjoin_eraseDups, adjoin]
    split
    · exact ih
    next new =>
      rw [List.contains_iff_mem] at new
      exact ih.append (List.nodup_singleton label) (by simpa using new)

theorem eraseDups_of_nodup {labels : List Text} (distinct : labels.Nodup) :
    labels.eraseDups = labels := by
  induction labels with
  | nil => rfl
  | cons label rest ih =>
    rcases List.nodup_cons.mp distinct with ⟨fresh, others⟩
    have kept : rest.filter (fun other => !other == label) = rest := by
      rw [List.filter_eq_self]
      intro other member
      simp only [Bool.not_eq_true', beq_eq_false_iff_ne]
      rintro rfl
      exact fresh member
    rw [List.eraseDups_cons, kept, ih others]

/-- A repetition of an earlier label changes no first occurrence. -/
theorem eraseDups_repeat
    {before : List Text}
    {label : Text}
    (earlier : label ∈ before)
    (after : List Text) :
    (before ++ label :: after).eraseDups = (before ++ after).eraseDups := by
  rw [List.eraseDups_append, List.eraseDups_append]
  simp [List.removeAll, earlier]

/-! ## Merged labels -/

/-- The default labels whose name no declared label has. -/
def spared (declared defaults : List Text) : List Text :=
  defaults.filter fun label => name label ∉ declared.map name

theorem mem_spared {declared defaults : List Text} {label : Text} :
    label ∈ spared declared defaults ↔
      label ∈ defaults ∧ name label ∉ declared.map name := by
  simp [spared]

/-- Repetitions among the declared labels spare no other defaults. -/
theorem spared_eraseDups (declared defaults : List Text) :
    spared declared.eraseDups defaults = spared declared defaults := by
  simp only [spared, List.mem_map, List.mem_eraseDups]

/-- A merge keeps the first occurrences of declared labels followed by the spared defaults. -/
theorem merge_eq_eraseDups (declared defaults : List Text) :
    merge declared defaults = (declared ++ spared declared defaults).eraseDups := by
  have own : declared.foldl adjoin [] = declared.eraseDups := foldl_adjoin_eraseDups [] declared
  have kept :
      (defaults.filter fun label => !(declared.eraseDups.map name).contains (name label)) =
        spared declared defaults := by
    refine List.filter_congr fun label _ => ?_
    rw [Bool.eq_iff_iff]
    simp
  simp only [merge, own, kept, foldl_adjoin_eraseDups]

theorem nodup_merge (declared defaults : List Text) : (merge declared defaults).Nodup := by
  rw [merge_eq_eraseDups]
  exact nodup_eraseDups _

/-- The two parts of a merge have no label in common. -/
theorem merge_eq_append (declared defaults : List Text) :
    merge declared defaults = declared.eraseDups ++ (spared declared defaults).eraseDups := by
  have apart : (spared declared defaults).removeAll declared = spared declared defaults := by
    rw [List.removeAll, List.filter_eq_self]
    intro label member
    have unnamed := (mem_spared.mp member).2
    have undeclared : label ∉ declared := fun held => unnamed (List.mem_map_of_mem held)
    simpa using undeclared
  rw [merge_eq_eraseDups, List.eraseDups_append, apart]

/-- The names of merged labels are those of the declared labels and those of the defaults. -/
theorem mem_names_merge {declared defaults : List Text} {text : Text} :
    text ∈ (merge declared defaults).map name ↔
      text ∈ declared.map name ∨ text ∈ defaults.map name := by
  rw [merge_eq_eraseDups]
  simp only [List.mem_map, List.mem_eraseDups, List.mem_append, mem_spared]
  constructor
  · rintro ⟨label, held | ⟨default, _⟩, rfl⟩
    · exact .inl ⟨label, held, rfl⟩
    · exact .inr ⟨label, default, rfl⟩
  · rintro (⟨label, held, rfl⟩ | ⟨label, default, rfl⟩)
    · exact ⟨label, .inl held, rfl⟩
    · by_cases named : name label ∈ declared.map name
      · -- The default is left out, but a declared label has its name.
        rcases List.mem_map.mp named with ⟨other, held, same⟩
        exact ⟨other, .inl held, same⟩
      · exact ⟨label, .inr ⟨default, by simpa using named⟩, rfl⟩

/-- Nothing is spared of defaults whose names are all declared. -/
theorem spared_merge (declared defaults : List Text) :
    spared (merge declared defaults) defaults = [] := by
  rw [List.eq_nil_iff_forall_not_mem]
  intro label member
  rcases mem_spared.mp member with ⟨default, unnamed⟩
  exact unnamed (mem_names_merge.mpr (.inr (List.mem_map_of_mem default)))

/-- A merge keeps the first occurrences of the declared labels, and after them the first
occurrences of the defaults whose name none of them has.

So it holds no label twice.  Merging it with the same defaults again changes nothing, and
neither does a repetition among the declared labels or among the defaults, wherever it stands
after the label that it repeats. -/
theorem merge_keeps_first (declared defaults : List Text) :
    (merge declared defaults).Nodup ∧
      merge declared defaults = declared.eraseDups ++ (spared declared defaults).eraseDups ∧
      merge (merge declared defaults) defaults = merge declared defaults ∧
      (∀ before label after,
        label ∈ before →
          merge (before ++ label :: after) defaults = merge (before ++ after) defaults) ∧
      ∀ before label after,
        label ∈ before →
          merge declared (before ++ label :: after) = merge declared (before ++ after) := by
  refine ⟨nodup_merge declared defaults, merge_eq_append declared defaults, ?again, ?own,
    ?others⟩
  case again =>
    rw [merge_eq_append, spared_merge, eraseDups_of_nodup (nodup_merge declared defaults)]
    exact List.append_nil _
  case own =>
    -- Which defaults are spared is decided by the first occurrences of the declared labels.
    intro before label after earlier
    rw [merge_eq_append, merge_eq_append, ← spared_eraseDups, eraseDups_repeat earlier,
      spared_eraseDups]
  case others =>
    -- A repeated default is spared together with the one that it repeats.
    intro before label after earlier
    rw [merge_eq_append, merge_eq_append]
    congr 1
    simp only [spared, List.filter_append, List.filter_cons]
    split
    next kept => exact eraseDups_repeat (List.mem_filter.mpr ⟨earlier, kept⟩) _
    · rfl

/-- Two defaults of one name stay together, and one whose name is declared is left out, also if
a declared label and a default are repeated. -/
theorem merge_keeps_first_repeated :
    let declared : List Text := ["linux", "ubuntu:docker://node:20"]
    let defaults : List Text := ["ubuntu:docker://node:16", "debian:host", "debian:docker"]
    let merged : List Text :=
      ["linux", "ubuntu:docker://node:20", "debian:host", "debian:docker"]
    merge declared defaults = merged ∧
      merge ["linux", "ubuntu:docker://node:20", "linux"] defaults = merged ∧
      merge declared
          ["ubuntu:docker://node:16", "debian:host", "debian:host", "debian:docker"] =
        merged := by
  intro declared defaults merged
  have once : merge declared defaults = merged := by decide +kernel
  rcases merge_keeps_first declared defaults with ⟨_, _, _, own, others⟩
  refine ⟨once, ?_, ?_⟩
  · exact (own declared "linux" [] (by simp [declared])).trans once
  · have repeated :=
      others ["ubuntu:docker://node:16", "debian:host"] "debian:host" ["debian:docker"]
        (by simp)
    exact repeated.trans once

end Label

namespace Matcher

/-! ## What jobs find among merged labels -/

/-- A plain label is provided exactly if it is the name of an offered one. -/
theorem exists_schema_provides_plain_iff
    {required : Text}
    (plain : Label.colon ∉ required)
    (offered : List Text) :
    (∃ other ∈ offered, schema.provides (.text required) other = true) ↔
      required ∈ offered.map Label.name := by
  simp only [schema_provides_plain_iff plain, List.mem_map]

/-- A merge takes from no job the plain labels that it finds among the declared labels and the
defaults.

A job that requires only texts without a colon is accepted for the merged labels exactly if it
is accepted for all labels together.  Any other job may be refused for the merged labels where
it is accepted for all, but not the other way round, and it is accepted if the declared labels
suffice.  The merged labels have just the names of all labels together. -/
theorem accepts_merge (declared defaults : List Text) (required : List Value) :
    ((∀ label ∈ required, ∃ plain, label = .text plain ∧ Label.colon ∉ plain) →
        schema.accepts required (Label.merge declared defaults) =
          schema.accepts required (declared ++ defaults)) ∧
      (schema.accepts required (Label.merge declared defaults) = true →
        schema.accepts required (declared ++ defaults) = true) ∧
      (schema.accepts required declared = true →
        schema.accepts required (Label.merge declared defaults) = true) ∧
      ((Label.merge declared defaults).map Label.name).toFinset =
        (declared.map Label.name).toFinset ∪ (defaults.map Label.name).toFinset := by
  refine ⟨?plain, ?within, ?declared, ?names⟩
  case plain =>
    intro unadorned
    rw [Bool.eq_iff_iff, accepts_iff, accepts_iff]
    refine forall₂_congr fun label member => ?_
    rcases unadorned label member with ⟨required, rfl, plain⟩
    rw [exists_schema_provides_plain_iff plain, exists_schema_provides_plain_iff plain,
      Label.mem_names_merge, List.map_append, List.mem_append]
  case within =>
    refine accepts_mono (List.Subset.refl _) fun label member => ?_
    rcases Label.mem_merge.mp member with held | ⟨default, _⟩
    · exact List.mem_append_left _ held
    · exact List.mem_append_right _ default
  case declared =>
    exact accepts_mono (List.Subset.refl _) fun label held => Label.mem_merge.mpr (.inl held)
  case names =>
    ext text
    simp only [List.mem_toFinset, Finset.mem_union, Label.mem_names_merge]

/-- A job that asks for plain names finds a default that was overridden under the label that
took its place. -/
theorem accepts_merge_overridden :
    let declared : List Text := ["ubuntu:docker://node:20"]
    let defaults : List Text := ["ubuntu:docker://node:16", "debian:docker://node:16"]
    let required : List Value := [.text "ubuntu", .text "debian"]
    (∀ label ∈ required, ∃ plain, label = .text plain ∧ Label.colon ∉ plain) ∧
      schema.accepts required (declared ++ defaults) = true ∧
      ("ubuntu:docker://node:16" : Text) ∉ Label.merge declared defaults ∧
      schema.accepts required (Label.merge declared defaults) = true := by
  intro declared defaults required
  have plain : ∀ label ∈ required, ∃ plain, label = .text plain ∧ Label.colon ∉ plain := by
    simp only [required, List.forall_mem_cons]
    exact ⟨⟨_, rfl, by decide⟩, ⟨_, rfl, by decide⟩, List.forall_mem_nil _⟩
  have accepted : schema.accepts required (declared ++ defaults) = true := by decide +kernel
  refine ⟨plain, accepted, by decide +kernel, ?_⟩
  rw [(accepts_merge declared defaults required).1 plain]
  exact accepted

/-- A job that asks for the schema of an overridden default is refused. -/
example :
    let declared : List Text := ["ubuntu:docker://node:20"]
    let defaults : List Text := ["ubuntu:docker://node:16"]
    schema.accepts [.text "ubuntu:docker://node:16"] (declared ++ defaults) = true ∧
      schema.accepts [.text "ubuntu:docker://node:16"] (Label.merge declared defaults) =
        false := by
  decide +kernel

end Matcher

end RunnerFleet
