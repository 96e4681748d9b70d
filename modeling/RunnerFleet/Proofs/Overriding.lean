import RunnerFleet.Proofs.Credentials

/-!
# What a pool's addition to the environment can change

The environment of a runner is what its pool adds, overlaid with what the runner registers
with.  So a variable has the value that the runner registers with, if there is one, and else
the value that the pool adds, if there is one.  Two pools that differ in nothing but what they
add are compared here by this rule, variable by variable.

A runner without labels registers with no variable for them.  There the rule lets through what
a pool adds under the name of that variable, although a runner then has labels of the pool's
making.
-/

namespace RunnerFleet.Runner

section

variable (pool : Pool) (extra : List (Text × Text)) (labels : List Text) (token name : Text)

/-- The variables with which every runner registers, with their values. -/
def fixedRegistration : List (Text × Text) :=
  [(instanceVariable, pool.url), (tokenVariable, token), ("GITEA_RUNNER_EPHEMERAL", "true"),
    ("GITEA_RUNNER_NAME", name)]

theorem registration_eq :
    registration pool labels token name =
      fixedRegistration pool token name ++
        if labels.isEmpty then [] else [(labelsVariable, Text.joined "," labels)] :=
  rfl

/-- Environments of two pools that differ only in what they add agree on a variable exactly if
the runner registers with it or the pools agree on it. -/
theorem environments_agree_iff (query : Text) :
    (environment pool labels token name).lookup query =
        (environment { pool with extraEnvironment := extra } labels token name).lookup query ↔
      query ∈ (registration pool labels token name).map (·.1) ∨
        pool.extraEnvironment.lookup query = extra.lookup query := by
  have same :
      registration { pool with extraEnvironment := extra } labels token name =
        registration pool labels token name :=
    rfl
  rw [lookup_environment_eq, lookup_environment_eq, same]
  by_cases registered : query ∈ (registration pool labels token name).map (·.1)
  · rcases Table.exists_lookup_of_mem registered with ⟨content, found⟩
    rw [found]
    simp [registered]
  · rw [Table.lookup_of_notMem registered]
    simp [registered]

end

/-- What a pool adds cannot change the fixed part of a runner's registration, nor its labels if
there are any.

The variables with which every runner registers have their values in both environments, and
the environments agree on the labels exactly if there are labels or both pools add the same.
Every other variable has the value that the pool adds, and is missing if it adds none. -/
theorem environment_overrides
    (pool : Pool)
    (extra : List (Text × Text))
    (labels : List Text)
    (token name : Text) :
    let first := environment pool labels token name
    let second := environment { pool with extraEnvironment := extra } labels token name
    (∀ entry ∈ fixedRegistration pool token name,
        first.lookup entry.1 = some entry.2 ∧ second.lookup entry.1 = some entry.2) ∧
      first.lookup labelsVariable =
          (if labels = [] then pool.extraEnvironment.lookup labelsVariable
            else some (Text.joined "," labels)) ∧
        (first.lookup labelsVariable = second.lookup labelsVariable ↔
          labels ≠ [] ∨
            pool.extraEnvironment.lookup labelsVariable = extra.lookup labelsVariable) ∧
          ∀ query,
            query ∉ (fixedRegistration pool token name).map (·.1) →
              query ≠ labelsVariable →
                first.lookup query = pool.extraEnvironment.lookup query := by
  intro first second
  have unfixed : labelsVariable ∉ (fixedRegistration pool token name).map (·.1) := by
    have names :
        labelsVariable ∉
          ([instanceVariable, tokenVariable, "GITEA_RUNNER_EPHEMERAL",
            "GITEA_RUNNER_NAME"] : List Text) := by
      decide +kernel
    exact names
  refine ⟨?fixed, ?labels, ?agree, ?others⟩
  case fixed =>
    intro entry member
    have registers (added : List (Text × Text)) :
        entry ∈ registration { pool with extraEnvironment := added } labels token name := by
      rw [registration_eq]
      exact List.mem_append_left _ member
    exact ⟨lookup_environment (registers pool.extraEnvironment),
      lookup_environment (registers extra)⟩
  case labels =>
    split
    next none =>
      rw [lookup_environment_eq, registration_eq, none, List.isEmpty_nil, if_pos rfl,
        List.append_nil, Table.lookup_of_notMem unfixed, Option.none_or]
    next offered =>
      have member :
          (labelsVariable, Text.joined "," labels) ∈ registration pool labels token name := by
        rw [registration_eq, if_neg (by simpa using offered)]
        exact List.mem_append_right _ (List.mem_singleton_self _)
      exact lookup_environment member
  case agree =>
    rw [environments_agree_iff, registration_eq, List.map_append, List.mem_append]
    cases labels with
    | nil => simp [unfixed]
    | cons label rest => simp
  case others =>
    intro query unknown unlabelled
    have unregistered : query ∉ (registration pool labels token name).map (·.1) := by
      rw [registration_eq, List.map_append, List.mem_append, not_or]
      refine ⟨unknown, ?_⟩
      split
      · exact List.not_mem_nil
      · simpa using unlabelled
    rw [lookup_environment_eq, Table.lookup_of_notMem unregistered, Option.none_or]

/-- A runner without labels takes the ones that a pool adds. -/
example :
    let pool := Pool.single "builders"
    let extra : List (Text × Text) := [(labelsVariable, "gpu"), (tokenVariable, "other")]
    let environment := environment { pool with extraEnvironment := extra } [] "secret" "builders-1"
    environment.lookup labelsVariable = some "gpu" ∧
      environment.lookup tokenVariable = some "secret" := by
  decide +kernel

end RunnerFleet.Runner
