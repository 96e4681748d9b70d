import RunnerFleet.Pool.Violation
import RunnerFleet.Proofs.Publishing
import RunnerFleet.Rounds

/-!
# What a configuration in order gives

Pools without a violation have different names, and the credential of each for its forge can
be looked up.  With settings that violate no condition every pool then gets its provisioner,
under its own name and in the order of the pools, and there is room for a worker.
-/

namespace RunnerFleet

/-! ## Pools in order -/

namespace Pool

variable {environment : Environment}

theorem of_violationsAfter
    {seen : List Text}
    {pools : List Pool}
    (valid : violationsAfter environment seen pools = .ok []) :
    (pools.map (·.name)).Nodup ∧
      ∀ pool ∈ pools, pool.name ∉ seen ∧ pool.violations environment = .ok [] := by
  induction pools generalizing seen with
  | nil => exact ⟨List.nodup_nil, nofun⟩
  | cons pool rest ih =>
    rcases bind_eq_ok_iff.mp valid with ⟨own, sound, further⟩
    rcases bind_eq_ok_iff.mp further with ⟨others, later, none⟩
    have none : own ++ (if seen.contains pool.name then [.repeatedName pool.name] else []) ++
        others = [] := by
      simpa [pure, Except.pure] using none
    rw [List.append_eq_nil_iff, List.append_eq_nil_iff] at none
    rcases none with ⟨⟨rfl, unrepeated⟩, rfl⟩
    have fresh : pool.name ∉ seen := by simpa using unrepeated
    rcases ih later with ⟨distinct, each⟩
    constructor
    · rw [List.map_cons, List.nodup_cons]
      refine ⟨?_, distinct⟩
      intro member
      rcases List.mem_map.mp member with ⟨other, among, same⟩
      exact (each other among).1 (same ▸ List.mem_cons_self)
    · rw [List.forall_mem_cons]
      refine ⟨⟨fresh, sound⟩, ?_⟩
      intro other member
      rcases each other member with ⟨unseen, otherSound⟩
      exact ⟨fun known => unseen (List.mem_cons_of_mem _ known), otherSound⟩

/-- A check that comes to an end and finds no violation. -/
theorem violations_eq_nil
    {found : Except Failure (List Violation)}
    (clean : found.toOption.any List.isEmpty = true) :
    found = .ok [] := by
  cases found with
  | error failure => cases clean
  | ok violations => exact congrArg Except.ok (List.isEmpty_iff.mp clean)

/-- Pools without a violation have different names, and none of them has a violation for
itself. -/
theorem of_allViolations
    {pools : List Pool}
    (valid : allViolations environment pools = .ok []) :
    pools ≠ [] ∧
      (pools.map (·.name)).Nodup ∧ ∀ pool ∈ pools, pool.violations environment = .ok [] := by
  rw [allViolations] at valid
  split at valid
  · cases valid
  next given =>
    rcases of_violationsAfter valid with ⟨distinct, each⟩
    exact ⟨by simpa using given, distinct, fun pool member => (each pool member).2⟩

/-- The credential for its forge of a pool without violations can be looked up. -/
theorem exists_authToken
    {pool : Pool}
    (valid : pool.violations environment = .ok []) :
    ∃ token, pool.authToken environment = .ok token := by
  rcases bind_eq_ok_iff.mp valid with ⟨auth, found, _⟩
  exact ⟨auth, found⟩

end Pool

/-! ## Settings in order -/

namespace Settings

/-- The conditions that settings without violations meet. -/
theorem of_violations
    {settings : Settings}
    (accepted : settings.violations = []) :
    1 ≤ settings.maxWorkers ∧
      ¬ settings.lifetime ≤ 0.0 ∧
        ∃ matcher, Matcher.ofName? settings.labelMatching = some matcher := by
  simp only [violations, List.append_eq_nil_iff, ite_eq_right_iff, reduceCtorEq] at accepted
  rcases accepted with ⟨⟨⟨⟨⟨_, _⟩, _⟩, workers⟩, lifetime⟩, matching⟩
  refine ⟨by simpa using workers, by simpa using lifetime, ?_⟩
  cases named : Matcher.ofName? settings.labelMatching with
  | none => simp [named] at matching
  | some matcher => exact ⟨matcher, rfl⟩

end Settings

/-! ## Provisioners -/

namespace Provisioner

variable
  {settings : Settings}
  {environment : Environment}
  (accepted : settings.violations = [])

include accepted

theorem exists_ofPool
    (launcher : Launcher)
    {pool : Pool}
    (valid : pool.violations environment = .ok []) :
    ∃ provisioner, ofPool settings environment launcher pool = .ok provisioner := by
  rcases settings.of_violations accepted with ⟨_, positive, matcher, named⟩
  rcases Pool.exists_authToken valid with ⟨token, found⟩
  simp [ofPool, found, Matcher.ofName, named, Ledger.ofLifetime?, positive, bind, Except.bind,
    pure, Except.pure]

theorem exists_mapM_ofPool
    (launcher : Launcher)
    {pools : List Pool}
    (valid : ∀ pool ∈ pools, pool.violations environment = .ok []) :
    ∃ named,
      (pools.mapM fun pool => do
          let provisioner ← ofPool settings environment launcher pool
          pure (pool.name, provisioner)) = .ok named ∧
        named.map (·.1) = pools.map (·.name) := by
  induction pools with
  | nil => exact ⟨[], rfl, rfl⟩
  | cons pool rest ih =>
    rcases List.forall_mem_cons.mp valid with ⟨first, later⟩
    rcases exists_ofPool accepted launcher first with ⟨provisioner, made⟩
    rcases ih later with ⟨named, others, names⟩
    refine ⟨(pool.name, provisioner) :: named, ?_, by rw [List.map_cons, names, List.map_cons]⟩
    rw [List.mapM_cons, others, made]
    rfl

/-- Every pool gets a provisioner. -/
theorem exists_ofPools
    (launcher : Launcher)
    {pools : List Pool}
    (valid : Pool.allViolations environment pools = .ok []) :
    ∃ provisioners,
      ofPools settings environment launcher pools = .ok provisioners ∧
        provisioners.map (·.1) = pools.map (·.name) := by
  rcases Pool.of_allViolations valid with ⟨_, distinct, each⟩
  rcases exists_mapM_ofPool accepted launcher each with ⟨named, made, names⟩
  refine ⟨named, ?_, names⟩
  rw [← names] at distinct
  rw [ofPools, made, ← Table.ofPairs_of_nodup distinct]
  simp [Table.ofPairs_of_nodup distinct, bind, Except.bind, pure, Except.pure]

end Provisioner

/-- There is room for a worker. -/
theorem hasWorkers_of_accepted
    {settings : Settings}
    (accepted : settings.violations = [])
    (pools : List Pool) :
    hasWorkers settings pools = true := by
  rcases settings.of_violations accepted with ⟨workers, _, _⟩
  rw [hasWorkers, decide_eq_true_iff]
  omega

end RunnerFleet
