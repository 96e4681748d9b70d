import RunnerFleet.Proofs.Companions
import RunnerFleet.Proofs.Configuring
import RunnerFleet.Proofs.Reals
import RunnerFleet.Proofs.Reporting

/-!
# Requests are remembered under accepted settings

A provisioner that is made under settings keeps a request for the lifetime that they give.
Settings whose lifetime is zero or less are not accepted, so a request counts at least at the
time at which it was made, and the next pass at that time leaves its job alone.

The value that is no number is accepted as well, and no age is below it.  Where the variable
for the lifetime spells that value, nothing is remembered.
-/

namespace RunnerFleet

/-! ## Ledgers of provisioners that are made -/

namespace Provisioner

variable {settings : Settings} {environment : Environment} {launcher : Launcher}

/-- A provisioner that is made under settings has an empty ledger with their lifetime. -/
theorem ledger_ofPool
    {pool : Pool}
    {provisioner : Provisioner}
    (made : ofPool settings environment launcher pool = .ok provisioner) :
    provisioner.ledger = ⟨settings.lifetime, []⟩ := by
  rcases bind_eq_ok_iff.mp made with ⟨token, _, further⟩
  rcases bind_eq_ok_iff.mp further with ⟨matcher, _, last⟩
  rw [Ledger.ofLifetime?] at last
  split at last
  · cases last
  next ledger given =>
    split at given
    · cases given
    · cases given
      cases last
      rfl

end Provisioner

namespace Visit

variable (visit : Visit)

theorem time?_leftProvisioner (key : Key) :
    visit.leftProvisioner.ledger.time? key =
      visit.episode.carry key (visit.provisioner.ledger.time? key) := by
  rcases visit.episode_cases with ⟨same, none⟩ | ⟨occasion, left, told⟩
  · rw [same, none]
    rfl
  · rw [left, told]
    exact visit.provisioner.time?_afterPass occasion key

theorem lifetime_leftProvisioner :
    visit.leftProvisioner.ledger.lifetime = visit.provisioner.ledger.lifetime := by
  rcases visit.episode_cases with ⟨same, _⟩ | ⟨occasion, left, _⟩
  · rw [same]
  · rw [left]
    exact visit.provisioner.lifetime_afterPass occasion

theorem surveyed {prospect : Prospect} (reached : visit.episode.prospect? = some prospect) :
    prospect.Surveyed visit.provisioner.ledger := by
  rcases visit.episode_cases with ⟨_, none⟩ | ⟨occasion, _, told⟩
  · rw [none] at reached
    cases reached
  · rw [told] at reached
    exact visit.provisioner.surveyed_of_prospect? occasion.pool reached

end Visit

/-- In every stay of a pool the lifetime is the one at the start, and a job is known as the
stays before tell. -/
theorem Stays.ledger
    {pool : Pool}
    {provisioner : Provisioner}
    {status : PoolStatus}
    {since : World}
    {stays : List Stay}
    (course : Stays pool provisioner status since stays)
    {before after : List Visit}
    {visit : Visit}
    (split : stays.map (·.visit) = before ++ visit :: after)
    (key : Key) :
    visit.provisioner.ledger.lifetime = provisioner.ledger.lifetime ∧
      visit.provisioner.ledger.time? key =
        (before.map Visit.episode).foldl (Episode.carry key)
          (provisioner.ledger.time? key) := by
  induction course generalizing before with
  | nil => cases before <;> cases split
  | @cons provisioner status _ world _ _ _ _ _ ih =>
    cases before with
    | nil =>
      cases split
      exact ⟨rfl, rfl⟩
    | cons first rest =>
      rw [List.map_cons, List.cons_append, List.cons.injEq] at split
      rcases split with ⟨rfl, split⟩
      rcases ih split with ⟨lifetime, times⟩
      rw [Visit.lifetime_leftProvisioner] at lifetime
      rw [Visit.time?_leftProvisioner] at times
      exact ⟨lifetime, times⟩

/-! ## Settings that are read -/

/-- The text that the lifetime of requests is read from. -/
def Settings.lifetimeText (environment : Environment) : Text :=
  (environment.content? "SPAWN_TTL").getD "300"

theorem Settings.isNaN_lifetime
    {environment : Environment}
    {settings : Settings}
    (read : Settings.ofEnvironment environment = .ok settings) :
    settings.lifetime.isNaN = Number.spellsNotANumber (lifetimeText environment) := by
  rcases bind_eq_ok_iff.mp read with ⟨threshold, _, read⟩
  rcases bind_eq_ok_iff.mp read with ⟨pollInterval, _, read⟩
  rcases bind_eq_ok_iff.mp read with ⟨requestTimeout, _, read⟩
  rcases bind_eq_ok_iff.mp read with ⟨pageSize, _, read⟩
  rcases bind_eq_ok_iff.mp read with ⟨maxWorkers, _, read⟩
  rcases bind_eq_ok_iff.mp read with ⟨lifetime, found, last⟩
  cases last
  exact Number.isNaN_of_readReal (mapError_eq_ok_iff.mp found)

/-- A job that is known by a finite time is picked again at that time exactly if the lifetime is
no number. -/
theorem Ledger.verdict_at_once
    {ledger : Ledger}
    (accepted : ¬ ledger.lifetime ≤ 0.0)
    {key : Key}
    {time : Float}
    (known : ledger.time? key = some time)
    (finite : time.isFinite = true) :
    ledger.verdict key time ≠ .skip ↔ ledger.lifetime.isNaN = true := by
  rw [verdict_ne_skip_iff, known]
  simp only [Option.some.injEq, forall_eq']
  rw [Number.sub_self_of_isFinite finite, Number.zero_lt_iff accepted, Bool.not_eq_false]

/-- Where a job is known by a finite time and fetched at that time, it is picked exactly if the
lifetime is no number. -/
theorem Prospect.Surveyed.mem_candidateKeys_at_once
    {prospect : Prospect}
    {ledger : Ledger}
    (surveyed : prospect.Surveyed ledger)
    (accepted : ¬ ledger.lifetime ≤ 0.0)
    {key : Key}
    (known : ledger.time? key = some prospect.time)
    (finite : prospect.time.isFinite = true)
    (queued : key ∈ jobKeys prospect.jobs) :
    key ∈ RunnerFleet.candidateKeys prospect.candidates ↔ ledger.lifetime.isNaN = true := by
  rw [surveyed.candidateKeys, surveyed.mem_keys_iff, Ledger.verdict_at_once accepted known finite]
  exact and_iff_right queued

/-- An episode without a prospect neither starts a runner for a job nor finds it gone. -/
theorem Episode.carry_of_unserved
    {episode : Episode}
    (unserved : episode.prospect? = none)
    (key : Key) :
    episode.startTime? key = none ∧ episode.misses key = false := by
  rw [Episode.startTime?, Episode.starts, Episode.misses, unserved]
  exact ⟨rfl, rfl⟩

/-- Runners are only started for candidates. -/
theorem Episode.startTime?_of_not_picked
    {episode : Episode}
    {prospect : Prospect}
    (reached : episode.prospect? = some prospect)
    {ledger : Ledger}
    (surveyed : prospect.Surveyed ledger)
    {key : Key}
    (passed : key ∉ candidateKeys prospect.candidates) :
    episode.startTime? key = none := by
  rw [Episode.startTime?, Episode.starts, reached, startTime?_eq_none_iff]
  dsimp only
  rw [prospect.keys_starts]
  intro member
  rw [surveyed.candidateKeys] at passed
  exact passed (List.mem_of_mem_take member)

/-- A request counts in the next pass at the same time, unless the lifetime is spelled as the
value that is no number. -/
theorem candidates_at_once
    {environment : Environment}
    {settings : Settings}
    (read : Settings.ofEnvironment environment = .ok settings)
    (accepted : settings.violations = [])
    {pools : List Pool}
    (distinct : (pools.map (·.name)).Nodup)
    {pool : Pool}
    (member : pool ∈ pools)
    (launcher : Launcher)
    (limit : Option Int)
    (world : World)
    {before idle after : List Visit}
    {first second : Visit}
    (visits :
      (patrolVisits settings pools launcher limit world).flatten.filter
          (·.pool.name == pool.name) =
        before ++ first :: (idle ++ second :: after))
    (unserved : ∀ visit ∈ idle, visit.episode.prospect? = none)
    {key : Key}
    {time : Float}
    (started : first.episode.startTime? key = some time)
    (finite : time.isFinite = true)
    {prospect : Prospect}
    (reached : second.episode.prospect? = some prospect)
    (queued : key ∈ jobKeys prospect.jobs)
    (same : prospect.time = time) :
    let forgetful := Number.spellsNotANumber (Settings.lifetimeText environment)
    (key ∈ candidateKeys prospect.candidates ↔ forgetful = true) ∧
      (forgetful = false → second.episode.startTime? key = none) := by
  intro forgetful
  subst same
  have surveyed := second.surveyed reached
  have split : before ++ first :: (idle ++ second :: after) =
      (before ++ first :: idle) ++ second :: after := by
    simp
  rw [← Stay.visits_among (pool.name) world, split] at visits
  have picked : key ∈ candidateKeys prospect.candidates ↔ forgetful = true := by
    rcases patrolStays_stays settings distinct member launcher limit world with
      none | ⟨provisioners, provisioner, made, provided, stays⟩
    · rw [patrolStays] at none
      rw [none] at visits
      simp at visits
    · rcases Provisioner.made_of_lookup distinct made provided with ⟨_, _, _, own⟩
      have ledger := Provisioner.ledger_ofPool own
      rcases stays.ledger visits key with ⟨lifetime, known⟩
      rw [ledger] at lifetime known
      have idleEpisodes :
          ∀ episode ∈ idle.map Visit.episode, episode.prospect? = none := by
        simpa using unserved
      have unmissed : (idle.map Visit.episode).any (·.misses key) = false := by
        rw [List.any_eq_false]
        intro episode listed
        rw [(Episode.carry_of_unserved (idleEpisodes episode listed) key).2]
        exact Bool.false_ne_true
      rw [List.map_append, List.map_cons, Episode.foldl_carry_of_last started fun episode listed =>
        (Episode.carry_of_unserved (idleEpisodes episode listed) key).1, unmissed,
        if_neg Bool.false_ne_true] at known
      have positive : ¬ second.provisioner.ledger.lifetime ≤ 0.0 := by
        rw [lifetime]
        exact (Settings.inOrder_of_violations accepted).lifetime
      rw [surveyed.mem_candidateKeys_at_once positive known finite queued, lifetime,
        Settings.isNaN_lifetime read]
  refine ⟨picked, fun remembers => ?_⟩
  apply Episode.startTime?_of_not_picked reached surveyed
  rw [picked, remembers]
  exact Bool.false_ne_true

/-! ## A lifetime that is no number -/

/-- Variables that give both credentials and spell out a lifetime that is no number. -/
def Environment.forgetful : Environment :=
  [("GITEA_AUTH_TOKEN", "secret"), ("GITEA_RUNNER_REGISTRATION_TOKEN", "secret"),
    ("SPAWN_TTL", "nan")]

/-- The settings that these variables give. -/
def Settings.forgetful : Settings :=
  { Settings.plain with lifetime := 0.0 / 0.0 }

/-- A world in which the forge always tells of the same queued job and the clock stands
still. -/
def World.still : World :=
  let waiting := World.waiting 1000.0
  { waiting with
    outside := { waiting.outside with clockAfter := fun _ clock => clock }
    environment := Environment.forgetful }

/-- Both rounds start a runner for the job, although the second one comes at the same time as
the first. -/
theorem candidates_at_once_still :
    let pool := Pool.double "builders"
    let key : Key := .number 7 0
    Settings.ofEnvironment Environment.forgetful = .ok Settings.forgetful ∧
      Settings.forgetful.violations = [] ∧
        ∃ first second prospect,
          (patrolVisits Settings.forgetful [pool] {} (some 2) World.still).flatten.filter
                (·.pool.name == pool.name) =
              [first, second] ∧
            first.episode.startTime? key = some 1000.0 ∧
              second.episode.prospect? = some prospect ∧
                prospect.time = 1000.0 ∧
                  key ∈ candidateKeys prospect.candidates ∧
                    second.episode.startTime? key = some 1000.0 := by
  intro pool key
  have read : Settings.ofEnvironment Environment.forgetful = .ok Settings.forgetful := by
    rfl
  have accepted : Settings.forgetful.violations = [] := by decide +kernel
  have told :
      ((patrolVisits Settings.forgetful [pool] {} (some 2) World.still).flatten.filter
            (·.pool.name == pool.name)).map
          (fun visit =>
            (visit.episode.startTime? key,
              visit.episode.prospect?.map fun prospect => (jobKeys prospect.jobs, prospect.time))) =
        [(some 1000.0, some ([key], 1000.0)), (some 1000.0, some ([key], 1000.0))] := by
    decide +kernel
  generalize visits :
    (patrolVisits Settings.forgetful [pool] {} (some 2) World.still).flatten.filter
      (·.pool.name == pool.name) = both at told
  rcases List.map_eq_cons_iff.mp told with ⟨first, rest, rfl, begun, told⟩
  rcases List.map_eq_cons_iff.mp told with ⟨second, others, rfl, again, told⟩
  rcases List.map_eq_nil_iff.mp told with rfl
  rcases Prod.mk.inj begun with ⟨started, _⟩
  rcases Prod.mk.inj again with ⟨restarted, fetched⟩
  rcases Option.map_eq_some_iff.mp fetched with ⟨prospect, reached, found⟩
  rcases Prod.mk.inj found with ⟨keys, same⟩
  have queued : key ∈ jobKeys prospect.jobs := by
    rw [keys]
    exact List.mem_singleton_self key
  have distinct : ([pool].map (·.name)).Nodup := by decide
  have finite : (1000.0 : Float).isFinite = true := by decide +kernel
  have split :
      (patrolVisits Settings.forgetful [pool] {} (some 2) World.still).flatten.filter
          (·.pool.name == pool.name) =
        [] ++ first :: ([] ++ second :: []) :=
    visits
  have spelled :
      Number.spellsNotANumber (Settings.lifetimeText Environment.forgetful) = true := by
    decide
  have applied :=
    candidates_at_once read accepted distinct (List.mem_singleton_self pool) {} (some 2)
      World.still split (List.forall_mem_nil _) started finite reached queued same
  exact ⟨read, accepted, first, second, prospect, rfl, started, reached, same,
    applied.1.mpr spelled, restarted⟩

end RunnerFleet
