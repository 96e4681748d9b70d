import RunnerFleet.Proofs.Itinerary
import RunnerFleet.Proofs.Registering

/-!
# Where credentials go

A pool has two credentials: one with which it asks its forge, and one with which its runners
register there.  Every call that a visit makes is told here by the pool alone: a request goes
to an address of the pool's forge, whatever names the forge's own answers put into it, and a
container holds what the pool says, whatever its definition adds to the environment.

The invariant is that what the fleet holds under a pool's name was made for this pool.
-/

namespace RunnerFleet

/-! ## What a runner's environment holds -/

namespace Runner

/-- The variable by which a runner is told where to register. -/
def instanceVariable : Text :=
  "GITEA_INSTANCE_URL"

/-- The variable by which a runner is told the credential to register with. -/
def tokenVariable : Text :=
  "GITEA_RUNNER_REGISTRATION_TOKEN"

theorem nodup_registration (pool : Pool) (labels : List Text) (token name : Text) :
    ((registration pool labels token name).map (·.1)).Nodup := by
  have names :
      ([instanceVariable, tokenVariable, "GITEA_RUNNER_EPHEMERAL", "GITEA_RUNNER_NAME",
        labelsVariable] : List Text).Nodup := by
    decide +kernel
  rw [registration]
  split
  · exact names.sublist (List.sublist_append_left _ [labelsVariable])
  · exact names

/-- A variable has the value that the runner registers with, or else the one that the pool
adds. -/
theorem lookup_environment_eq
    (pool : Pool)
    (labels : List Text)
    (token name query : Text) :
    (environment pool labels token name).lookup query =
      ((registration pool labels token name).lookup query).or
        (pool.extraEnvironment.lookup query) :=
  Table.lookup_foldl_put (nodup_registration pool labels token name) pool.extraEnvironment query

/-- What a runner registers with is in its environment, whatever the pool adds. -/
theorem lookup_environment
    {pool : Pool}
    {labels : List Text}
    {token name : Text}
    {entry : Text × Text}
    (registers : entry ∈ registration pool labels token name) :
    (environment pool labels token name).lookup entry.1 = some entry.2 := by
  rw [lookup_environment_eq,
    Table.lookup_of_mem (nodup_registration pool labels token name) registers]
  rfl

end Runner

theorem Launcher.environment_spec
    (launcher : Launcher)
    (pool : Pool)
    (labels : List Text)
    (token name : Text) :
    (launcher.spec pool labels token name).environment =
      Runner.environment pool labels token name := by
  simp only [spec]

/-! ## Calls that a pool may make -/

/-- A request goes to an address of a forge, for a page of a listing and with the credential
of the forge. -/
def Forge.Asks (forge : Forge) (made : Call) : Prop :=
  ∃ path status page, made = .ask (forge.pageRequest (forge.address path) status page)

/-- The headers by which a request says who asks. -/
def Request.authorizations (request : Request) : Fields :=
  request.headers.filter fun header => header.1 == ("Authorization" : Text)

/-- The header that shows a credential. -/
def Request.authorization (token : Text) : Fields :=
  [("Authorization", .text ("token " ++ token))]

/-- A request shows its credential in one header. -/
theorem Request.authorizations_eq (request : Request) :
    request.authorizations = authorization request.token :=
  rfl

/-- A call that takes a pool's credentials nowhere but where they belong: a request to the
pool's forge with its credential in the header, the listing of the pool's runners, or the start
of a runner that is the pool's and registers at its forge with its credential. -/
inductive Pool.Confines (pool : Pool) (environment : Environment) : Call → Prop where
  | ask
      (request : Request)
      (token path : Text)
      (found : pool.authToken environment = .ok (some token))
      (given : token ≠ [])
      (address : request.url = Forge.trimSlashes pool.url ++ "/api/v1/" ++ path)
      (header : request.authorizations = Request.authorization token) :
      Confines pool environment (.ask request)
  | list : Confines pool environment (.list pool.name)
  | run
      (runner : RunnerSpec)
      (token : Text)
      (found : pool.registrationToken environment = .ok (some token))
      (given : token ≠ [])
      (registers : runner.environment.lookup Runner.tokenVariable = some token)
      (forge : runner.environment.lookup Runner.instanceVariable = some pool.url)
      (labelled : runner.labels.lookup poolLabel = some pool.name) :
      Confines pool environment (.run runner)

/-- What a pool's provisioner has to ask with: the address of the pool's forge and the
credential that the environment gives for it. -/
def Provisioner.Serves
    (provisioner : Provisioner)
    (pool : Pool)
    (environment : Environment) : Prop :=
  ∃ token,
    pool.authToken environment = .ok (some token) ∧
      token ≠ [] ∧
        provisioner.forge.baseUrl = Forge.trimSlashes pool.url ∧
          provisioner.forge.token = token

theorem Forge.Asks.confines
    {provisioner : Provisioner}
    {pool : Pool}
    {environment : Environment}
    (serves : provisioner.Serves pool environment)
    {made : Call}
    (asks : provisioner.forge.Asks made) :
    pool.Confines environment made := by
  rcases serves with ⟨token, found, given, address, credential⟩
  rcases asks with ⟨path, status, page, rfl⟩
  refine .ask _ token path found given ?_ ?_
  · rw [← address]
    rfl
  · rw [Request.authorizations_eq, ← credential]
    rfl

theorem Provisioner.Registers.confines
    {provisioner : Provisioner}
    {pool : Pool}
    {environment : Environment}
    {labels : List Text}
    {made : Call}
    (registers : provisioner.Registers pool environment labels made) :
    pool.Confines environment made := by
  rcases registers with ⟨token, found, given, name, rfl⟩
  have told {entry : Text × Text} (member : entry ∈ Runner.registration pool labels token name) :
      (provisioner.launcher.spec pool labels token name).environment.lookup entry.1 =
        some entry.2 := by
    rw [Launcher.environment_spec]
    exact Runner.lookup_environment member
  have credential : (Runner.tokenVariable, token) ∈ Runner.registration pool labels token name :=
    List.mem_cons_of_mem _ List.mem_cons_self
  have address :
      (Runner.instanceVariable, pool.url) ∈ Runner.registration pool labels token name :=
    List.mem_cons_self
  exact .run _ token found given (told credential) (told address)
    (Runner.lookup_containerLabels pool)

namespace Provisioner

variable (provisioner : Provisioner) (pool : Pool)

/-- In an environment that a pool's provisioner serves, all calls of a visit are confined. -/
theorem reconcile_confines
    {environment : Environment}
    (serves : provisioner.Serves pool environment)
    (status : PoolStatus) :
    Act.Keeps (World.MakesWithin environment (pool.Confines environment))
      (provisioner.reconcile pool status) := by
  have passed := makesWithin_passedToFetches environment (pool.Confines environment)
  refine provisioner.reconcile_holds pool passed ?requests ?starts ?lists status
  case requests =>
    intro path status page operation
    refine Forge.request_holds passed ?_ operation
    intro world _
    rcases ask_does world
        (provisioner.forge.pageRequest (provisioner.forge.address path) status page) with
      ⟨calls, follows, rfl, _⟩
    refine ⟨_, follows, ?_⟩
    intro made member
    have asks : provisioner.forge.Asks made :=
      ⟨path, status, page, List.mem_singleton.mp member⟩
    exact asks.confines serves
  case starts =>
    rintro candidates world rfl
    rcases provisioner.startAll_makes pool (provisioner.offered pool) candidates world with
      ⟨calls, follows, registers⟩
    exact ⟨calls, follows, fun made member => (registers made member).confines⟩
  case lists =>
    intro world _
    rcases listContainers_does world pool.name with ⟨calls, follows, ⟨rfl, _⟩ | ⟨rfl, _⟩⟩
    · exact ⟨[], follows, nofun⟩
    · refine ⟨_, follows, ?_⟩
      intro made member
      rw [List.mem_singleton.mp member]
      exact .list

variable {settings : Settings} {environment : Environment} {launcher : Launcher}

/-- A provisioner that is made for a pool has what the pool asks with. -/
theorem serves_ofPool
    {pool : Pool}
    (ordered : pool.InOrder environment)
    {provisioner : Provisioner}
    (made : ofPool settings environment launcher pool = .ok provisioner) :
    provisioner.Serves pool environment := by
  rcases ordered.auth with ⟨token, found, given⟩
  rcases bind_eq_ok_iff.mp made with ⟨own, same, further⟩
  rw [found] at same
  cases same
  rcases bind_eq_ok_iff.mp further with ⟨matcher, _, last⟩
  split at last
  · cases last
  · cases last
    exact ⟨token, found, given, rfl, rfl⟩

end Provisioner

/-! ## Fleets -/

/-- What a fleet holds under the names of pools has what these pools ask with. -/
def Fleet.Serves (fleet : Fleet) (pools : List Pool) (environment : Environment) : Prop :=
  ∀ pool ∈ pools, ∀ provisioner,
    fleet.provisioners.lookup pool.name = some provisioner →
      provisioner.Serves pool environment

theorem Visit.forge_leftProvisioner (visit : Visit) :
    visit.leftProvisioner.forge = visit.provisioner.forge := by
  rcases visit with ⟨pool, provisioner, status, world⟩
  rw [leftProvisioner, outcome, Provisioner.reconcile, Act.run_bind]
  generalize (Provisioner.observe pool status.cleared).run world = observed
  rcases observed with ⟨⟨shown, count⟩, listed⟩
  cases count with
  | error failure => rfl
  | ok active => rfl

namespace Fleet

variable
  {fleet last : Fleet}
  {world after : World}
  {pools : List Pool}
  {environment : Environment}
  (distinct : (pools.map (·.name)).Nodup)

include distinct

/-- A visit leaves a pool's provisioner its forge, and all others alone. -/
theorem Serves.enter
    (serves : fleet.Serves pools environment)
    {visit : Visit}
    (member : visit.pool ∈ pools)
    (found : fleet.provisioners.lookup visit.pool.name = some visit.provisioner) :
    (fleet.enter visit).Serves pools environment := by
  intro pool among provisioner provided
  by_cases same : pool.name = visit.pool.name
  · have equal : pool = visit.pool := List.inj_on_of_nodup_map distinct among member same
    subst equal
    rw [Fleet.enter, Table.lookup_put_self] at provided
    cases provided
    rcases serves visit.pool member visit.provisioner found with
      ⟨token, own, given, address, credential⟩
    refine ⟨token, own, given, ?_, ?_⟩
    · rw [visit.forge_leftProvisioner]
      exact address
    · rw [visit.forge_leftProvisioner]
      exact credential
  · rw [Fleet.enter, Table.lookup_put_of_ne same] at provided
    exact serves pool among provisioner provided

/-- In every visit of a course the provisioner has what the pool asks with. -/
theorem Course.serves
    {visits : List Visit}
    (course : Course fleet world visits last after)
    (among : ∀ visit ∈ visits, visit.pool ∈ pools)
    (serves : fleet.Serves pools environment) :
    ∀ visit ∈ visits, visit.provisioner.Serves visit.pool environment := by
  induction course with
  | nil => exact List.forall_mem_nil _
  | idle _ _ _ ih => exact ih among serves
  | @visit _ _ visit _ _ found _ _ ih =>
    rw [List.forall_mem_cons] at among ⊢
    rcases among with ⟨member, others⟩
    exact ⟨serves visit.pool member visit.provisioner found,
      ih others (serves.enter distinct member found)⟩

omit distinct in
/-- A course makes the calls of its visits, and waits. -/
theorem Course.calls
    {visits : List Visit}
    (course : Course fleet world visits last after) :
    world.Makes (fun made => made.isWait = true ∨ ∃ visit ∈ visits, made ∈ visit.calls) after := by
  induction course with
  | nil => exact (World.makes_isCourse _).refl _
  | idle follows waits _ ih =>
    apply (World.makes_isCourse _).trans ?_ ih
    exact ⟨_, follows, fun made member => .inl (waits made member)⟩
  | @visit _ _ visit visits _ _ _ _ ih =>
    have own :
        visit.world.Makes
          (fun made =>
            made.isWait = true ∨ ∃ other ∈ visit :: visits, made ∈ other.calls)
          visit.outcome.2 :=
      ⟨visit.calls, visit.follows, fun made member => .inr ⟨visit, List.mem_cons_self, member⟩⟩
    apply (World.makes_isCourse _).trans own
    rcases ih with ⟨calls, follows, each⟩
    refine ⟨calls, follows, ?_⟩
    intro made member
    rcases each made member with waits | ⟨other, among, called⟩
    · exact .inl waits
    · exact .inr ⟨other, List.mem_cons_of_mem _ among, called⟩

end Fleet

/-- A patrol takes the credentials of its pools nowhere but where they belong.

Every visit is to one of the pools, and makes no call that the pool does not confine; apart
from waits, a patrol makes no other calls than its visits. -/
theorem patrol_confines
    (settings : Settings)
    {pools : List Pool}
    (launcher : Launcher)
    (limit : Option Int)
    {world : World}
    (valid : Pool.allViolations world.environment pools = .ok []) :
    (∀ visits ∈ patrolVisits settings pools launcher limit world,
        ∀ visit ∈ visits,
          visit.pool ∈ pools ∧
            ∀ made ∈ visit.calls, visit.pool.Confines world.environment made) ∧
      world.Makes
        (fun made =>
          made.isWait = true ∨
            ∃ visits ∈ patrolVisits settings pools launcher limit world,
              ∃ visit ∈ visits, made ∈ visit.calls)
        ((patrol settings pools launcher none limit).run.run world).2 := by
  rcases Pool.of_allViolations valid with ⟨_, distinct, each⟩
  have told := patrol_told settings distinct launcher limit world
  generalize patrolVisits settings pools launcher limit world = rounds at told
  cases told with
  | failed run =>
    rw [run]
    exact ⟨List.forall_mem_nil _, (World.makes_isCourse _).refl _⟩
  | @ran provisioners ending after _ made run course whole =>
    rw [run]
    have among {visits : List Visit} (round : visits ∈ rounds) :
        ∀ visit ∈ visits, visit.pool ∈ pools := by
      intro visit member
      rw [← whole visits round]
      exact List.mem_map_of_mem member
    -- Names are different, so what was made under a pool's name was made for this pool.
    have start : (Fleet.start pools provisioners).Serves pools world.environment := by
      intro pool member provisioner provided
      rcases Provisioner.made_of_lookup distinct made provided with ⟨other, also, same, own⟩
      have equal : other = pool := List.inj_on_of_nodup_map distinct also member same
      subst equal
      exact Provisioner.serves_ofPool (Pool.inOrder_of_violations (each _ also)) own
    constructor
    · intro visits round visit member
      have flat : visit ∈ rounds.flatten := List.mem_flatten.mpr ⟨visits, round, member⟩
      have all : ∀ visit ∈ rounds.flatten, visit.pool ∈ pools := by
        intro visit member
        rcases List.mem_flatten.mp member with ⟨visits, round, member⟩
        exact among round visit member
      have serves := course.serves distinct all start visit flat
      rcases visit.provisioner.reconcile_confines visit.pool serves visit.status visit.world
          (course.environment visit flat) with
        ⟨calls, follows, confined⟩
      refine ⟨among round visit member, ?_⟩
      rw [Visit.calls, Visit.outcome, follows.callsSince]
      exact confined
    · rcases course.calls with ⟨calls, follows, kinds⟩
      refine ⟨calls, follows, ?_⟩
      intro made member
      rcases kinds made member with waits | ⟨visit, among, called⟩
      · exact .inl waits
      · rcases List.mem_flatten.mp among with ⟨visits, round, member⟩
        exact .inr ⟨visits, round, visit, member, called⟩

end RunnerFleet
