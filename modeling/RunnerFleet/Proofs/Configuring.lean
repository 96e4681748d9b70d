import RunnerFleet.Proofs.Completeness
import RunnerFleet.Proofs.Itinerary
import RunnerFleet.Proofs.Loading

/-!
# A configuration in order stays in order

The checks at the start of the service imply what its parts take for granted later: that
there is a matcher of the configured name, that a ledger has a positive lifetime, that a
pool's scope is known, and that the credential for registration is there.  So a service that
calls on anything outside has a configuration in order, and no pass of it can end for want of
one.
-/

namespace RunnerFleet

/-! ## Failures of a configuration -/

/-- Whether a failure is one of the configuration and not of anything outside. -/
def Failure.OfConfiguration : Failure → Prop
  | .unknownScope _ | .unknownMatcher _ | .lifetimeNotPositive => True
  | _ => False

/-- Whether the starting of runners ended for want of a credential, or with a failure of the
configuration. -/
def StartsEnd.OfConfiguration : StartsEnd → Prop
  | .fault (.noToken _ _) => True
  | .fault (.start _ _ _) => False
  | .failure cause => cause.OfConfiguration

/-- Whether a pass ended for want of a credential, or with a failure of the configuration. -/
def PassEnd.OfConfiguration : PassEnd → Prop
  | .finished _ => False
  | .startFailed (.noToken _ _) _ => True
  | .startFailed (.start _ _ _) _ => False
  | .failed failure => failure.OfConfiguration

/-- An outcome that is no failure of the configuration. -/
def Blameless {Answer : Type} (outcome : Except Failure Answer) : Prop :=
  ∀ failure, outcome = .error failure → ¬ failure.OfConfiguration

namespace Blameless

variable {Source Item Answer : Type}

protected theorem ok (answer : Answer) : Blameless (.ok answer) :=
  nofun

protected theorem error
    {failure : Failure}
    (outside : ¬ failure.OfConfiguration) :
    Blameless (.error failure : Except Failure Answer) := by
  intro other equal
  cases equal
  exact outside

protected theorem bind
    {first : Except Failure Item}
    {second : Item → Except Failure Answer}
    (begins : Blameless first)
    (continues : ∀ item, Blameless (second item)) :
    Blameless (first >>= second) := by
  intro failure failed
  rcases bind_eq_error_iff.mp failed with failed | ⟨item, _, failed⟩
  · exact begins failure failed
  · exact continues item failure failed

protected theorem mapM
    {read : Source → Except Failure Item}
    (each : ∀ entry, Blameless (read entry))
    (entries : List Source) :
    Blameless (entries.mapM read) := by
  intro failure failed
  rcases mapM_eq_error_iff.mp failed with ⟨_, entry, _, _, _, unread⟩
  exact each entry failure unread

end Blameless

/-! ## What the forge's answers can be blamed for -/

theorem Value.elements_blameless (value : Value) : Blameless value.elements := by
  cases value with
  | list items => exact .ok _
  | text content => exact .ok _
  | object fields => exact .ok _
  | null | bool | int | real => exact .error not_false

theorem Job.ofValue_blameless (entry : Value) : Blameless (Job.ofValue entry) := by
  cases entry with
  | object fields =>
    rw [Job.ofValue]
    split
    · exact .error not_false
    · exact .bind (Value.elements_blameless _) fun _ => .ok _
  | null | bool | int | real | text | list => exact .error not_false

theorem Repository.ofFullName_blameless (fullName : Value) :
    Blameless (Repository.ofFullName fullName) := by
  cases fullName with
  | text content => exact .ok _
  | list items =>
    rw [ofFullName]
    split
    · exact .error not_false
    · exact .ok _
  | object fields =>
    rw [ofFullName]
    split
    · exact .error not_false
    · exact .ok _
  | null | bool | int | real => exact .error not_false

theorem Repository.ofValue_blameless (entry : Value) : Blameless (Repository.ofValue entry) := by
  cases entry with
  | object fields =>
    have named (owner name fullName : Value) :
        Blameless
          (if owner.truthy && name.truthy then
            pure { owner, name, fullName }
          else
            throw (.malformed (.repositoryName (.object fields))) :
              Except Failure Repository) := by
      split
      · exact .ok _
      · exact .error not_false
    rw [Repository.ofValue]
    split
    · rw [pure_bind]
      dsimp only
      split
      · exact named _ _ _
      · rw [map_eq_pure_bind]
        refine .bind (.bind (ofFullName_blameless _) fun found => .ok _) fun pair => ?_
        exact named _ _ _
    · exact .error not_false
  | null | bool | int | real | text | list => exact .error not_false

theorem Forge.content_blameless (nesting : Nat) (operation : String) (reply : Reply) :
    Blameless (Reply.content nesting operation reply) := by
  intro failure failed
  cases Forge.content_eq_error_iff.mp failed with
  | _ => exact not_false

theorem Exchange.failure?_blameless
    {exchange : Exchange}
    {failure : Failure}
    (fault : exchange.failure? = some failure) :
    ¬ failure.OfConfiguration := by
  rw [Exchange.failure?] at fault
  split at fault
  · refine Blameless.bind (Forge.content_blameless _ _ _) ?_ failure
      (failureOf_eq_some_iff.mp fault)
    intro data
    cases data with
    | object fields =>
      exact .bind (Value.elements_blameless _) fun entries => .mapM Job.ofValue_blameless entries
    | null | bool | int | real | text | list => exact .error not_false
  · refine Blameless.bind (Forge.content_blameless _ _ _) ?_ failure
      (failureOf_eq_some_iff.mp fault)
    intro data
    cases data with
    | list entries => exact .mapM Repository.ofValue_blameless entries
    | null | bool | int | real | text | object => exact .error not_false

/-- A fetch within a known scope is not the fault of the configuration. -/
theorem Forge.fetchQueued_blameless
    (forge : Forge)
    (scope : Scope)
    (organisation user repository : Text)
    (offered : List Text)
    (world : World) :
    Act.Does (forge.fetchQueued (.known scope) organisation user repository offered).run world
      fun outcome _ _ => Blameless outcome := by
  apply (forge.fetchQueued_fetches scope organisation user repository offered world).mono
  intro outcome calls after _ course
  cases course with
  | completed _ _ => exact .ok _
  | broken _ _ fault => exact .error (Exchange.failure?_blameless fault)
  | cancelled _ _ _ => exact .error not_false

/-! ## Passes -/

theorem Survey.of_blameless
    {ledger : Ledger}
    {now : Float}
    {claimed : List Key}
    {jobs : List Job}
    {failure : Failure}
    (failed : (of ledger now claimed jobs).failure? = some failure) :
    ¬ failure.OfConfiguration := by
  rcases of_failure?_eq_some failed with ⟨_, _, _, _, _, _, rfl⟩
  exact not_false

theorem Launcher.countLive_blameless (pool : Pool) (world : World) :
    Act.Does (countLive pool).run world fun outcome _ _ => Blameless outcome := by
  refine Act.Does.attempt_bind
    (Act.Does.attempt_lift ((listContainers_does world pool.name).mono ?_))
  intro outcome calls after _ _
  cases outcome with
  | error fault =>
    dsimp only
    split
    · exact Act.Does.pure (.error not_false)
    · exact Act.Does.pure (.error not_false)
  | ok states =>
    exact Act.Does.attempt_bind
      (Act.Does.attempt_lift (Act.Does.noteAll (Act.Does.pure (.ok _))))

theorem Launcher.start_blameless
    (launcher : Launcher)
    (pool : Pool)
    (labels : List Text)
    (token : Text)
    (world : World) :
    Act.Does (launcher.start pool labels token).run world fun outcome _ _ =>
      Blameless outcome := by
  refine Act.Does.attempt_bind (Act.Does.attempt_lift ((drawSuffix_does _ _).mono ?_))
  intro suffix _ named _ _
  refine Act.Does.attempt_bind (Act.Does.attempt_lift ((runContainer_does _ _).mono ?_))
  intro outcome calls after _ _
  cases outcome with
  | error fault =>
    dsimp only
    split
    · exact Act.Does.pure (.error not_false)
    · exact Act.Does.pure (.error not_false)
  | ok done =>
    exact Act.Does.attempt_bind
      (Act.Does.attempt_lift (Act.Does.noteAll (Act.Does.pure (.ok _))))

namespace Provisioner

variable (provisioner : Provisioner) (pool : Pool)

theorem observe_blameless (status : PoolStatus) (world : World) :
    (observe pool status).Does world fun answer _ _ => Blameless answer.2 := by
  apply Act.Does.bind
  apply (Launcher.countLive_blameless pool world).mono
  intro outcome calls after _ blameless
  cases outcome with
  | error failure => exact Act.Does.pure (.error (blameless failure rfl))
  | ok active =>
    refine Act.Does.bind (Act.Does.now ?_)
    split
    · exact Act.Does.pure (.error not_false)
    · dsimp only
      split
      · exact Act.Does.bind (Act.Does.noteAll (Act.Does.pure (.ok _)))
      · exact Act.Does.pure (.error not_false)

theorem startEach_blameless
    (token : Text)
    (labels : List Text)
    (candidates : List Candidate)
    (world : World) :
    (provisioner.startEach pool token labels candidates).Does world fun starts _ _ =>
      ∀ ending, starts.ended = some ending → ¬ ending.OfConfiguration := by
  induction candidates generalizing world with
  | nil => exact Act.Does.pure nofun
  | cons candidate rest ih =>
    refine Act.Does.bind (Act.Does.isStopped ?_)
    split
    · refine Act.Does.pure ?_
      rintro ending equal
      cases equal
      exact not_false
    · apply Act.Does.bind
      apply (provisioner.launcher.start_blameless pool labels token world).mono
      intro outcome calls after _ blameless
      cases outcome with
      | error failure =>
        refine Act.Does.pure ?_
        rintro ending equal
        cases equal
        rw [startsEnd]
        split
        · exact not_false
        · exact blameless failure rfl
      | ok runner =>
        refine Act.Does.bind (Act.Does.now (Act.Does.bind (Act.Does.noteAll ?_)))
        apply Act.Does.bind
        apply (ih _).mono
        intro starts _ _ _ ends
        exact Act.Does.pure ends

/-- Where the credential for registration is there, the starting of runners does not end for
want of one. -/
theorem startAll_blameless
    (labels : List Text)
    (candidates : List Candidate)
    {world : World}
    {token : Text}
    (found : pool.registrationToken world.environment = .ok (some token))
    (given : token ≠ []) :
    (provisioner.startAll pool labels candidates).Does world fun starts _ _ =>
      ∀ ending, starts.ended = some ending → ¬ ending.OfConfiguration := by
  simp only [startAll]
  split
  · refine Act.Does.pure ?_
    intro ending none
    cases none
  · refine Act.Does.bind (Act.Does.get ?_)
    rw [found]
    dsimp only
    rw [if_neg (by simpa using given)]
    exact provisioner.startEach_blameless pool token labels candidates world

theorem prospect_blameless
    {scope : Scope}
    (known : pool.scope = .known scope)
    (world : World) :
    Act.Does (provisioner.prospect pool).run world fun outcome _ _ => Blameless outcome := by
  have fetches (noted : World) :
      Act.Does (provisioner.fetch pool).run noted fun fetched _ _ => Blameless fetched := by
    rw [fetch, known]
    exact provisioner.forge.fetchQueued_blameless scope _ _ _ _ _
  apply (provisioner.prospect_does pool fun noted _ _ => fetches noted).mono
  rintro outcome calls after _ ⟨fetched, blameless, prospecting⟩
  cases prospecting with
  | unfetched failure => exact .error (blameless failure rfl)
  | unsurveyed jobs time failure failed => exact .error (Survey.of_blameless failed)
  | surveyed prospect surveyed => exact .ok prospect

/-- What ends the part of a pass that starts runners is not the configuration. -/
theorem provide_blameless
    (active : Int)
    (prospect : Prospect)
    {world : World}
    {token : Text}
    (found : pool.registrationToken world.environment = .ok (some token))
    (given : token ≠ []) :
    (provisioner.provide pool active prospect).Does world fun answer _ _ =>
      ¬ answer.1.OfConfiguration := by
  apply provisioner.provide_parts pool
  apply (provisioner.startAll_blameless pool _ _ found given).mono
  rintro ⟨made, ended⟩ calls after _ ends ending noted concludes _ _
  cases concludes with
  | finished _ => exact not_false
  | unwritable _ => exact not_false
  | fault fault =>
    have outside := ends (.fault fault) rfl
    cases fault with
    | noToken name variableName => exact absurd trivial outside
    | start name job failure => exact not_false
  | failure failure => exact ends (.failure failure) rfl

/-- A pass over a pool whose scope is known and whose credential for registration is there
does not end for want of these. -/
theorem pass_blameless
    (active : Int)
    {scope : Scope}
    (known : pool.scope = .known scope)
    {world : World}
    {token : Text}
    (found : pool.registrationToken world.environment = .ok (some token))
    (given : token ≠ []) :
    (provisioner.pass pool active).Does world fun answer _ _ =>
      ¬ answer.1.OfConfiguration := by
  by_cases full : freeSlots pool active = 0
  · rw [provisioner.pass_of_full pool full]
    split
    · exact Act.Does.bind (Act.Does.noteAll (Act.Does.pure not_false))
    · exact Act.Does.pure not_false
  · rw [provisioner.pass_of_free pool full]
    apply Act.Does.bind
    apply (provisioner.prospect_blameless pool known world).mono
    intro outcome _ fetched follows blameless
    cases outcome with
    | error failure => exact Act.Does.pure (blameless failure rfl)
    | ok prospect =>
      rw [← follows.environment] at found
      apply (provisioner.provide_blameless pool active prospect found given).mono
      intro answer _ _ _ outside
      exact outside

end Provisioner

/-- A visit to such a pool does not end for want of these either. -/
theorem Visit.ended_blameless
    (visit : Visit)
    {scope : Scope}
    (known : visit.pool.scope = .known scope)
    {token : Text}
    (found : visit.pool.registrationToken visit.world.environment = .ok (some token))
    (given : token ≠ []) :
    ¬ visit.ended.OfConfiguration := by
  rcases Provisioner.observe_blameless visit.pool visit.status.cleared visit.world with
    ⟨calls, follows, blameless⟩
  rw [ended]
  generalize (Provisioner.observe visit.pool visit.status.cleared).run visit.world = result
    at follows blameless
  rcases result with ⟨⟨observed, count⟩, listed⟩
  cases count with
  | error failure => exact blameless failure rfl
  | ok active =>
    rw [← follows.environment] at found
    rcases visit.provisioner.pass_blameless visit.pool active known found given with
      ⟨_, _, outside⟩
    exact outside

/-! ## What is checked at the start -/

/-- Settings in order. -/
structure Settings.InOrder (settings : Settings) : Prop where
  pollInterval : 1 ≤ settings.pollInterval
  pageSize : 1 ≤ settings.pageSize
  maxWorkers : 1 ≤ settings.maxWorkers
  labelMatching : ∃ matcher, Matcher.ofName? settings.labelMatching = some matcher
  lifetime : ¬ settings.lifetime ≤ 0.0
  requestTimeout : ¬ settings.requestTimeout ≤ 0.0

/-- A pool in order within an environment. -/
structure Pool.InOrder (environment : Environment) (pool : Pool) : Prop where
  named : pool.name ≠ []
  /-- The scope is one of the four, with all qualifiers that it needs and none that it
  excludes. -/
  scope :
    ∃ scope,
      pool.scope = .known scope ∧
        (∀ qualifier ∈ scope.required, pool.qualifier qualifier ≠ []) ∧
          ∀ qualifier ∈ scope.forbidden, pool.qualifier qualifier = []
  address : isWebAddress pool.url = true
  capacity : 1 ≤ pool.capacity
  auth : ∃ token, pool.authToken environment = .ok (some token) ∧ token ≠ []
  registration : ∃ token, pool.registrationToken environment = .ok (some token) ∧ token ≠ []

theorem Settings.inOrder_of_violations
    {settings : Settings}
    (accepted : settings.violations = []) :
    settings.InOrder := by
  rcases settings.of_violations accepted with ⟨workers, lifetime, matching⟩
  simp only [violations, List.append_eq_nil_iff, ite_eq_right_iff, reduceCtorEq,
    decide_eq_true_eq, imp_false] at accepted
  rcases accepted with ⟨⟨⟨⟨⟨poll, timeout⟩, page⟩, _⟩, _⟩, _⟩
  exact ⟨by omega, by omega, workers, matching, lifetime, timeout⟩

namespace Pool

variable {environment : Environment}

theorem exists_of_isGiven {token : Option Text} (given : isGiven token = true) :
    ∃ content, token = some content ∧ content ≠ [] := by
  cases token with
  | none => cases given
  | some content => exact ⟨content, rfl, by simpa [isGiven] using given⟩

theorem inOrder_of_violations
    {pool : Pool}
    (valid : pool.violations environment = .ok []) :
    pool.InOrder environment := by
  rcases bind_eq_ok_iff.mp valid with ⟨auth, authFound, further⟩
  rcases bind_eq_ok_iff.mp further with ⟨registration, registrationFound, none⟩
  simp only [pure, Except.pure, Except.ok.injEq, List.append_eq_nil_iff, ite_eq_left_iff,
    reduceCtorEq, imp_false, Bool.not_eq_true, Bool.not_eq_false] at none
  rcases none with ⟨⟨⟨⟨⟨named, scope⟩, address⟩, capacity⟩, authGiven⟩, registrationGiven⟩
  rcases exists_of_isGiven authGiven with ⟨authToken, rfl, authContent⟩
  rcases exists_of_isGiven registrationGiven with ⟨token, rfl, content⟩
  refine ⟨by simpa using named, ?_, address, by simpa using capacity,
    ⟨authToken, authFound, authContent⟩, ⟨token, registrationFound, content⟩⟩
  rw [scopeViolations] at scope
  cases kind : pool.scope with
  | unknown value =>
    rw [kind] at scope
    cases scope
  | known scope' =>
    rw [kind] at scope
    simp only [List.append_eq_nil_iff, List.map_eq_nil_iff, List.filter_eq_nil_iff] at scope
    exact ⟨scope', rfl, by simpa using scope.1, by simpa using scope.2⟩

end Pool

namespace Service

/-- Only pools without violations come out of their preparation. -/
theorem of_preparePools
    {world : World}
    {pools : List Pool}
    (prepared : (preparePools.run world).1 = .ok pools) :
    Pool.load world.outside.limits.fileNesting world.environment world.directory =
      .ok pools ∧
      Pool.allViolations world.environment pools = .ok [] := by
  cases loaded : Pool.load world.outside.limits.fileNesting world.environment world.directory with
  | error fault =>
    rcases preparePools_of_fault world loaded with ⟨lines, run⟩
    rw [run] at prepared
    split at prepared
    · cases prepared
    · cases prepared
  | ok others =>
    rcases preparePools_of_pools world loaded with ⟨lines, run⟩
    rw [run] at prepared
    split at prepared
    · cases prepared
    next none =>
      cases prepared
      exact ⟨rfl, none⟩
    · cases prepared

theorem preparePools_noted (world : World) :
    ∃ lines, (preparePools.run world).2 = noted world lines := by
  cases loaded : Pool.load world.outside.limits.fileNesting world.environment world.directory with
  | error fault =>
    rcases preparePools_of_fault world loaded with ⟨lines, run⟩
    rw [run]
    split
    · exact ⟨_, rfl⟩
    · exact ⟨_, rfl⟩
  | ok pools =>
    rcases preparePools_of_pools world loaded with ⟨lines, run⟩
    rw [run]
    split
    · exact ⟨_, rfl⟩
    · exact ⟨_, rfl⟩
    · exact ⟨_, rfl⟩

theorem noted_noted (world : World) (first second : List LogLine) :
    noted (noted world first) second = noted world (first ++ second) := by
  rw [noted, noted, noted, List.append_assoc]

theorem examineSettings_run (settings : Settings) (world : World) :
    ∃ lines,
      (examineSettings settings).run world =
        (if settings.violations.isEmpty then none else some 1, noted world lines) := by
  rw [examineSettings]
  split
  · refine ⟨[], ?_⟩
    rw [noted, List.append_nil]
    rfl
  · rw [Act.run_bind, reportAll, forM_note_run]
    exact ⟨_, rfl⟩

/-- The preparation of the service adds to the log and does nothing else, and it succeeds
only with settings and pools that violate nothing. -/
theorem prepare_run (settings : Settings) (world : World) :
    ∃ lines,
      ((prepare settings).run world).2 = noted world lines ∧
        ∀ pools,
          ((prepare settings).run world).1 = .ok pools →
            settings.violations = [] ∧
              Pool.load world.outside.limits.fileNesting world.environment world.directory =
                .ok pools ∧
                Pool.allViolations world.environment pools = .ok [] := by
  rw [prepare, Act.run_bind, note_run, Act.run_bind, forM_note_run, Act.run_bind, noted_noted]
  generalize [_] ++ settings.lines.map _ = opening
  rcases examineSettings_run settings (noted world opening) with ⟨examination, examined⟩
  rw [examined, noted_noted]
  generalize opening ++ examination = known
  cases accepted : settings.violations.isEmpty with
  | false => exact ⟨known, rfl, nofun⟩
  | true =>
    have sound := @of_preparePools (noted world known)
    rcases preparePools_noted (noted world known) with ⟨more, left⟩
    rw [noted_noted] at left
    rw [if_pos rfl]
    dsimp only
    rw [Act.run_bind]
    generalize preparePools.run (noted world known) = result at sound left
    rcases result with ⟨outcome, loaded⟩
    obtain rfl : loaded = noted world (known ++ more) := left
    cases outcome with
    | error ending => exact ⟨known ++ more, rfl, nofun⟩
    | ok pools =>
      dsimp only
      rw [Act.run_bind, forM_note_run, noted_noted]
      refine ⟨_, rfl, ?_⟩
      intro others equal
      cases equal
      exact ⟨List.isEmpty_iff.mp accepted, sound rfl⟩

end Service

/-- A service that makes any call has a configuration in order: its settings, and pools that
are loaded, of different names, and each in order.  As long as the environment stays what it
is, provisioners can then be made for these pools, and no visit of any patrol over them ends
for want of something that the configuration was to give. -/
theorem Service.run_inOrder
    (settings : Settings)
    (world : World)
    (called : ((Service.run settings).run world).2.callsSince world ≠ []) :
    settings.InOrder ∧
      ∃ pools,
        Pool.load world.outside.limits.fileNesting world.environment world.directory =
          .ok pools ∧
          pools ≠ [] ∧
            (pools.map (·.name)).Nodup ∧
              (∀ pool ∈ pools, pool.InOrder world.environment) ∧
                ∀ launcher limit later,
                  later.environment = world.environment →
                    (∃ provisioners,
                        Provisioner.ofPools settings later.environment launcher pools =
                          .ok provisioners) ∧
                      ∀ visits ∈ patrolVisits settings pools launcher limit later,
                        ∀ visit ∈ visits, ¬ visit.ended.OfConfiguration := by
  rcases prepare_run settings world with ⟨lines, prepared, sound⟩
  rw [run, Act.run_bind] at called
  generalize (prepare settings).run world = result at called prepared sound
  rcases result with ⟨outcome, ready⟩
  obtain rfl : ready = noted world lines := prepared
  cases outcome with
  | error ending =>
    have idle : (noted world lines).callsSince world = [] := by
      simp [noted, World.callsSince]
    exact absurd idle called
  | ok pools =>
    rcases sound pools rfl with ⟨accepted, loaded, valid⟩
    rcases Pool.of_allViolations valid with ⟨given, distinct, each⟩
    have ordered : ∀ pool ∈ pools, pool.InOrder world.environment :=
      fun pool member => Pool.inOrder_of_violations (each pool member)
    refine ⟨Settings.inOrder_of_violations accepted, pools, loaded, given, distinct, ordered, ?_⟩
    intro launcher limit later unchanged
    rw [← unchanged] at valid
    rcases Provisioner.exists_ofPools accepted launcher valid with ⟨provisioners, made, _⟩
    refine ⟨⟨provisioners, made⟩, ?_⟩
    rcases patrolVisits_course distinct made (hasWorkers_of_accepted accepted pools) limit with
      ⟨ending, after, _, course, whole⟩
    intro visits round visit member
    have among : visit.pool ∈ pools := by
      rw [← whole visits round]
      exact List.mem_map_of_mem member
    have same : visit.world.environment = world.environment :=
      (course.environment visit (List.mem_flatten.mpr ⟨visits, round, member⟩)).trans unchanged
    rcases (ordered visit.pool among).scope with ⟨scope, known, _⟩
    rcases (ordered visit.pool among).registration with ⟨token, found, content⟩
    rw [← same] at found
    exact visit.ended_blameless known found content

/-- A world whose environment configures a pool that serves the whole forge, and which brings
the stop signal with the second wait. -/
def World.configured : World :=
  { World.waiting 1000.0 with
    environment :=
      [("GITEA_AUTH_TOKEN", "secret"), ("GITEA_RUNNER_REGISTRATION_TOKEN", "secret"),
        ("SCOPE", "global"), ("GITEA_URL", "http://forge")]
    waitsLeft := 2 }

/-- The service works in this world, and what it makes visits of is in order. -/
theorem Service.run_inOrder_configured :
    let settings := Settings.plain
    let world := World.configured
    ((Service.run settings).run world).2.callsSince world ≠ [] ∧
      settings.InOrder ∧
        ∃ pools,
          Pool.load world.outside.limits.fileNesting world.environment world.directory =
            .ok pools ∧
            (∀ pool ∈ pools, pool.InOrder world.environment) ∧
              (patrolVisits settings pools settings.launcher none world).map List.length =
                  [1, 1] ∧
                ∀ visits ∈ patrolVisits settings pools settings.launcher none world,
                  ∀ visit ∈ visits, ¬ visit.ended.OfConfiguration := by
  intro settings world
  have called : ((Service.run settings).run world).2.callsSince world ≠ [] := by
    decide +kernel
  have twice :
      (match Pool.load world.outside.limits.fileNesting world.environment world.directory with
        | .ok pools =>
          (patrolVisits settings pools settings.launcher none world).map List.length == [1, 1]
        | .error _ => false) = true := by
    decide +kernel
  rcases Service.run_inOrder settings world called with
    ⟨accepted, pools, loaded, _, _, ordered, later⟩
  rw [loaded] at twice
  exact ⟨called, accepted, pools, loaded, ordered, by simpa using twice,
    (later settings.launcher none world rfl).2⟩

end RunnerFleet
