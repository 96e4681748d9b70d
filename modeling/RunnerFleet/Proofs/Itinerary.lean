import RunnerFleet.Proofs.Containment

/-!
# The visits of a run

A run of rounds is told here by its visits: which pool was visited in which world, with which
provisioner and status, round by round.  Between two visits there is nothing but the
publication of the statuses and the wait between rounds, so a course of visits says all that
becomes of the fleet and of the world.
-/

namespace RunnerFleet

/-- The report of a failure with which a pass ended, if it did not run to its end. -/
def PassEnd.report? : PassEnd → Option Text
  | .finished _ => none
  | .startFailed fault _ => some fault.message
  | .failed failure => some failure.message

namespace Visit

variable (visit : Visit)

/-- The calls that a visit makes. -/
def calls : List Call :=
  visit.outcome.2.callsSince visit.world

theorem follows : visit.world.Follows visit.calls visit.outcome.2 := by
  rcases visit.provisioner.reconcile_does visit.pool visit.status visit.world with
    ⟨calls, follows, _⟩
  rw [Visit.calls, outcome, follows.callsSince]
  exact follows

theorem course :
    VisitCourse visit.world.outside visit.pool visit.world.moment visit.calls := by
  rcases visit.provisioner.reconcile_does visit.pool visit.status visit.world with
    ⟨calls, follows, course⟩
  rw [Visit.calls, outcome, follows.callsSince]
  exact course

/-- How the pass of a visit ends.  If the live runners cannot be counted there is no pass,
and this is the failure that it ends with. -/
def ended : PassEnd :=
  match (Provisioner.observe visit.pool visit.status.cleared).run visit.world with
  | ((_, .error failure), _) => .failed failure
  | ((_, .ok active), observed) =>
    ((visit.provisioner.pass visit.pool active).run observed).1.1

end Visit

namespace Fleet

/-! ## One round -/

/-- The visits to pools one after another. -/
def visitsAlong (fleet : Fleet) (world : World) : List Pool → List Visit
  | [] => []
  | pool :: rest =>
    match fleet.provisioners.lookup pool.name with
    | none => fleet.visitsAlong world rest
    | some provisioner =>
      let visit : Visit :=
        ⟨pool, provisioner, (fleet.statuses.lookup pool.name).getD {}, world⟩
      visit :: (fleet.enter visit).visitsAlong visit.outcome.2 rest

variable
  {settings : Settings}
  {pools : List Pool}
  {limit : Option Int}
  {fleet last : Fleet}
  {world after : World}

theorem Visits.eq_visitsAlong
    {visits : List Visit}
    (course : Visits fleet world visits last after) :
    visits = fleet.visitsAlong world (visits.map (·.pool)) := by
  induction course with
  | nil => rfl
  | cons provisioner status _ ih =>
    rw [List.map_cons, visitsAlong, provisioner]
    dsimp only
    rw [status, Option.getD_some, ← ih]

/-- Every pool that a fleet covers is visited once. -/
theorem visitsAlong_visits (covers : fleet.Covers pools) (world : World) :
    (fleet.visitsAlong world pools).map (·.pool) = pools ∧
      Visits fleet world (fleet.visitsAlong world pools) ((fleet.visitAll pools).run world).1
        ((fleet.visitAll pools).run world).2 := by
  rcases fleet.visitAll_visits covers (fun _ member => member) world with
    ⟨visits, whole, course⟩
  have same := course.eq_visitsAlong
  rw [whole] at same
  rw [← same]
  exact ⟨whole, course⟩

/-- A round makes its visits; after them it makes no call and leaves the fleet alone. -/
theorem round_visits
    {worked : FleetEnd}
    (covers : fleet.Covers pools)
    (round : (fleet.round settings pools).run world = (worked, after)) :
    ∃ between,
      Visits fleet world (fleet.visitsAlong world pools) worked.fleet between ∧
        between.Follows [] after := by
  refine ⟨((fleet.visitAll pools).run world).2, ?_⟩
  have visits := (visitsAlong_visits covers world).2
  rw [Fleet.round, Act.run_bind] at round
  split at round
  next path _ =>
    rcases of_attempting round with ⟨outcome, published, rfl⟩
    exact ⟨visits, (publish_leaves published).1⟩
  · cases round
    exact ⟨visits, .refl _⟩

/-- A wait between rounds is one call and leaves the fleet alone. -/
theorem attempting_wait
    {seconds : Int}
    {waited : FleetEnd}
    (run : (fleet.attempting (wait seconds)).run world = (waited, after)) :
    waited.fleet = fleet ∧ world.Follows [.wait seconds] after := by
  rcases of_attempting run with ⟨outcome, waiting, rfl⟩
  exact ⟨rfl, (wait_leaves waiting).1⟩

/-- A round over pools that a fleet covers leaves one that covers them. -/
theorem Visits.covers_of_whole
    {visits : List Visit}
    (course : Visits fleet world visits last after)
    (covers : fleet.Covers pools)
    (whole : visits.map (·.pool) = pools) :
    last.Covers pools := by
  refine course.covers covers ?_
  intro visit member
  rw [← whole]
  exact List.mem_map_of_mem member

/-! ## Many rounds -/

/-- The visits of rounds, round by round. -/
def itineraryFrom
    (settings : Settings)
    (pools : List Pool)
    (limit : Option Int) : Nat → Int → Fleet → World → List (List Visit)
  | 0, _, _, _ => []
  | bound + 1, completed, fleet, world =>
    if world.stopped then
      []
    else
      fleet.visitsAlong world pools ::
        match (fleet.advance settings pools limit completed).run world with
        | (.ended _, _) => []
        | (.onward fleet, world) =>
          itineraryFrom settings pools limit bound (completed + 1) fleet world

/-- The visits of all rounds of a fleet. -/
def itinerary
    (fleet : Fleet)
    (settings : Settings)
    (pools : List Pool)
    (limit : Option Int)
    (world : World) : List (List Visit) :=
  itineraryFrom settings pools limit (world.waitsLeft + 1) 0 fleet world

/-- Visits one after another, with nothing but waits between them. -/
inductive Course : Fleet → World → List Visit → Fleet → World → Prop where
  | nil {fleet : Fleet} {world : World} : Course fleet world [] fleet world
  | idle
      {fleet last : Fleet}
      {world next after : World}
      {calls : List Call}
      {visits : List Visit}
      (follows : world.Follows calls next)
      (waits : ∀ made ∈ calls, made.isWait = true)
      (rest : Course fleet next visits last after) :
      Course fleet world visits last after
  | visit
      {fleet last : Fleet}
      {visit : Visit}
      {visits : List Visit}
      {after : World}
      (provisioner :
        fleet.provisioners.lookup visit.pool.name = some visit.provisioner)
      (status : fleet.statuses.lookup visit.pool.name = some visit.status)
      (rest : Course (fleet.enter visit) visit.outcome.2 visits last after) :
      Course fleet visit.world (visit :: visits) last after

theorem Visits.append_course
    {middle : Fleet}
    {between : World}
    {visits others : List Visit}
    (course : Visits fleet world visits middle between)
    (rest : Course middle between others last after) :
    Course fleet world (visits ++ others) last after := by
  induction course with
  | nil => exact rest
  | cons provisioner status _ ih => exact .visit provisioner status (ih rest)

/-- The environment is the same in all visits. -/
theorem Course.environment
    {visits : List Visit}
    (course : Course fleet world visits last after) :
    ∀ visit ∈ visits, visit.world.environment = world.environment := by
  induction course with
  | nil => exact List.forall_mem_nil _
  | idle follows _ _ ih =>
    intro visit member
    exact (ih visit member).trans follows.environment
  | @visit _ _ first _ _ _ _ _ ih =>
    rw [List.forall_mem_cons]
    exact ⟨rfl, fun later member => (ih later member).trans first.follows.environment⟩

/-- Rounds over pools that a fleet covers visit every pool once a round, and their visits tell
what they leave. -/
theorem itineraryFrom_course
    (covers : fleet.Covers pools)
    (bound : Nat)
    (completed : Int)
    (world : World) :
    Course fleet world (itineraryFrom settings pools limit bound completed fleet world).flatten
        ((roundsFrom settings pools limit bound completed fleet).run world).1.fleet
        ((roundsFrom settings pools limit bound completed fleet).run world).2 ∧
      ∀ visits ∈ itineraryFrom settings pools limit bound completed fleet world,
        visits.map (·.pool) = pools := by
  induction bound generalizing completed fleet world with
  | zero =>
    rw [itineraryFrom]
    exact ⟨.nil, List.forall_mem_nil _⟩
  | succ bound ih =>
    rw [itineraryFrom, roundsFrom, Act.run_bind]
    cases stopped : world.stopped with
    | true =>
      rw [if_pos rfl, advance_of_stopped stopped]
      exact ⟨.nil, List.forall_mem_nil _⟩
    | false =>
      have whole := (visitsAlong_visits covers world).1
      rw [if_neg Bool.false_ne_true]
      rcases round : (fleet.round settings pools).run world with ⟨worked, ended⟩
      rcases round_visits covers round with ⟨between, visits, unpublished⟩
      cases more : worked.failure?.isSome || limit.any (· ≤ completed + 1) with
      | true =>
        rw [advance_of_last stopped round more, List.flatten_singleton,
          ← List.append_nil (fleet.visitsAlong world pools)]
        refine ⟨visits.append_course (.idle unpublished (List.forall_mem_nil _) .nil), ?_⟩
        simpa using whole
      | false =>
        rcases waited : (worked.fleet.attempting (wait settings.pollInterval)).run ended
            with ⟨waiting, next⟩
        rcases attempting_wait waited with ⟨kept, follows⟩
        have idle : ∀ made ∈ [] ++ [Call.wait settings.pollInterval], made.isWait = true := by
          simp [Call.isWait]
        rw [advance_of_more stopped round more waited]
        cases waiting.failure?.isSome with
        | true =>
          rw [if_pos rfl]
          change Course _ _ (fleet.visitsAlong world pools :: []).flatten waiting.fleet next ∧ _
          rw [kept, List.flatten_singleton, ← List.append_nil (fleet.visitsAlong world pools)]
          refine ⟨visits.append_course (.idle (unpublished.trans follows) idle .nil), ?_⟩
          simpa using whole
        | false =>
          rw [if_neg Bool.false_ne_true, kept]
          have covered := visits.covers_of_whole covers whole
          rcases ih covered (completed + 1) next with ⟨course, others⟩
          exact ⟨visits.append_course (.idle (unpublished.trans follows) idle course),
            List.forall_mem_cons.mpr ⟨whole, others⟩⟩

end Fleet

/-! ## The visits of a patrol -/

namespace Provisioner

variable {settings : Settings} {environment : Environment} {launcher : Launcher}

/-- A provisioner under a name is the one that is made for a pool, under the pool's name. -/
def MadeFor
    (settings : Settings)
    (environment : Environment)
    (launcher : Launcher)
    (pool : Pool)
    (named : Text × Provisioner) : Prop :=
  named.1 = pool.name ∧ ofPool settings environment launcher pool = .ok named.2

theorem names_of_made
    {pools : List Pool}
    {named : List (Text × Provisioner)}
    (made : List.Forall₂ (MadeFor settings environment launcher) pools named) :
    named.map (·.1) = pools.map (·.name) := by
  induction made with
  | nil => rfl
  | cons pair _ ih => rw [List.map_cons, List.map_cons, pair.1, ih]

/-- Provisioners that are made are those of the pools in order. -/
theorem made_ofPools
    {pools : List Pool}
    {provisioners : List (Text × Provisioner)}
    (distinct : (pools.map (·.name)).Nodup)
    (made : ofPools settings environment launcher pools = .ok provisioners) :
    List.Forall₂ (MadeFor settings environment launcher) pools provisioners := by
  rcases bind_eq_ok_iff.mp made with ⟨named, each, same⟩
  cases same
  have pairs : List.Forall₂ (MadeFor settings environment launcher) pools named := by
    clear made distinct
    induction pools generalizing named with
    | nil =>
      cases each
      exact .nil
    | cons pool rest ih =>
      rw [List.mapM_cons] at each
      rcases bind_eq_ok_iff.mp each with ⟨first, own, further⟩
      rcases bind_eq_ok_iff.mp own with ⟨provisioner, found, pair⟩
      rcases bind_eq_ok_iff.mp further with ⟨others, later, whole⟩
      cases pair
      cases whole
      exact .cons ⟨rfl, found⟩ (ih others later)
  rw [Table.ofPairs_of_nodup (by rw [names_of_made pairs]; exact distinct)]
  exact pairs

/-- Provisioners that are made are those of pools with different names, under their names. -/
theorem names_ofPools
    {pools : List Pool}
    {provisioners : List (Text × Provisioner)}
    (distinct : (pools.map (·.name)).Nodup)
    (made : ofPools settings environment launcher pools = .ok provisioners) :
    provisioners.map (·.1) = pools.map (·.name) :=
  names_of_made (made_ofPools distinct made)

/-- A provisioner that is found under a name was made for a pool of this name. -/
theorem made_of_lookup
    {pools : List Pool}
    {provisioners : List (Text × Provisioner)}
    (distinct : (pools.map (·.name)).Nodup)
    (made : ofPools settings environment launcher pools = .ok provisioners)
    {name : Text}
    {provisioner : Provisioner}
    (provided : provisioners.lookup name = some provisioner) :
    ∃ pool ∈ pools,
      pool.name = name ∧ ofPool settings environment launcher pool = .ok provisioner := by
  have pairs := made_ofPools distinct made
  clear made distinct
  induction pairs with
  | nil => cases provided
  | @cons pool named _ _ own _ ih =>
    rcases named with ⟨other, first⟩
    rcases own with ⟨rfl, own⟩
    rw [List.lookup_cons] at provided
    split at provided
    next same =>
      cases provided
      exact ⟨pool, List.mem_cons_self, (beq_iff_eq.mp same).symm, own⟩
    next =>
      rcases ih provided with ⟨pool, member, found⟩
      exact ⟨pool, List.mem_cons_of_mem _ member, found⟩

end Provisioner

/-- The visits of a patrol, round by round; there are none without provisioners or
workers. -/
def patrolVisits
    (settings : Settings)
    (pools : List Pool)
    (launcher : Launcher)
    (limit : Option Int)
    (world : World) : List (List Visit) :=
  match Provisioner.ofPools settings world.environment launcher pools with
  | .error _ => []
  | .ok provisioners =>
    if hasWorkers settings pools then
      (Fleet.start pools provisioners).itinerary settings pools limit world
    else
      []

/-- A patrol over pools with different names visits every pool once a round. -/
theorem patrolVisits_course
    {settings : Settings}
    {pools : List Pool}
    {launcher : Launcher}
    {world : World}
    {provisioners : List (Text × Provisioner)}
    (distinct : (pools.map (·.name)).Nodup)
    (made :
      Provisioner.ofPools settings world.environment launcher pools = .ok provisioners)
    (room : hasWorkers settings pools = true)
    (limit : Option Int) :
    ∃ ending after,
      (patrol settings pools launcher none limit).run.run world = (.ok ending, after) ∧
        Fleet.Course (Fleet.start pools provisioners) world
            (patrolVisits settings pools launcher limit world).flatten ending.fleet after ∧
          ∀ visits ∈ patrolVisits settings pools launcher limit world,
            visits.map (·.pool) = pools := by
  rcases Fleet.start_covers (Provisioner.names_ofPools distinct made) distinct with
    ⟨covers, _⟩
  rw [patrolVisits, made]
  dsimp only
  rw [if_pos room]
  exact ⟨_, _, patrol_run made (by nofun) room limit, Fleet.itineraryFrom_course covers _ _ _⟩

/-- Visits, round by round, that tell how a patrol goes that has to make its provisioners.
Without provisioners or workers it fails at once, and there are none; otherwise it ends well,
the visits lead from the fleet at the start to the one at the end, and every round visits every
pool. -/
inductive PatrolTold
    (settings : Settings)
    (pools : List Pool)
    (launcher : Launcher)
    (limit : Option Int)
    (world : World) : List (List Visit) → Prop where
  | failed
      {failure : Failure}
      (run :
        (patrol settings pools launcher none limit).run.run world = (.error failure, world)) :
      PatrolTold settings pools launcher limit world []
  | ran
      {provisioners : List (Text × Provisioner)}
      {ending : FleetEnd}
      {after : World}
      {visits : List (List Visit)}
      (made :
        Provisioner.ofPools settings world.environment launcher pools = .ok provisioners)
      (run :
        (patrol settings pools launcher none limit).run.run world = (.ok ending, after))
      (course :
        Fleet.Course (Fleet.start pools provisioners) world visits.flatten ending.fleet after)
      (whole : ∀ round ∈ visits, round.map (·.pool) = pools) :
      PatrolTold settings pools launcher limit world visits

theorem patrol_told
    (settings : Settings)
    {pools : List Pool}
    (distinct : (pools.map (·.name)).Nodup)
    (launcher : Launcher)
    (limit : Option Int)
    (world : World) :
    PatrolTold settings pools launcher limit world
      (patrolVisits settings pools launcher limit world) := by
  have looked :
      (patrol settings pools launcher none limit).run.run world =
        (do
          let provisioners ←
            liftExcept (Provisioner.ofPools settings world.environment launcher pools)
          if hasWorkers settings pools then
            (Fleet.start pools provisioners).rounds settings pools limit
          else
            throw .workersNotPositive : Attempt FleetEnd).run.run world :=
    rfl
  cases made : Provisioner.ofPools settings world.environment launcher pools with
  | error failure =>
    rw [patrolVisits, made]
    rw [made] at looked
    exact .failed looked
  | ok provisioners =>
    cases room : hasWorkers settings pools with
    | true =>
      rcases patrolVisits_course distinct made room limit with ⟨_, _, run, course, whole⟩
      exact .ran made run course whole
    | false =>
      rw [patrolVisits, made, room]
      rw [made, room] at looked
      exact .failed looked

end RunnerFleet
