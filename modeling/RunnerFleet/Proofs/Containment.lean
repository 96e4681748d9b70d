import RunnerFleet.Proofs.Admission
import RunnerFleet.Proofs.Capacity
import RunnerFleet.Proofs.Exchanges
import RunnerFleet.Proofs.Failing
import RunnerFleet.Proofs.Showing

/-!
# Failures stay within their pass

A patrol over a configuration in order is told here turn by turn.  In every turn each pool
has one pass, in the order of the pools and whatever became of the passes before it, and
the statuses are published once, as they are then.  The turns end with the stop signal, with
their number, with a wait that is longer than the machine allows, or with a status that counts
too much to be written.

The invariant is that the fleet holds a provisioner and a status under the name of every
pool, in the order of the pools.
-/

namespace RunnerFleet

/-- Whether a call waits. -/
def Call.isWait : Call → Bool
  | .wait _ => true
  | _ => false

theorem VisitCourse.no_wait
    {outside : Outside}
    {pool : Pool}
    {moment : Moment}
    {calls : List Call}
    (course : VisitCourse outside pool moment calls) :
    ∀ made ∈ calls, made.isWait = false := by
  cases course with
  | unlisted => nofun
  | listed providing _ =>
    rw [List.forall_mem_cons]
    refine ⟨rfl, providing.forall_mem ?_⟩
    rintro _ _ (⟨_, request, rfl⟩ | ⟨_, runner, rfl, _⟩)
    · rfl
    · rfl

/-! ## Visits -/

/-- A pass of a pool within a turn, with what the fleet holds under the pool's name and the
world in which it begins. -/
structure Visit where
  pool : Pool
  provisioner : Provisioner
  status : PoolStatus
  world : World

namespace Visit

/-- What a visit comes to. -/
def outcome (visit : Visit) : (Provisioner × PoolStatus × Option Decision) × World :=
  (visit.provisioner.reconcile visit.pool visit.status).run visit.world

/-- The provisioner that a visit leaves. -/
def leftProvisioner (visit : Visit) : Provisioner :=
  visit.outcome.1.1

/-- The status that a visit leaves. -/
def leftStatus (visit : Visit) : PoolStatus :=
  visit.outcome.1.2.1

end Visit

namespace Fleet

/-- The fleet after a visit: what the visit leaves is entered under the pool's name. -/
def enter (fleet : Fleet) (visit : Visit) : Fleet where
  provisioners := Table.put visit.pool.name visit.leftProvisioner fleet.provisioners
  statuses := Table.put visit.pool.name visit.leftStatus fleet.statuses

/-- Visits one after another. -/
inductive Visits : Fleet → World → List Visit → Fleet → World → Prop where
  | nil {fleet : Fleet} {world : World} : Visits fleet world [] fleet world
  | cons
      {fleet last : Fleet}
      {visit : Visit}
      {visits : List Visit}
      {after : World}
      (provisioner :
        fleet.provisioners.lookup visit.pool.name = some visit.provisioner)
      (status : fleet.statuses.lookup visit.pool.name = some visit.status)
      (rest : Visits (fleet.enter visit) visit.outcome.2 visits last after) :
      Visits fleet visit.world (visit :: visits) last after

/-- A fleet holds a provisioner and a status for every pool, in the order of the pools. -/
structure Covers (fleet : Fleet) (pools : List Pool) : Prop where
  provisioners : fleet.provisioners.map (·.1) = pools.map (·.name)
  statuses : fleet.statuses.map (·.1) = pools.map (·.name)

variable {fleet last : Fleet} {pools : List Pool} {world after : World}

theorem Covers.enter
    (covers : fleet.Covers pools)
    {visit : Visit}
    (member : visit.pool ∈ pools) :
    (fleet.enter visit).Covers pools where
  provisioners := by
    have known : visit.pool.name ∈ fleet.provisioners.map (·.1) := by
      rw [covers.provisioners]
      exact List.mem_map_of_mem member
    rw [Fleet.enter, Table.keys_put_of_mem known, covers.provisioners]
  statuses := by
    have known : visit.pool.name ∈ fleet.statuses.map (·.1) := by
      rw [covers.statuses]
      exact List.mem_map_of_mem member
    rw [Fleet.enter, Table.keys_put_of_mem known, covers.statuses]

/-- Pools that a fleet covers are visited one after another. -/
theorem visitAll_visits
    (covers : fleet.Covers pools)
    {visited : List Pool}
    (among : ∀ pool ∈ visited, pool ∈ pools)
    (world : World) :
    ∃ visits,
      visits.map (·.pool) = visited ∧
        Visits fleet world visits ((fleet.visitAll visited).run world).1
          ((fleet.visitAll visited).run world).2 := by
  induction visited generalizing fleet world with
  | nil => exact ⟨[], rfl, .nil⟩
  | cons pool rest ih =>
    rcases List.forall_mem_cons.mp among with ⟨member, others⟩
    have name : pool.name ∈ pools.map (·.name) := List.mem_map_of_mem member
    rcases Table.exists_lookup_of_mem (covers.provisioners ▸ name) with ⟨provisioner, found⟩
    rcases Table.exists_lookup_of_mem (covers.statuses ▸ name) with ⟨status, known⟩
    let visit : Visit := ⟨pool, provisioner, status, world⟩
    have visited : (fleet.visit pool).run world = (fleet.enter visit, visit.outcome.2) := by
      simp only [Fleet.visit, found, known]
      rfl
    have covered : (fleet.enter visit).Covers pools := covers.enter member
    rcases ih covered others visit.outcome.2 with ⟨visits, same, further⟩
    refine ⟨visit :: visits, by rw [List.map_cons, same], ?_⟩
    rw [visitAll, Act.run_bind, visited]
    exact .cons found known further

theorem Visits.covers
    {visits : List Visit}
    (course : Visits fleet world visits last after)
    (covers : fleet.Covers pools)
    (among : ∀ visit ∈ visits, visit.pool ∈ pools) :
    last.Covers pools := by
  induction course with
  | nil => exact covers
  | cons _ _ _ ih =>
    rcases List.forall_mem_cons.mp among with ⟨member, others⟩
    exact ih (covers.enter member) others

theorem Visits.statuses_eq_foldl
    {visits : List Visit}
    (course : Visits fleet world visits last after) :
    last.statuses =
      (visits.map fun visit => (visit.pool.name, visit.leftStatus)).foldl
        (fun table pair => Table.put pair.1 pair.2 table) fleet.statuses := by
  induction course with
  | nil => rfl
  | cons _ _ _ ih => exact ih

/-- After a visit to every pool the statuses are those that the visits left, in the order of
the pools. -/
theorem Visits.statuses_eq
    {visits : List Visit}
    (course : Visits fleet world visits last after)
    (covers : fleet.Covers pools)
    (distinct : (pools.map (·.name)).Nodup)
    (whole : visits.map (·.pool) = pools) :
    last.statuses = visits.map fun visit => (visit.pool.name, visit.leftStatus) := by
  have names :
      (visits.map fun visit => (visit.pool.name, visit.leftStatus)).map (·.1) =
        pools.map (·.name) := by
    rw [← whole, List.map_map, List.map_map]
    rfl
  have same := covers.statuses.trans names.symm
  rw [← names] at distinct
  rw [course.statuses_eq_foldl]
  exact @Table.foldl_put_of_known _ _ _ _ [] _ _ same distinct

/-- No visit waits. -/
theorem Visits.follows
    {visits : List Visit}
    (course : Visits fleet world visits last after) :
    ∃ calls, world.Follows calls after ∧ ∀ made ∈ calls, made.isWait = false := by
  induction course with
  | nil => exact ⟨[], .refl _, nofun⟩
  | @cons _ _ visit _ _ _ _ _ ih =>
    rcases visit.provisioner.reconcile_does visit.pool visit.status visit.world with
      ⟨calls, follows, course⟩
    rcases ih with ⟨others, later, unwaited⟩
    exact ⟨calls ++ others, follows.trans later,
      List.forall_mem_append.mpr ⟨course.no_wait, unwaited⟩⟩

end Fleet

/-! ## Turns -/

/-- A round that ran to its end: its visits, what they left, and the world after the statuses
were published. -/
structure Turn where
  visits : List Visit
  fleet : Fleet
  visited : World
  after : World

/-- A turn publishes the statuses once, as the visits left them, if there is a file for
them. -/
def Turn.Publishes (turn : Turn) (settings : Settings) : Prop :=
  match settings.statusPath? with
  | none => turn.after = turn.visited
  | some path =>
    (publish path (statusDocument turn.fleet.statuses)).run.run turn.visited =
      (.ok (), turn.after)

/-- Why the publication of a turn failed, if it did. -/
def Turn.publishFault? (turn : Turn) (path : Text) : Option Failure :=
  (turn.visited.published path (statusDocument turn.fleet.statuses)).2

namespace Fleet

/-- Turns one after another, with one wait between any two of them.  They end because the
stop signal has arrived, with a turn after which there is no wait, with a turn whose statuses
count too much to be published, or with a wait that is longer than the machine allows. -/
inductive Turns (settings : Settings) :
    Fleet → World → List Turn → FleetEnd → World → Prop where
  | stopped
      {fleet : Fleet}
      {world : World}
      (stopped : world.stopped = true) :
      Turns settings fleet world [] ⟨fleet, none⟩ world
  | last
      {fleet : Fleet}
      {world : World}
      {turn : Turn}
      (working : world.stopped = false)
      (visits : Visits fleet world turn.visits turn.fleet turn.visited)
      (publishes : turn.Publishes settings) :
      Turns settings fleet world [turn] ⟨turn.fleet, none⟩ turn.after
  | unpublished
      {fleet : Fleet}
      {world : World}
      {turn : Turn}
      {path : Text}
      (working : world.stopped = false)
      (visits : Visits fleet world turn.visits turn.fleet turn.visited)
      (file : settings.statusPath? = some path)
      (publication :
        (publish path (statusDocument turn.fleet.statuses)).run.run turn.visited =
          (.error .tooManyDigits, turn.after))
      (overflows : turn.fleet.Overflows) :
      Turns settings fleet world [turn] ⟨turn.fleet, some .tooManyDigits⟩ turn.after
  | unwaited
      {fleet : Fleet}
      {world after : World}
      {turn : Turn}
      (working : world.stopped = false)
      (visits : Visits fleet world turn.visits turn.fleet turn.visited)
      (publishes : turn.Publishes settings)
      (wait :
        (wait settings.pollInterval).run.run turn.after = (.error .waitTooLong, after)) :
      Turns settings fleet world [turn] ⟨turn.fleet, some .waitTooLong⟩ after
  | again
      {fleet : Fleet}
      {world next after : World}
      {turn : Turn}
      {turns : List Turn}
      {ending : FleetEnd}
      (working : world.stopped = false)
      (visits : Visits fleet world turn.visits turn.fleet turn.visited)
      (publishes : turn.Publishes settings)
      (wait : (wait settings.pollInterval).run.run turn.after = (.ok (), next))
      (rest : Turns settings turn.fleet next turns ending after) :
      Turns settings fleet world (turn :: turns) ending after

end Fleet

/-! ## Rounds as turns -/

namespace Fleet

variable
  {settings : Settings}
  {fleet : Fleet}
  {pools : List Pool}
  {limit : Option Int}
  {world after : World}
  {ending : FleetEnd}

section

variable
  (covers : fleet.Covers pools)
  (counted : fleet.IsCounted)
  (spelled :
    ∀ path, settings.statusPath? = some path → ∃ given, Path.ofText path = .ok given)

include covers counted spelled

/-- A round over pools that a fleet covers is a turn.  It does not fail, unless a status that
it leaves counts too much to be published. -/
theorem round_turn
    {worked : FleetEnd}
    (round : (fleet.round settings pools).run world = (worked, after)) :
    ∃ turn : Turn,
      turn.visits.map (·.pool) = pools ∧
        Visits fleet world turn.visits turn.fleet turn.visited ∧
          turn.after = after ∧
            (worked = ⟨turn.fleet, none⟩ ∧ turn.Publishes settings ∨
              worked = ⟨turn.fleet, some .tooManyDigits⟩ ∧
                turn.fleet.Overflows ∧
                  ∃ path,
                    settings.statusPath? = some path ∧
                      (publish path (statusDocument turn.fleet.statuses)).run.run
                          turn.visited =
                        (.error .tooManyDigits, turn.after)) := by
  rcases fleet.visitAll_visits covers (fun _ member => member) world with
    ⟨visits, whole, course⟩
  have left := visitAll_isCounted counted pools world
  rw [Fleet.round, Act.run_bind] at round
  generalize (fleet.visitAll pools).run world = visited at course left round
  rcases visited with ⟨last, between⟩
  refine ⟨⟨visits, last, between, after⟩, whole, course, rfl, ?_⟩
  split at round
  next path file =>
    rcases of_attempting round with ⟨outcome, published, rfl⟩
    rcases publish_statuses left (spelled path file) between with done | ⟨failed, overflows⟩
    · rw [published] at done
      cases done
      refine .inl ⟨rfl, ?_⟩
      have file : settings.statusPath? = some path := file
      rw [Turn.Publishes, file]
      exact published
    · rw [published] at failed
      cases failed
      exact .inr ⟨rfl, overflows, path, file, published⟩
  next file =>
    cases round
    refine .inl ⟨rfl, ?_⟩
    have file : settings.statusPath? = none := file
    rw [Turn.Publishes, file]

end

/-- Rounds over pools that a fleet covers are turns.  If neither a failure nor the stop signal
ended them, there are as many as were still to be made, and at least one. -/
theorem Runs.turns
    {completed : Int}
    (runs : Runs settings pools limit completed fleet world ending after)
    (covers : fleet.Covers pools)
    (counted : fleet.IsCounted)
    (spelled :
      ∀ path, settings.statusPath? = some path → ∃ given, Path.ofText path = .ok given) :
    ∃ turns,
      Turns settings fleet world turns ending after ∧
        (∀ turn ∈ turns, turn.visits.map (·.pool) = pools) ∧
          (ending.failure? = none →
            after.stopped = false →
              ∀ number, limit = some number →
                (turns.length : Int) = max 1 (number - completed)) := by
  induction runs with
  | stopped stopped =>
    refine ⟨[], .stopped stopped, List.forall_mem_nil _, ?_⟩
    intro _ working
    rw [stopped] at working
    cases working
  | @ended completed _ _ _ _ working round last =>
    rcases round_turn covers counted spelled round with
      ⟨turn, whole, visits, rfl, ⟨rfl, publishes⟩ | ⟨rfl, overflows, path, file, failed⟩⟩
    · refine ⟨[turn], .last working visits publishes, by simpa using whole, ?_⟩
      rintro _ _ number rfl
      have reached : number ≤ completed + 1 := by simpa using last
      simp only [List.length_singleton]
      omega
    · exact ⟨[turn], .unpublished working visits file failed overflows, by simpa using whole,
        nofun⟩
  | unwaited working round more wait failed =>
    rcases round_turn covers counted spelled round with
      ⟨turn, whole, visits, rfl, ⟨rfl, publishes⟩ | ⟨rfl, _⟩⟩
    · rcases of_failed_wait wait failed with ⟨waited, rfl⟩
      exact ⟨[turn], .unwaited working visits publishes waited, by simpa using whole, nofun⟩
    · cases more
  | @again completed _ _ _ _ _ _ _ _ working round more wait succeeded rest ih =>
    have kept := (round_contained counted spelled round).1
    rcases round_turn covers counted spelled round with
      ⟨turn, whole, visits, rfl, ⟨rfl, publishes⟩ | ⟨rfl, _⟩⟩
    · rcases of_taken_wait wait succeeded with ⟨waited, rfl⟩
      have covered : turn.fleet.Covers pools := by
        refine visits.covers covers ?_
        intro visit member
        rw [← whole]
        exact List.mem_map_of_mem member
      rcases ih covered kept with ⟨turns, course, each, count⟩
      refine ⟨turn :: turns, .again working visits publishes waited course,
        List.forall_mem_cons.mpr ⟨whole, each⟩, ?_⟩
      rintro unfailed unstopped number rfl
      have left : ¬ number ≤ completed + 1 := by simpa using more
      have others := count unfailed unstopped number rfl
      rw [List.length_cons]
      omega
    · cases more

/-- What turns leave is what the last of them left, and so are the files; without a turn
nothing changes. -/
theorem Turns.ending_eq
    {turns : List Turn}
    (course : Turns settings fleet world turns ending after) :
    match turns.getLast? with
    | none => ending.fleet = fleet ∧ after = world
    | some final => ending.fleet = final.fleet ∧ after.directory = final.after.directory := by
  induction course with
  | stopped _ => exact ⟨rfl, rfl⟩
  | last _ _ _ => exact ⟨rfl, rfl⟩
  | unpublished _ _ _ _ _ => exact ⟨rfl, rfl⟩
  | unwaited _ _ _ wait => exact ⟨rfl, (wait_leaves wait).2⟩
  | @again _ _ _ _ _ turns _ _ _ _ wait _ ih =>
    cases turns with
    | nil =>
      rcases ih with ⟨same, kept⟩
      rw [kept]
      exact ⟨same, (wait_leaves wait).2⟩
    | cons first others => simpa [List.getLast?_cons] using ih

/-- The visits of a turn make no wait. -/
theorem Visits.follows_unwaited
    {visits : List Visit}
    {last : Fleet}
    (course : Visits fleet world visits last after) :
    ∃ calls, world.Follows calls after ∧ calls.filter Call.isWait = [] := by
  rcases course.follows with ⟨calls, follows, unwaited⟩
  exact ⟨calls, follows, List.filter_eq_nil_iff.mpr (by simpa using unwaited)⟩

/-- A turn makes no wait. -/
theorem follows_turn
    {turn : Turn}
    (visits : Visits fleet world turn.visits turn.fleet turn.visited)
    (publishes : turn.Publishes settings) :
    ∃ calls, world.Follows calls turn.after ∧ calls.filter Call.isWait = [] := by
  rcases visits.follows_unwaited with ⟨calls, follows, unwaited⟩
  refine ⟨calls, ?_, unwaited⟩
  rw [Turn.Publishes] at publishes
  split at publishes
  · rw [publishes]
    exact follows
  · simpa using follows.trans (publish_leaves publishes).1

/-- There is one wait between any two turns, and none after the last one unless a failure or
the stop signal ended the turns. -/
theorem Turns.waits
    {turns : List Turn}
    (course : Turns settings fleet world turns ending after) :
    ∃ calls,
      world.Follows calls after ∧
        (ending.failure? = none →
          after.stopped = false →
            calls.filter Call.isWait =
              List.replicate (turns.length - 1) (.wait settings.pollInterval)) := by
  induction course with
  | @stopped _ world _ => exact ⟨[], .refl world, fun _ _ => rfl⟩
  | last _ visits publishes =>
    rcases follows_turn visits publishes with ⟨calls, follows, unwaited⟩
    exact ⟨calls, follows, fun _ _ => unwaited⟩
  | unpublished _ visits _ publication _ =>
    rcases visits.follows with ⟨calls, follows, _⟩
    exact ⟨_, follows.trans (publish_leaves publication).1, nofun⟩
  | unwaited _ visits publishes wait =>
    rcases follows_turn visits publishes with ⟨calls, follows, _⟩
    exact ⟨_, follows.trans (wait_leaves wait).1, nofun⟩
  | @again _ _ _ _ _ turns _ _ visits publishes wait rest ih =>
    rcases follows_turn visits publishes with ⟨calls, follows, unwaited⟩
    rcases ih with ⟨others, further, waits⟩
    refine ⟨_, (follows.trans (wait_leaves wait).1).trans further, ?_⟩
    intro unfailed unstopped
    have more : turns ≠ [] := by
      rintro rfl
      cases rest with
      | stopped stopped =>
        rw [stopped] at unstopped
        cases unstopped
    obtain ⟨count, length⟩ : ∃ count, turns.length = count + 1 :=
      Nat.exists_eq_succ_of_ne_zero fun none => more (List.eq_nil_of_length_eq_zero none)
    rw [List.filter_append, List.filter_append, unwaited, waits unfailed unstopped, length,
      List.length_cons, length]
    rfl

/-- If waits are longer than the machine allows there is no second turn. -/
theorem Turns.length_le_one
    {turns : List Turn}
    (course : Turns settings fleet world turns ending after)
    (long : world.outside.limits.longestWait < settings.pollInterval) :
    turns.length ≤ 1 := by
  cases course with
  | stopped _ => exact Nat.zero_le 1
  | last _ _ _ | unpublished _ _ _ _ _ | unwaited _ _ _ _ => exact Nat.le_refl 1
  | again _ visits publishes wait rest =>
    rcases follows_turn visits publishes with ⟨_, follows, _⟩
    rw [← follows.outside] at long
    have stopped := stopped_of_long_wait wait long
    cases rest with
    | stopped _ => exact Nat.le_refl 1
    | last working | unpublished working | unwaited working | again working =>
      rw [stopped] at working
      cases working

/-- Every turn leaves the statuses of its own visits. -/
theorem Turns.statuses_eq
    {turns : List Turn}
    (course : Turns settings fleet world turns ending after)
    (covers : fleet.Covers pools)
    (distinct : (pools.map (·.name)).Nodup)
    (whole : ∀ turn ∈ turns, turn.visits.map (·.pool) = pools) :
    ∀ turn ∈ turns,
      turn.fleet.statuses =
        turn.visits.map fun visit => (visit.pool.name, visit.leftStatus) := by
  induction course with
  | stopped _ => exact List.forall_mem_nil _
  | last _ visits _ | unpublished _ visits _ _ _ | unwaited _ visits _ _ =>
    rw [List.forall_mem_singleton] at whole ⊢
    exact visits.statuses_eq covers distinct whole
  | again _ visits _ _ _ ih =>
    rw [List.forall_mem_cons] at whole ⊢
    rcases whole with ⟨first, others⟩
    have covered := visits.covers covers fun visit member => by
      rw [← first]
      exact List.mem_map_of_mem member
    exact ⟨visits.statuses_eq covers distinct first, ih covered others⟩

/-- Every turn publishes once, whatever comes of it. -/
theorem Turns.publishes
    {turns : List Turn}
    (course : Turns settings fleet world turns ending after)
    {path : Text}
    (file : settings.statusPath? = some path) :
    ∀ turn ∈ turns,
      ∃ outcome,
        (publish path (statusDocument turn.fleet.statuses)).run.run turn.visited =
          (outcome, turn.after) := by
  have succeeds {turn : Turn} (publishes : turn.Publishes settings) :
      ∃ outcome,
        (publish path (statusDocument turn.fleet.statuses)).run.run turn.visited =
          (outcome, turn.after) := by
    rw [Turn.Publishes, file] at publishes
    exact ⟨_, publishes⟩
  induction course with
  | stopped _ => exact List.forall_mem_nil _
  | last _ _ publishes => exact List.forall_mem_singleton.mpr (succeeds publishes)
  | unpublished _ _ same publication _ =>
    rw [file] at same
    cases same
    exact List.forall_mem_singleton.mpr ⟨_, publication⟩
  | unwaited _ _ publishes _ => exact List.forall_mem_singleton.mpr (succeeds publishes)
  | again _ _ publishes _ _ ih => exact List.forall_mem_cons.mpr ⟨succeeds publishes, ih⟩

/-- A turn that published leaves the document of its statuses in the file. -/
theorem readOctets_of_publishes
    {turn : Turn}
    {path : Text}
    {outcome : Except Failure Unit}
    (publication :
      (publish path (statusDocument turn.fleet.statuses)).run.run turn.visited =
        (outcome, turn.after))
    (succeeded : turn.publishFault? path = none) :
    (Json.write (.object (statusDocument turn.fleet.statuses))).whole = true ∧
      turn.after.directory.readOctets path = .ok (statusOctets turn.fleet.statuses) := by
  rw [(publish_leaves publication).2]
  exact Directory.readOctets_of_publish (Prod.ext rfl succeeded)

/-- The fleet at the start covers pools of different names. -/
theorem start_covers
    {provisioners : List (Text × Provisioner)}
    (names : provisioners.map (·.1) = pools.map (·.name))
    (distinct : (pools.map (·.name)).Nodup) :
    (start pools provisioners).Covers pools ∧
      (start pools provisioners).statuses = pools.map fun pool => (pool.name, {}) := by
  have keys : (pools.map fun pool => (pool.name, ({} : PoolStatus))).map (·.1) =
      pools.map (·.name) := by
    rw [List.map_map]
    rfl
  have same :
      Table.ofPairs (pools.map fun pool => (pool.name, ({} : PoolStatus))) =
        pools.map fun pool => (pool.name, {}) :=
    Table.ofPairs_of_nodup (by rw [keys]; exact distinct)
  refine ⟨⟨names, ?_⟩, same⟩
  rw [start, same, keys]

end Fleet

/-! ## Patrols -/

/-- An attempt that succeeds goes on from the world that it leaves. -/
theorem Act.run_attempt_bind
    {Answer Result : Type}
    {attempt : Attempt Answer}
    {next : Answer → Attempt Result}
    {world between : World}
    {answer : Answer}
    (succeeded : attempt.run.run world = (.ok answer, between)) :
    (attempt >>= next).run.run world = (next answer).run.run between := by
  rw [ExceptT.run_bind, Act.run_bind, succeeded]

theorem patrol_run
    {settings : Settings}
    {pools : List Pool}
    {launcher : Launcher}
    {prebuilt : Option (List (Text × Provisioner))}
    {world : World}
    {provisioners : List (Text × Provisioner)}
    (made :
      Provisioner.ofPools settings world.environment launcher pools = .ok provisioners)
    (built : ∀ given, prebuilt = some given → given = provisioners)
    (room : hasWorkers settings pools = true)
    (limit : Option Int) :
    (patrol settings pools launcher prebuilt limit).run.run world =
      (.ok (((Fleet.start pools provisioners).rounds settings pools limit).run world).1,
        (((Fleet.start pools provisioners).rounds settings pools limit).run world).2) := by
  have works :
      (if hasWorkers settings pools then
            liftM ((Fleet.start pools provisioners).rounds settings pools limit)
          else
            throw .workersNotPositive : Attempt FleetEnd).run.run world =
        (.ok (((Fleet.start pools provisioners).rounds settings pools limit).run world).1,
          (((Fleet.start pools provisioners).rounds settings pools limit).run world).2) := by
    rw [if_pos room]
    rfl
  rw [← works]
  cases prebuilt with
  | none =>
    have found :
        (liftExcept
            (Provisioner.ofPools settings world.environment launcher pools) :
              Attempt (List (Text × Provisioner))).run.run world =
          (.ok provisioners, world) := by
      rw [made]
      rfl
    have looked :
        (do
            let environment := (← get).environment
            liftExcept (Provisioner.ofPools settings environment launcher pools) :
              Attempt (List (Text × Provisioner))).run.run world =
          (.ok provisioners, world) :=
      found
    exact Act.run_attempt_bind looked
  | some given =>
    rw [built given rfl]
    rfl

/-- A patrol over a configuration in order does not fail, whatever the server, the container
engine and the files do, unless a wait is longer than the machine allows and the stop signal has
not arrived, or a status to be published counts more runners or jobs than can be written.

It goes in turns.  In each of them every pool has one pass, in the order of the pools, and
the statuses are published once if there is a file for them.  If the stop signal never
arrives and the number of turns is limited, there are as many as that but at least one, with
one wait between any two; if waits are longer than the machine allows there is at most one.  The
statuses at the end are those of the last turn, one for each pool, and if the last publication
succeeded the file holds the document of exactly these, and shows them.

The path of that file has to be one that can be handed to the system: every failure to publish
is then a failure of the system. -/
theorem patrol_contained
    (settings : Settings)
    (pools : List Pool)
    (launcher : Launcher)
    (prebuilt : Option (List (Text × Provisioner)))
    (limit : Option Int)
    (world : World)
    (valid : Pool.allViolations world.environment pools = .ok [])
    (accepted : settings.violations = [])
    (built : ∀ given, prebuilt = some given →
      Provisioner.ofPools settings world.environment launcher pools = .ok given)
    (spelled :
      ∀ path, settings.statusPath? = some path → ∃ given, Path.ofText path = .ok given) :
    ∃ provisioners ending after turns,
      Provisioner.ofPools settings world.environment launcher pools = .ok provisioners ∧
        (patrol settings pools launcher prebuilt limit).run.run world = (.ok ending, after) ∧
          (ending.failure? = none ∨
            (ending.failure? = some .waitTooLong ∧
              world.outside.limits.longestWait < settings.pollInterval ∧
                after.stopped = false) ∨
              ending.failure? = some .tooManyDigits ∧
                ∃ pair ∈ ending.fleet.statuses, pair.2.Overflows) ∧
            Fleet.Turns settings (Fleet.start pools provisioners) world turns ending after ∧
              (∀ turn ∈ turns, turn.visits.map (·.pool) = pools) ∧
                (world.outside.limits.longestWait < settings.pollInterval →
                  turns.length ≤ 1) ∧
                  (ending.failure? = none →
                    after.stopped = false →
                      ∀ number, limit = some number →
                        (turns.length : Int) = max 1 number ∧
                          (after.callsSince world).filter Call.isWait =
                            List.replicate (turns.length - 1)
                              (.wait settings.pollInterval)) ∧
                    match turns.getLast? with
                    | none => ending.fleet.statuses = pools.map fun pool => (pool.name, {})
                    | some final =>
                      ending.fleet.statuses =
                          (final.visits.map fun visit =>
                            (visit.pool.name, visit.leftStatus)) ∧
                        ∀ path, settings.statusPath? = some path →
                          final.publishFault? path = none →
                            after.directory.readOctets path =
                                .ok (statusOctets ending.fleet.statuses) ∧
                              Shows (statusOctets ending.fleet.statuses)
                                ending.fleet.statuses := by
  rcases Pool.of_allViolations valid with ⟨_, distinct, _⟩
  rcases Provisioner.exists_ofPools accepted launcher valid with ⟨provisioners, made, names⟩
  rcases Fleet.start_covers names distinct with ⟨covers, initial⟩
  have same : ∀ given, prebuilt = some given → given = provisioners := by
    intro given equal
    have also := built given equal
    rw [made] at also
    exact (Except.ok.inj also).symm
  rcases (Fleet.start pools provisioners).rounds_does world with ⟨_, _, _, runs⟩
  have run := patrol_run made same (hasWorkers_of_accepted accepted pools) limit
  generalize ((Fleet.start pools provisioners).rounds settings pools limit).run world =
    result at runs run
  rcases result with ⟨ending, after⟩
  have counted := Fleet.start_isCounted pools provisioners
  rcases runs.turns covers counted spelled with ⟨turns, course, whole, count⟩
  refine ⟨provisioners, ending, after, turns, made, run, runs.contained counted spelled, course,
    whole, course.length_le_one, ?_, ?_⟩
  · intro unfailed unstopped number limited
    rcases course.waits with ⟨calls, follows, waits⟩
    have number := count unfailed unstopped number limited
    rw [Int.sub_zero] at number
    rw [follows.callsSince]
    exact ⟨number, waits unfailed unstopped⟩
  · have left := course.ending_eq
    have statuses := course.statuses_eq covers distinct whole
    cases last : turns.getLast? with
    | none =>
      rw [last] at left
      rw [left.1]
      exact initial
    | some final =>
      have member : final ∈ turns := List.mem_of_getLast? last
      rw [last] at left
      rcases left with ⟨fleet, files⟩
      dsimp only
      rw [fleet, files]
      refine ⟨statuses final member, ?_⟩
      intro path file succeeded
      rcases course.publishes file final member with ⟨_, publication⟩
      rcases Fleet.readOctets_of_publishes publication succeeded with ⟨done, reads⟩
      exact ⟨reads, shows_statuses done⟩

/-! ## Trouble in every round -/

/-- Settings under which the statuses are published as well. -/
def Settings.published : Settings :=
  { Settings.plain with statusFile := some "status.json" }

/-- A world in which every listing for the first of two pools fails unexpectedly, and every
publication before the first wait for want of room. -/
def World.troubled : World :=
  let broken : Fault := ⟨.elsewhere, "RuntimeError", "no reply"⟩
  let full : PublishFault := ⟨.writing [], 28, "No space left on device"⟩
  { World.waiting 1000.0 with
    environment :=
      [("GITEA_AUTH_TOKEN", "secret"), ("GITEA_RUNNER_REGISTRATION_TOKEN", "secret")]
    outside :=
      { Script.outside { listFaults := [(1, broken), (3, broken)] } with
        publishFault := fun history =>
          if history.any Call.isWait then none else some full } }

/-- Neither the failing pool nor the failing publication keeps the two rounds from their
end. -/
theorem patrol_contained_troubled :
    let pools := [Pool.single "builders", Pool.single "testers"]
    let settings := Settings.published
    let world := World.troubled
    Pool.allViolations world.environment pools = .ok [] ∧
      settings.violations = [] ∧
        (∀ path, settings.statusPath? = some path → ∃ given, Path.ofText path = .ok given) ∧
          ∃ provisioners ending after turns,
            (patrol settings pools {} none (some 2)).run.run world = (.ok ending, after) ∧
              Fleet.Turns settings (Fleet.start pools provisioners) world turns ending after ∧
                (∀ turn ∈ turns, turn.visits.map (·.pool) = pools) ∧
                  turns.length = 2 ∧
                    (after.callsSince world).filter Call.isWait = [.wait 10] ∧
                      (ending.fleet.statuses.map fun pair => pair.2.error.isSome) =
                          [true, false] ∧
                        (after.directory.readOctets "status.json").toOption.isSome = true := by
  intro pools settings world
  have valid : Pool.allViolations world.environment pools = .ok [] := by
    have none :
        (Pool.allViolations world.environment pools).toOption.map List.isEmpty = some true := by
      decide +kernel
    rcases Option.map_eq_some_iff.mp none with ⟨violations, found, empty⟩
    rw [List.isEmpty_iff] at empty
    cases outcome : Pool.allViolations world.environment pools with
    | error failure =>
      rw [outcome] at found
      cases found
    | ok all =>
      rw [outcome] at found
      cases found
      rw [empty]
  have accepted : settings.violations = [] := by decide +kernel
  have spelled :
      ∀ path, settings.statusPath? = some path → ∃ given, Path.ofText path = .ok given := by
    intro path file
    rw [Path.exists_ofText_iff]
    cases file
    decide +kernel
  have ends :
      ((patrol settings pools {} none (some 2)).run.run world).1.toOption.map (fun ending =>
          (ending.failure?.isNone,
            ending.fleet.statuses.map fun pair => pair.2.error.isSome)) =
        some (true, [true, false]) := by
    decide +kernel
  have leaves :
      ((patrol settings pools {} none (some 2)).run.run world).2.stopped = false ∧
        (((patrol settings pools {} none (some 2)).run.run world).2.directory.readOctets
            "status.json").toOption.isSome = true := by
    decide +kernel
  rcases patrol_contained settings pools {} none (some 2) world valid accepted nofun spelled with
    ⟨provisioners, ending, after, turns, _, run, _, course, whole, _, counts, _⟩
  rw [run] at ends leaves
  rcases leaves with ⟨working, file⟩
  rcases Prod.mk.inj (Option.some.inj ends) with ⟨unfailed, errors⟩
  rw [Option.isNone_iff_eq_none] at unfailed
  rcases counts unfailed working 2 rfl with ⟨count, waits⟩
  have length : turns.length = 2 := by
    have most : max (1 : Int) 2 = 2 := rfl
    rw [most] at count
    omega
  rw [length] at waits
  exact ⟨valid, accepted, spelled, provisioners, ending, after, turns, run, course, whole, length,
    waits, errors, file⟩

end RunnerFleet
