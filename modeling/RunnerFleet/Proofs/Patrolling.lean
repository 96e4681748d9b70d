import RunnerFleet.Proofs.Starting
import RunnerFleet.Rounds

/-!
# Which calls the rounds make

The calls of a whole run have a shape, and so have those of its parts.  A visit to a
pool lists the pool's containers and then asks and starts runners, at most as many as
the listing leaves free.  A round is a visit to every pool in turn, and a run is rounds
with waits between them, none of which begins after the stop signal.

The rounds of the service are computed with a bound on their number.  They are also
described here without one, and the bound is shown never to end them.
-/

namespace RunnerFleet

/-! ## Visits -/

/-- Whether a container is a live runner of the pool with a name. -/
def Container.isLiveOf (name : Text) (container : Container) : Bool :=
  container.pool == name && Runner.isLive container.state

/-- How many containers are live runners of the pool with a name. -/
def liveCount (name : Text) (containers : List Container) : Nat :=
  containers.countP (Container.isLiveOf name)

/-- The live runners among the states of a pool's containers are those of the pool. -/
theorem countP_isLive_states (name : Text) (containers : List Container) :
    ((containers.filter (·.pool == name)).map (·.state)).countP Runner.isLive =
      liveCount name containers := by
  rw [List.countP_map, List.countP_filter, liveCount]
  apply List.countP_congr
  intro container _
  simp [Container.isLiveOf, and_comm]

/-- The calls of a visit to a pool: none, if the engine is not reached, or else a
listing, and then requests and starts for the pool, at most as many starts as the
listing leaves free. -/
inductive VisitCourse (outside : Outside) (pool : Pool) (moment : Moment) :
    List Call → Prop where
  | unlisted : VisitCourse outside pool moment []
  | listed
      {calls : List Call}
      (providing :
        outside.Allows (Moment.Providing pool) (outside.step moment (.list pool.name)) calls)
      (few :
        calls.countP Call.isRun ≤
          Provisioner.freeSlots pool
            (liveCount pool.name (outside.step moment (.list pool.name)).containers)) :
      VisitCourse outside pool moment (.list pool.name :: calls)

theorem VisitCourse.abandoned {outside : Outside} {pool : Pool} {moment : Moment} :
    VisitCourse outside pool moment [.list pool.name] :=
  .listed trivial (Nat.zero_le _)

namespace Launcher

/-- The live runners are counted as the listing finds them. -/
theorem countLive_does (pool : Pool) (world : World) :
    Act.Does (countLive pool).run world fun outcome calls after =>
      (calls = [] ∧ outcome.isOk = false) ∨
        calls = [.list pool.name] ∧
          ∀ active, outcome = .ok active → active = liveCount pool.name after.containers := by
  refine Act.Does.attempt_bind
    (Act.Does.attempt_lift ((listContainers_does world pool.name).mono ?_))
  intro outcome calls after _ listed
  cases outcome with
  | error fault =>
    have course (failure : Failure) :
        (calls = [] ∧ (Except.error failure : Except Failure Nat).isOk = false) ∨
          calls = [.list pool.name] ∧
            ∀ active, Except.error failure = .ok active →
              active = liveCount pool.name after.containers := by
      rcases listed with ⟨rfl, _⟩ | ⟨rfl, _⟩
      · exact .inl ⟨rfl, rfl⟩
      · exact .inr ⟨rfl, nofun⟩
    dsimp only
    split
    · exact Act.Does.pure (by simpa using course _)
    · exact Act.Does.pure (by simpa using course _)
  | ok states =>
    rcases listed with ⟨_, impossible⟩ | ⟨rfl, counted⟩
    · cases impossible
    · refine Act.Does.attempt_bind (Act.Does.attempt_lift (Act.Does.noteAll ?_))
      refine Act.Does.pure (.inr ⟨rfl, ?_⟩)
      rintro active equal
      cases equal
      rw [counted states rfl, countP_isLive_states]

end Launcher

namespace Provisioner

theorem observe_does (pool : Pool) (status : PoolStatus) (world : World) :
    (observe pool status).Does world fun answer calls after =>
      (calls = [] ∧ answer.2.isOk = false) ∨
        calls = [.list pool.name] ∧
          ∀ active, answer.2 = .ok active →
            active = liveCount pool.name after.containers := by
  apply Act.Does.bind
  apply (Launcher.countLive_does pool world).mono
  intro outcome calls after _ counted
  cases outcome with
  | error failure =>
    rcases counted with ⟨rfl, _⟩ | ⟨rfl, _⟩
    · exact Act.Does.pure (.inl ⟨rfl, rfl⟩)
    · exact Act.Does.pure (.inr ⟨rfl, nofun⟩)
  | ok active =>
    rcases counted with ⟨_, impossible⟩ | ⟨rfl, counted⟩
    · cases impossible
    · refine Act.Does.bind (Act.Does.now ?_)
      split
      · exact Act.Does.pure (.inr ⟨rfl, nofun⟩)
      · dsimp only
        split
        · refine Act.Does.bind (Act.Does.noteAll (Act.Does.pure (.inr ⟨rfl, ?_⟩)))
          rintro same equal
          cases equal
          exact counted active rfl
        · exact Act.Does.pure (.inr ⟨rfl, nofun⟩)

theorem report_does
    (pool : Pool)
    (status : PoolStatus)
    (ended : PassEnd)
    (world : World) :
    (report pool status ended).Does world fun _ calls _ => calls = [] := by
  cases ended with
  | finished decision => exact Act.Does.pure rfl
  | startFailed fault decision => exact Act.Does.bind (Act.Does.noteAll (Act.Does.pure rfl))
  | failed failure => exact Act.Does.bind (Act.Does.noteAll (Act.Does.pure rfl))

/-- A pass only asks and starts runners of its pool, at most as many as there are free
slots. -/
theorem pass_provides
    (provisioner : Provisioner)
    (pool : Pool)
    (active : Int)
    (world : World) :
    (provisioner.pass pool active).Does world fun _ calls _ =>
      world.outside.Allows (Moment.Providing pool) world.moment calls ∧
        calls.countP Call.isRun ≤ freeSlots pool active := by
  apply (provisioner.pass_does pool active world).mono
  intro answer calls after _ holds
  split at holds
  · rcases holds with ⟨_, asks, _⟩
    constructor
    · exact asks.mono fun _ _ => Or.inl
    · rw [asks.countP_isRun_eq_zero]
      exact Nat.zero_le _
  · rcases holds with ⟨providing, few, _⟩
    exact ⟨providing, Nat.le_trans few (List.length_take_le _ _)⟩

theorem reconcile_does
    (provisioner : Provisioner)
    (pool : Pool)
    (status : PoolStatus)
    (world : World) :
    (provisioner.reconcile pool status).Does world fun _ calls _ =>
      VisitCourse world.outside pool world.moment calls := by
  apply Act.Does.bind
  apply (observe_does pool status.cleared world).mono
  rintro ⟨observed, count⟩ listing listed follows counted
  cases count with
  | error failure =>
    apply Act.Does.bind
    apply (report_does pool observed _ listed).mono
    rintro reported _ after _ rfl
    rcases counted with ⟨rfl, _⟩ | ⟨rfl, _⟩
    · exact Act.Does.pure .unlisted
    · exact Act.Does.pure .abandoned
  | ok active =>
    rcases counted with ⟨_, impossible⟩ | ⟨rfl, counted⟩
    · cases impossible
    · apply Act.Does.bind
      apply (provisioner.pass_provides pool active listed).mono
      rintro ⟨ended, ledger⟩ calls between _ ⟨providing, few⟩
      rw [counted active rfl, follows.containers] at few
      rw [follows.outside, follows.moment] at providing
      apply Act.Does.bind
      apply (report_does pool observed ended between).mono
      rintro reported _ after _ rfl
      apply Act.Does.pure
      simpa using VisitCourse.listed providing few

end Provisioner

/-! ## Rounds -/

/-- The calls of a round are those of a visit to every pool in turn. -/
inductive RoundCourse (outside : Outside) : Moment → List Pool → List Call → Prop where
  | nil {moment : Moment} : RoundCourse outside moment [] []
  | cons
      {moment : Moment}
      {pool : Pool}
      {rest : List Pool}
      {calls others : List Call}
      (visit : VisitCourse outside pool moment calls)
      (round : RoundCourse outside (outside.replay moment calls) rest others) :
      RoundCourse outside moment (pool :: rest) (calls ++ others)

namespace Fleet

theorem visit_does (fleet : Fleet) (pool : Pool) (world : World) :
    (fleet.visit pool).Does world fun _ calls _ =>
      VisitCourse world.outside pool world.moment calls := by
  simp only [visit]
  split
  · exact Act.Does.pure .unlisted
  next provisioner _ =>
    apply Act.Does.bind
    apply (provisioner.reconcile_does pool _ world).mono
    rintro ⟨provisioner, status, decision⟩ calls after _ course
    exact Act.Does.pure (by simpa using course)

theorem visitAll_does (fleet : Fleet) (pools : List Pool) (world : World) :
    (fleet.visitAll pools).Does world fun _ calls _ =>
      RoundCourse world.outside world.moment pools calls := by
  induction pools generalizing fleet world with
  | nil => exact Act.Does.pure .nil
  | cons pool rest ih =>
    apply Act.Does.bind
    apply (fleet.visit_does pool world).mono
    intro visited calls between follows course
    apply (ih visited between).mono
    intro last others after _ round
    rw [follows.outside, follows.moment] at round
    exact .cons course round

theorem publish_does (path : Text) (document : Fields) (world : World) :
    Act.Does (publish path document).run world fun _ calls _ => calls = [] := by
  refine Act.Does.attempt_bind (Act.Does.attempt_lift (Act.Does.get ?_))
  have written (directory : Directory) :
      world.Follows [] { world with directory } := ⟨rfl, rfl, rfl⟩
  refine Act.Does.attempt_bind (Act.Does.attempt_lift (Act.Does.set (written _) ?_))
  dsimp only
  split
  · exact Act.Does.pure rfl
  · split
    · exact Act.Does.attempt_lift (Act.Does.noteAll rfl)
    · exact Act.Does.pure rfl

/-- To attempt something is to make its calls, and it fails exactly if the attempt
does. -/
theorem attempting_does
    {attempt : Attempt Unit}
    {world : World}
    (fleet : Fleet)
    (condition : Bool → List Call → World → Prop)
    (does : Act.Does attempt.run world fun outcome calls after =>
      condition outcome.isOk calls after) :
    (fleet.attempting attempt).Does world fun worked calls after =>
      condition worked.failure?.isNone calls after := by
  refine Act.Does.bind (does.mono ?_)
  intro outcome calls after _ holds
  cases outcome with
  | error failure => exact Act.Does.pure (by simpa [Except.isOk, Except.toBool] using holds)
  | ok done => exact Act.Does.pure (by simpa [Except.isOk, Except.toBool] using holds)

theorem round_does
    (fleet : Fleet)
    (settings : Settings)
    (pools : List Pool)
    (world : World) :
    (fleet.round settings pools).Does world fun _ calls _ =>
      RoundCourse world.outside world.moment pools calls := by
  apply Act.Does.bind
  apply (fleet.visitAll_does pools world).mono
  intro visited calls between _ course
  split
  next path _ =>
    have published :=
      visited.attempting_does (fun _ calls _ => calls = [])
        (publish_does path (statusDocument visited.statuses) between)
    apply Act.Does.mono published
    rintro worked _ after _ rfl
    simpa using course
  · exact Act.Does.pure (by simpa using course)

end Fleet

/-! ## Runs -/

/-- How rounds run, without a bound on their number: they end at the start of a round
once the stop signal has arrived, after a round that fails or completes the given number,
and with a wait that fails. -/
inductive Fleet.Runs (settings : Settings) (pools : List Pool) (limit : Option Int) :
    Int → Fleet → World → FleetEnd → World → Prop where
  | stopped
      {completed : Int}
      {fleet : Fleet}
      {world : World}
      (stopped : world.stopped = true) :
      Runs settings pools limit completed fleet world ⟨fleet, none⟩ world
  | ended
      {completed : Int}
      {fleet : Fleet}
      {world after : World}
      {worked : FleetEnd}
      (working : world.stopped = false)
      (round : (fleet.round settings pools).run world = (worked, after))
      (last : (worked.failure?.isSome || limit.any (· ≤ completed + 1)) = true) :
      Runs settings pools limit completed fleet world worked after
  | unwaited
      {completed : Int}
      {fleet : Fleet}
      {world between after : World}
      {worked waited : FleetEnd}
      (working : world.stopped = false)
      (round : (fleet.round settings pools).run world = (worked, between))
      (more : (worked.failure?.isSome || limit.any (· ≤ completed + 1)) = false)
      (wait :
        (worked.fleet.attempting (wait settings.pollInterval)).run between = (waited, after))
      (failed : waited.failure?.isSome = true) :
      Runs settings pools limit completed fleet world waited after
  | again
      {completed : Int}
      {fleet : Fleet}
      {world between next after : World}
      {worked waited ending : FleetEnd}
      (working : world.stopped = false)
      (round : (fleet.round settings pools).run world = (worked, between))
      (more : (worked.failure?.isSome || limit.any (· ≤ completed + 1)) = false)
      (wait :
        (worked.fleet.attempting (wait settings.pollInterval)).run between = (waited, next))
      (succeeded : waited.failure?.isSome = false)
      (rest : Runs settings pools limit (completed + 1) waited.fleet next ending after) :
      Runs settings pools limit completed fleet world ending after

/-- The calls of a run: rounds with waits between them, each of which begins without the
stop signal. -/
inductive RunCourse (outside : Outside) (seconds : Int) (pools : List Pool) :
    Moment → List Call → Prop where
  | stopped
      {moment : Moment}
      (stopped : moment.stopped = true) :
      RunCourse outside seconds pools moment []
  | ended
      {moment : Moment}
      {calls : List Call}
      (working : moment.stopped = false)
      (round : RoundCourse outside moment pools calls) :
      RunCourse outside seconds pools moment calls
  | unwaited
      {moment : Moment}
      {calls : List Call}
      (working : moment.stopped = false)
      (round : RoundCourse outside moment pools calls) :
      RunCourse outside seconds pools moment (calls ++ [.wait seconds])
  | again
      {moment : Moment}
      {calls others : List Call}
      (working : moment.stopped = false)
      (round : RoundCourse outside moment pools calls)
      (rest :
        RunCourse outside seconds pools (outside.replay moment (calls ++ [.wait seconds]))
          others) :
      RunCourse outside seconds pools moment (calls ++ [.wait seconds] ++ others)

namespace Fleet

variable {settings : Settings} {pools : List Pool} {limit : Option Int}

/-- A wait between rounds is one call, and unless it fails it brings the stop signal or
uses up one of the waits. -/
theorem wait_between_does (fleet : Fleet) (seconds : Int) (world : World) :
    (fleet.attempting (wait seconds)).Does world fun waited calls after =>
      calls = [.wait seconds] ∧
        (waited.failure?.isNone = true →
          after.stopped = true ∨ after.waitsLeft < world.waitsLeft) :=
  fleet.attempting_does
    (fun succeeded calls after =>
      calls = [.wait seconds] ∧
        (succeeded = true → after.stopped = true ∨ after.waitsLeft < world.waitsLeft))
    (wait_does world seconds)

/-- A round and the wait after it make their calls in a row. -/
theorem round_and_wait
    {fleet : Fleet}
    {world between after : World}
    {worked waited : FleetEnd}
    (round : (fleet.round settings pools).run world = (worked, between))
    (wait :
      (worked.fleet.attempting (wait settings.pollInterval)).run between =
        (waited, after)) :
    ∃ calls,
      world.Follows (calls ++ [.wait settings.pollInterval]) after ∧
        RoundCourse world.outside world.moment pools calls := by
  rcases fleet.round_does settings pools world with ⟨calls, works, course⟩
  rcases worked.fleet.wait_between_does settings.pollInterval between with
    ⟨_, waits, rfl, _⟩
  rw [round] at works
  rw [wait] at waits
  exact ⟨calls, works.trans waits, course⟩

/-- A round and a wait that succeeds bring the stop signal or use up one of the waits. -/
theorem fewer_waits
    {fleet : Fleet}
    {world between after : World}
    {worked waited : FleetEnd}
    (round : (fleet.round settings pools).run world = (worked, between))
    (wait :
      (worked.fleet.attempting (wait settings.pollInterval)).run between =
        (waited, after))
    (succeeded : waited.failure?.isSome = false) :
    after.stopped = true ∨ after.waitsLeft < world.waitsLeft := by
  rcases fleet.round_does settings pools world with ⟨calls, works, _⟩
  rcases worked.fleet.wait_between_does settings.pollInterval between with
    ⟨_, _, _, progress⟩
  rw [round] at works
  rw [wait] at progress
  have unfailed : waited.failure?.isNone = true := by
    simpa [Option.isSome_eq_false_iff] using succeeded
  rcases progress unfailed with arrived | fewer
  · exact .inl arrived
  · right
    calc
      after.waitsLeft < between.waitsLeft := fewer
      _ = (world.outside.replay world.moment calls).waitsLeft := works.waitsLeft
      _ ≤ world.waitsLeft := Outside.waitsLeft_replay_le _ _ _

/-- The calls of a run have the shape of a run. -/
theorem Runs.course
    {completed : Int}
    {fleet : Fleet}
    {world after : World}
    {ending : FleetEnd}
    (runs : Runs settings pools limit completed fleet world ending after) :
    ∃ calls,
      world.Follows calls after ∧
        RunCourse world.outside settings.pollInterval pools world.moment calls := by
  induction runs with
  | @stopped _ _ world stopped => exact ⟨[], .refl world, .stopped stopped⟩
  | @ended _ fleet world _ _ working round _ =>
    rcases fleet.round_does settings pools world with ⟨calls, follows, course⟩
    rw [round] at follows
    exact ⟨calls, follows, .ended working course⟩
  | unwaited working round _ wait _ =>
    rcases round_and_wait round wait with ⟨calls, follows, course⟩
    exact ⟨_, follows, .unwaited working course⟩
  | again working round _ wait _ _ ih =>
    rcases round_and_wait round wait with ⟨calls, follows, course⟩
    rcases ih with ⟨others, later, rest⟩
    rw [follows.outside, follows.moment] at rest
    exact ⟨_, follows.trans later, .again working course rest⟩

/-! ### One step of a run -/

section

variable
  {completed : Int}
  {fleet : Fleet}
  {world between after : World}
  {worked waited : FleetEnd}

theorem advance_of_stopped (stopped : world.stopped = true) :
    (fleet.advance settings pools limit completed).run world = (.ended ⟨fleet, none⟩, world) := by
  rw [advance, Act.run_bind, run_isStopped, stopped]
  rfl

variable
  (working : world.stopped = false)
  (round : (fleet.round settings pools).run world = (worked, between))

include working round

theorem advance_of_last
    (last : (worked.failure?.isSome || limit.any (· ≤ completed + 1)) = true) :
    (fleet.advance settings pools limit completed).run world = (.ended worked, between) := by
  rw [advance, Act.run_bind, run_isStopped, working, if_neg Bool.false_ne_true, Act.run_bind,
    round]
  dsimp only
  rw [if_pos last]
  rfl

variable
  (more : (worked.failure?.isSome || limit.any (· ≤ completed + 1)) = false)
  (wait :
    (worked.fleet.attempting (wait settings.pollInterval)).run between = (waited, after))

include more wait

theorem advance_of_more :
    (fleet.advance settings pools limit completed).run world =
      (if waited.failure?.isSome then .ended waited else .onward waited.fleet, after) := by
  rw [advance, Act.run_bind, run_isStopped, working, if_neg Bool.false_ne_true, Act.run_bind,
    round]
  dsimp only
  rw [more, if_neg Bool.false_ne_true, Act.run_bind, wait]
  cases waited.failure?.isSome with
  | true => rfl
  | false => rfl

end

/-- The bound on the number of rounds never ends them, as long as it is above the number
of waits that the world has left. -/
theorem roundsFrom_runs
    {bound : Nat}
    {completed : Int}
    {fleet : Fleet}
    {world : World}
    (enough : world.stopped = true ∨ world.waitsLeft < bound) :
    Runs settings pools limit completed fleet world
      ((roundsFrom settings pools limit bound completed fleet).run world).1
      ((roundsFrom settings pools limit bound completed fleet).run world).2 := by
  induction bound generalizing completed fleet world with
  | zero =>
    rcases enough with stopped | impossible
    · exact .stopped stopped
    · exact absurd impossible (Nat.not_lt_zero _)
  | succ bound ih =>
    rw [roundsFrom, Act.run_bind]
    cases stopped : world.stopped with
    | true =>
      rw [advance_of_stopped stopped]
      exact .stopped stopped
    | false =>
      rcases round : (fleet.round settings pools).run world with ⟨worked, between⟩
      cases more : worked.failure?.isSome || limit.any (· ≤ completed + 1) with
      | true =>
        rw [advance_of_last stopped round more]
        exact .ended stopped round more
      | false =>
        rcases wait : (worked.fleet.attempting (wait settings.pollInterval)).run between
          with ⟨waited, next⟩
        rw [advance_of_more stopped round more wait]
        cases failed : waited.failure?.isSome with
        | true => exact .unwaited stopped round more wait failed
        | false =>
          refine .again stopped round more wait failed (ih ?_)
          -- The measure is the number of waits left, which a round cannot raise.
          rcases fewer_waits round wait failed with arrived | fewer
          · exact .inl arrived
          · rcases enough with impossible | enough
            · rw [stopped] at impossible
              cases impossible
            · exact .inr (Nat.lt_of_lt_of_le fewer (Nat.le_of_lt_succ enough))

theorem rounds_does (fleet : Fleet) (world : World) :
    (fleet.rounds settings pools limit).Does world fun ending calls after =>
      RunCourse world.outside settings.pollInterval pools world.moment calls ∧
        Runs settings pools limit 0 fleet world ending after := by
  have runs :
      Runs settings pools limit 0 fleet world
        ((fleet.rounds settings pools limit).run world).1
        ((fleet.rounds settings pools limit).run world).2 :=
    roundsFrom_runs (.inr (Nat.lt_succ_self _))
  rcases runs.course with ⟨calls, follows, course⟩
  exact ⟨calls, follows, course, runs⟩

end Fleet

/-- What a patrol comes to: it fails before its first round, without a call, because a
provisioner cannot be made or because there is no worker, or it is a run of rounds from the
fleet at the start. -/
inductive PatrolCourse
    (settings : Settings)
    (pools : List Pool)
    (launcher : Launcher)
    (prebuilt : Option (List (Text × Provisioner)))
    (limit : Option Int)
    (world : World) : Except Failure FleetEnd → List Call → World → Prop where
  | unprovided
      {failure : Failure}
      {after : World}
      (fresh : prebuilt = none)
      (unmade :
        Provisioner.ofPools settings world.environment launcher pools = .error failure) :
      PatrolCourse settings pools launcher prebuilt limit world (.error failure) [] after
  | unmanned
      {after : World}
      (room : hasWorkers settings pools = false) :
      PatrolCourse settings pools launcher prebuilt limit world (.error .workersNotPositive) []
        after
  | ran
      {ending : FleetEnd}
      {calls : List Call}
      {after : World}
      (provisioners : List (Text × Provisioner))
      (course :
        RunCourse world.outside settings.pollInterval pools world.moment calls)
      (runs :
        Fleet.Runs settings pools limit 0 (Fleet.start pools provisioners) world ending
          after) :
      PatrolCourse settings pools launcher prebuilt limit world (.ok ending) calls after

theorem patrol_does
    (settings : Settings)
    (pools : List Pool)
    (launcher : Launcher)
    (prebuilt : Option (List (Text × Provisioner)))
    (limit : Option Int)
    (world : World) :
    Act.Does (patrol settings pools launcher prebuilt limit).run world
      (PatrolCourse settings pools launcher prebuilt limit world) := by
  have works (provisioners : List (Text × Provisioner)) :
      Act.Does
        (if hasWorkers settings pools then
            liftM ((Fleet.start pools provisioners).rounds settings pools limit)
          else
            throw .workersNotPositive : Attempt FleetEnd).run
        world (PatrolCourse settings pools launcher prebuilt limit world) := by
    split
    · refine Act.Does.attempt_lift
        (Act.Does.mono ((Fleet.start pools provisioners).rounds_does world) ?_)
      rintro ending calls after _ ⟨course, runs⟩
      exact .ran provisioners course runs
    next room => exact Act.Does.pure (.unmanned (by simpa using room))
  cases prebuilt with
  | some provisioners =>
    exact Act.Does.attempt_bind (Act.Does.pure (works provisioners))
  | none =>
    refine Act.Does.attempt_bind (Act.Does.attempt_lift (Act.Does.get ?_))
    refine Act.Does.attempt_bind (Act.Does.attempt_liftExcept ?_)
    cases made : Provisioner.ofPools settings world.environment launcher pools with
    | error failure => exact .unprovided rfl made
    | ok provisioners => exact works provisioners

end RunnerFleet
