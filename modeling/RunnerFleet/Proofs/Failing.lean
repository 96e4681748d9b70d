import RunnerFleet.Proofs.Counting
import RunnerFleet.Proofs.Patrolling

/-!
# How a run may fail

A pass keeps its failures to itself, so a run fails only between two passes: at a publication or
at a wait.  A publication at a path that can be handed to the system fails only if a status
counts too much to be written, and a wait only if it is longer than the machine allows and the
stop signal has not arrived.  Once it has arrived, a run returns.
-/

namespace RunnerFleet

/-- The file for the statuses, if one is configured. -/
def Settings.statusPath? (settings : Settings) : Option Text :=
  settings.statusFile.filter (!·.isEmpty)

/-! ## Publications -/

/-- What a publication leaves of the files of a world, and why it failed, if it did. -/
def World.published
    (world : World)
    (path : Text)
    (document : Fields) : Directory × Option Failure :=
  world.directory.publish path (Json.write (.object document))
    (world.outside.publishFault world.history)

theorem publish_run (path : Text) (document : Fields) (world : World) :
    (publish path document).run.run world =
      (match (world.published path document).2 with
        | none => pure ()
        | some failure =>
          if failure.ofSystem then
            note .warning ("Failed to write status file " ++ path ++ ": " ++ failure.message)
          else
            throw failure : Attempt Unit).run.run
        { world with directory := (world.published path document).1 } :=
  rfl

/-- However a publication ends, it made no calls, and the directory is as it left it. -/
theorem publish_leaves
    {path : Text}
    {document : Fields}
    {world after : World}
    {outcome : Except Failure Unit}
    (published : (publish path document).run.run world = (outcome, after)) :
    world.Follows [] after ∧ after.directory = (world.published path document).1 := by
  have kept (directory : Directory) : world.Follows [] { world with directory } :=
    ⟨rfl, rfl, rfl⟩
  rw [publish_run] at published
  cases failed : (world.published path document).2 with
  | none =>
    rw [failed] at published
    cases published
    exact ⟨kept _, rfl⟩
  | some failure =>
    rw [failed] at published
    cases system : failure.ofSystem with
    | true =>
      simp only [system, if_true] at published
      cases published
      exact ⟨⟨rfl, rfl, rfl⟩, rfl⟩
    | false =>
      simp only [system, Bool.false_eq_true, if_false] at published
      cases published
      exact ⟨kept _, rfl⟩

/-- At a path that can be handed to the system a publication fails only if the document cannot
be written to its end. -/
theorem publish_contained
    {path : Text}
    (spelled : ∃ given, Path.ofText path = .ok given)
    (document : Fields)
    (world : World) :
    ((publish path document).run.run world).1 = .ok () ∨
      ((publish path document).run.run world).1 = .error .tooManyDigits ∧
        (world.published path document).2 = some .tooManyDigits ∧
          (Json.write (.object document)).whole = false := by
  rw [publish_run]
  cases failed : (world.published path document).2 with
  | none => exact .inl rfl
  | some failure =>
    dsimp only
    cases system : failure.ofSystem with
    | true =>
      rw [if_pos rfl]
      exact .inl rfl
    | false =>
      rcases Directory.publish_ofSystem spelled (Prod.ext rfl failed) with
        impossible | ⟨rfl, part⟩
      · rw [system] at impossible
        cases impossible
      · exact .inr ⟨rfl, rfl, part⟩

/-! ## Waits -/

theorem wait_run (seconds : Int) (world : World) :
    (wait seconds).run.run world =
      if world.outside.refusesWait world.stopped seconds then
        (.error .waitTooLong, { world with history := world.history ++ [.wait seconds] })
      else
        (.ok (),
          { world.call (.wait seconds) with
            waitsLeft := world.waitsLeft - 1
            stopped := (world.call (.wait seconds)).stopped || world.waitsLeft - 1 == 0 }) := by
  have opened :
      (wait seconds).run.run world =
        (if world.outside.refusesWait world.stopped seconds then do
            set { world with history := world.history ++ [Call.wait seconds] }
            throw .waitTooLong
          else
            set
              { world.call (.wait seconds) with
                waitsLeft := world.waitsLeft - 1
                stopped :=
                  (world.call (.wait seconds)).stopped || world.waitsLeft - 1 == 0 } :
          Attempt Unit).run.run world :=
    rfl
  rw [opened]
  split
  · rfl
  · rfl

/-- A wait is one call, touches no file, and fails only if it is refused. -/
theorem wait_contained (seconds : Int) (world : World) :
    ∃ after,
      world.Follows [.wait seconds] after ∧
        after.directory = world.directory ∧
          (wait seconds).run.run world =
            (if world.outside.refusesWait world.stopped seconds then .error .waitTooLong
              else .ok (), after) := by
  rw [wait_run]
  cases refused : world.outside.refusesWait world.stopped seconds with
  | true => exact ⟨_, world.follows_wait_of_refused refused, rfl, rfl⟩
  | false => exact ⟨_, world.follows_wait refused, rfl, rfl⟩

/-- However a wait ends, it was one call and touched no file. -/
theorem wait_leaves
    {seconds : Int}
    {world after : World}
    {outcome : Except Failure Unit}
    (waited : (wait seconds).run.run world = (outcome, after)) :
    world.Follows [.wait seconds] after ∧ after.directory = world.directory := by
  rcases wait_contained seconds world with ⟨waiting, follows, files, result⟩
  rw [waited] at result
  obtain rfl : after = waiting := congrArg Prod.snd result
  exact ⟨follows, files⟩

/-- A wait that fails is longer than the machine allows, and the stop signal has not arrived. -/
theorem wait_failed
    {seconds : Int}
    {world after : World}
    {failure : Failure}
    (waited : (wait seconds).run.run world = (.error failure, after)) :
    failure = .waitTooLong ∧
      world.outside.limits.longestWait < seconds ∧ after.stopped = false := by
  rw [wait_run] at waited
  split at waited
  next refused =>
    cases waited
    simpa [Outside.refusesWait, and_comm] using refused
  · cases waited

/-- A wait that is longer than the machine allows is taken only once the stop signal has
arrived. -/
theorem stopped_of_long_wait
    {seconds : Int}
    {world after : World}
    (waited : (wait seconds).run.run world = (.ok (), after))
    (long : world.outside.limits.longestWait < seconds) :
    after.stopped = true := by
  rw [wait_run] at waited
  split at waited
  · cases waited
  next taken =>
    cases waited
    have stopped : world.stopped = true := by simpa [Outside.refusesWait, long] using taken
    simp [stopped]

/-! ## Statuses that count too much -/

namespace Fleet

variable
  {settings : Settings}
  {pools : List Pool}
  {limit : Option Int}
  {fleet : Fleet}
  {world after : World}
  {ending : FleetEnd}

/-- All decisions in the statuses of a fleet count few enough, apart from the waiting jobs. -/
def IsCounted (fleet : Fleet) : Prop :=
  ∀ pair ∈ fleet.statuses, pair.2.IsCounted

/-- A status of a fleet counts more than can be written. -/
def Overflows (fleet : Fleet) : Prop :=
  ∃ pair ∈ fleet.statuses, pair.2.Overflows

theorem start_isCounted (pools : List Pool) (provisioners : List (Text × Provisioner)) :
    (start pools provisioners).IsCounted := by
  refine Table.forall_content_ofPairs PoolStatus.IsCounted ?_
  intro pair member
  rcases List.mem_map.mp member with ⟨pool, _, rfl⟩
  exact nofun

theorem visit_isCounted (counted : fleet.IsCounted) (pool : Pool) (world : World) :
    ((fleet.visit pool).run world).1.IsCounted := by
  rw [visit]
  split
  · exact counted
  next provisioner _ =>
    exact Table.forall_content_put PoolStatus.IsCounted
      (provisioner.reconcile_isCounted pool _ world) counted

theorem visitAll_isCounted (counted : fleet.IsCounted) (pools : List Pool) (world : World) :
    ((fleet.visitAll pools).run world).1.IsCounted := by
  induction pools generalizing fleet world with
  | nil => exact counted
  | cons pool rest ih => exact ih (visit_isCounted counted pool world) _

/-- The statuses of a fleet are published, unless one of them counts too much. -/
theorem publish_statuses
    {path : Text}
    (counted : fleet.IsCounted)
    (spelled : ∃ given, Path.ofText path = .ok given)
    (world : World) :
    ((publish path (statusDocument fleet.statuses)).run.run world).1 = .ok () ∨
      ((publish path (statusDocument fleet.statuses)).run.run world).1 =
          .error .tooManyDigits ∧
        fleet.Overflows := by
  rcases publish_contained spelled (statusDocument fleet.statuses) world with
    done | ⟨failed, _, part⟩
  · exact .inl done
  · exact .inr ⟨failed, exists_overflows counted part⟩

/-! ## Rounds and runs -/

theorem attempting_run (fleet : Fleet) (attempt : Attempt Unit) (world : World) :
    (fleet.attempting attempt).run world =
      (⟨fleet, failureOf (attempt.run.run world).1⟩, (attempt.run.run world).2) := by
  rw [attempting, Act.run_bind]
  cases (attempt.run.run world).1 with
  | error failure => rfl
  | ok done => rfl

/-- What is attempted leaves the fleet, and its failure. -/
theorem of_attempting
    {attempt : Attempt Unit}
    (attempted : (fleet.attempting attempt).run world = (ending, after)) :
    ∃ outcome,
      attempt.run.run world = (outcome, after) ∧ ending = ⟨fleet, failureOf outcome⟩ := by
  rw [attempting_run] at attempted
  cases attempted
  exact ⟨_, rfl, rfl⟩

theorem of_failed_wait
    {seconds : Int}
    (run : (fleet.attempting (wait seconds)).run world = (ending, after))
    (failed : ending.failure?.isSome = true) :
    (wait seconds).run.run world = (.error .waitTooLong, after) ∧
      ending = ⟨fleet, some .waitTooLong⟩ := by
  rcases of_attempting run with ⟨outcome, waited, rfl⟩
  cases outcome with
  | ok done => cases failed
  | error failure =>
    rcases wait_failed waited with ⟨rfl, _⟩
    exact ⟨waited, rfl⟩

theorem of_taken_wait
    {seconds : Int}
    (run : (fleet.attempting (wait seconds)).run world = (ending, after))
    (succeeded : ending.failure?.isSome = false) :
    (wait seconds).run.run world = (.ok (), after) ∧ ending = ⟨fleet, none⟩ := by
  rcases of_attempting run with ⟨outcome, waited, rfl⟩
  cases outcome with
  | ok done => exact ⟨waited, rfl⟩
  | error failure => cases succeeded

section

variable
  (counted : fleet.IsCounted)
  (spelled :
    ∀ path, settings.statusPath? = some path → ∃ given, Path.ofText path = .ok given)

include counted spelled

/-- A round does not fail, unless a status that it leaves counts too much to be published. -/
theorem round_contained
    (round : (fleet.round settings pools).run world = (ending, after)) :
    ending.fleet.IsCounted ∧
      (ending.failure? = none ∨
        ending.failure? = some .tooManyDigits ∧ ending.fleet.Overflows) := by
  have visited := visitAll_isCounted counted pools world
  rw [Fleet.round, Act.run_bind] at round
  split at round
  next path file =>
    rcases of_attempting round with ⟨outcome, published, rfl⟩
    refine ⟨visited, ?_⟩
    rcases publish_statuses visited (spelled path file) _ with done | ⟨failed, overflows⟩
    · rw [published] at done
      cases done
      exact .inl rfl
    · rw [published] at failed
      cases failed
      exact .inr ⟨rfl, overflows⟩
  · cases round
    exact ⟨visited, .inl rfl⟩

end

/-- A run fails only with a wait that is longer than the machine allows, before the stop signal,
or with a status that counts too much to be published. -/
theorem Runs.contained
    {completed : Int}
    (runs : Runs settings pools limit completed fleet world ending after)
    (counted : fleet.IsCounted)
    (spelled :
      ∀ path, settings.statusPath? = some path → ∃ given, Path.ofText path = .ok given) :
    ending.failure? = none ∨
      (ending.failure? = some .waitTooLong ∧
        world.outside.limits.longestWait < settings.pollInterval ∧ after.stopped = false) ∨
        ending.failure? = some .tooManyDigits ∧ ending.fleet.Overflows := by
  induction runs with
  | stopped _ => exact .inl rfl
  | ended _ round _ =>
    rcases (round_contained counted spelled round).2 with unfailed | failed
    · exact .inl unfailed
    · exact .inr (.inr failed)
  | @unwaited _ fleet world between _ _ _ _ round _ wait failed =>
    rcases of_failed_wait wait failed with ⟨waited, rfl⟩
    rcases wait_failed waited with ⟨_, long, working⟩
    rcases fleet.round_does settings pools world with ⟨_, follows, _⟩
    rw [round] at follows
    rw [follows.outside] at long
    exact .inr (.inl ⟨rfl, long, working⟩)
  | again _ round _ wait succeeded _ ih =>
    rcases round_and_wait round wait with ⟨_, follows, _⟩
    rcases of_taken_wait wait succeeded with ⟨_, rfl⟩
    have kept := ih (round_contained counted spelled round).1
    rwa [follows.outside] at kept

end Fleet

end RunnerFleet
