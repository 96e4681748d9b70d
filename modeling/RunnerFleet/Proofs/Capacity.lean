import Mathlib.Data.List.Nodup
import RunnerFleet.Proofs.Deduplication
import RunnerFleet.Proofs.Patrolling

/-!
# Capacity

At every moment of a run a pool has no more live runners than its capacity allows, or
than it had at the start if those were more.  The invariant is the bound itself.  Calls
for other pools cannot break it, since only starts for the pool add to its live runners;
a visit to the pool counts them first and then makes no more starts than are free.

Containers may finish by themselves and disappear, but none comes from nowhere and none
that is finished runs again.
-/

namespace RunnerFleet

/-! ## Containers by themselves -/

/-- What may become of containers by themselves: each one disappears or stays with its
pool, one that is finished does not run again, and the order may change. -/
inductive Container.Age : List Container → List Container → Prop where
  | nil : Age [] []
  | gone
      {containers later : List Container}
      (container : Container)
      (rest : Age containers later) :
      Age (container :: containers) later
  | kept
      {containers later : List Container}
      {container aged : Container}
      (pool : aged.pool = container.pool)
      (live : Runner.isLive aged.state = true → Runner.isLive container.state = true)
      (rest : Age containers later) :
      Age (container :: containers) (aged :: later)
  | reordered
      {containers later others : List Container}
      (age : Age containers later)
      (same : later.Perm others) :
      Age containers others

namespace Container.Age

theorem refl (containers : List Container) : Age containers containers := by
  induction containers with
  | nil => exact .nil
  | cons container rest ih => exact .kept rfl id ih

/-- No pool gains a live runner by age. -/
theorem liveCount_le
    {containers later : List Container}
    (age : Age containers later)
    (name : Text) :
    liveCount name later ≤ liveCount name containers := by
  induction age with
  | nil => exact Nat.le_refl _
  | gone container _ ih =>
    calc
      liveCount name _ ≤ liveCount name _ := ih
      _ ≤ liveCount name (container :: _) :=
        (List.sublist_cons_self container _).countP_le
  | @kept _ _ container aged pool live _ ih =>
    have still (counts : aged.isLiveOf name = true) : container.isLiveOf name = true := by
      simp only [isLiveOf, Bool.and_eq_true] at counts ⊢
      exact ⟨pool ▸ counts.1, live counts.2⟩
    simp only [liveCount, List.countP_cons]
    apply Nat.add_le_add ih
    split
    next counts => exact Nat.le_of_eq (if_pos (still counts)).symm
    next => exact Nat.zero_le _
  | @reordered _ later others _ same ih =>
    have equal : liveCount name later = liveCount name others := same.countP_eq _
    rw [← equal]
    exact ih

end Container.Age

/-- Containers that were started only age by themselves. -/
def Outside.OnlyAges (outside : Outside) : Prop :=
  ∀ history containers, Container.Age containers (outside.settle history containers)

/-- Whether a call is one to start a container for the pool with a name. -/
def Call.startsFor (name : Text) : Call → Bool
  | .run runner => runner.pool == name
  | _ => false

namespace Outside

variable {outside : Outside} (ages : outside.OnlyAges) (moment : Moment) (name : Text)

include ages

/-- Only a start for a pool adds to its live runners, and at most one. -/
theorem liveCount_step_le (made : Call) :
    liveCount name (outside.step moment made).containers ≤
      liveCount name moment.containers + [made].countP (Call.startsFor name) := by
  have aged :
      liveCount name (outside.lapse moment made).containers ≤
        liveCount name moment.containers :=
    (ages _ _).liveCount_le name
  cases made with
  | ask request => exact Nat.le_trans aged (Nat.le_add_right _ _)
  | list pool => exact Nat.le_trans aged (Nat.le_add_right _ _)
  | run runner =>
    simp only [step]
    split
    · rw [liveCount, List.countP_append]
      apply Nat.add_le_add aged
      have running : Runner.isLive "running" = true := by decide
      simp only [List.countP_singleton, Container.isLiveOf, Call.startsFor, running,
        Bool.and_true]
      exact Nat.le_refl _
    · exact Nat.le_trans aged (Nat.le_add_right _ _)
  | wait seconds =>
    simp only [step]
    split
    · exact Nat.le_add_right _ _
    · exact Nat.le_trans aged (Nat.le_add_right _ _)

/-- Along a trace only starts for a pool add to its live runners. -/
theorem liveCount_replay_le (calls : List Call) :
    liveCount name (outside.replay moment calls).containers ≤
      liveCount name moment.containers + calls.countP (Call.startsFor name) := by
  induction calls generalizing moment with
  | nil => exact Nat.le_refl _
  | cons made rest ih =>
    rw [← List.singleton_append, List.countP_append, ← Nat.add_assoc]
    calc
      liveCount name (outside.replay (outside.step moment made) rest).containers
          ≤ liveCount name (outside.step moment made).containers +
              rest.countP (Call.startsFor name) := ih _
      _ ≤ liveCount name moment.containers + [made].countP (Call.startsFor name) +
            rest.countP (Call.startsFor name) :=
          Nat.add_le_add_right (liveCount_step_le ages moment name made) _

end Outside

/-! ## Bounds throughout a trace -/

/-- At no moment of a trace has a pool more live runners than a bound. -/
def Outside.Bounded
    (outside : Outside)
    (name : Text)
    (bound : Int)
    (moment : Moment)
    (calls : List Call) : Prop :=
  ∀ before rest, calls = before ++ rest →
    (liveCount name (outside.replay moment before).containers : Int) ≤ bound

namespace Outside.Bounded

variable {outside : Outside} {name : Text} {bound : Int} {moment : Moment}

/-- A bound throughout one trace and then throughout another is one throughout both. -/
theorem append
    {first second : List Call}
    (holds : outside.Bounded name bound moment first)
    (further : outside.Bounded name bound (outside.replay moment first) second) :
    outside.Bounded name bound moment (first ++ second) := by
  intro before rest split
  rcases List.append_eq_append_iff.mp split with
    ⟨middle, rfl, later⟩ | ⟨middle, earlier, _⟩
  · rw [Outside.replay_append]
    exact further middle rest later
  · exact holds before middle earlier

theorem last
    {calls : List Call}
    (holds : outside.Bounded name bound moment calls) :
    (liveCount name (outside.replay moment calls).containers : Int) ≤ bound :=
  holds calls [] (List.append_nil calls).symm

/-- A bound holds throughout a trace if it leaves room for all starts of the trace. -/
theorem of_room
    (ages : outside.OnlyAges)
    {calls : List Call}
    (room :
      (liveCount name moment.containers : Int) + calls.countP (Call.startsFor name) ≤ bound) :
    outside.Bounded name bound moment calls := by
  rintro before rest rfl
  have reached := Outside.liveCount_replay_le ages moment name before
  rw [List.countP_append] at room
  omega

end Outside.Bounded

/-! ## Bounds throughout visits, rounds and runs -/

section

variable
  {outside : Outside}
  {name : Text}
  {bound : Int}
  {moment : Moment}
  {calls : List Call}

/-- The starts of a visit are for its own pool. -/
theorem countP_startsFor_of_providing
    {pool : Pool}
    (providing : outside.Allows (Moment.Providing pool) moment calls)
    (other : pool.name ≠ name) :
    calls.countP (Call.startsFor name) = 0 := by
  apply List.countP_eq_zero.mpr
  refine providing.forall_mem ?_
  rintro _ _ (⟨_, request, rfl⟩ | ⟨_, runner, rfl, ofPool⟩)
  · simp [Call.startsFor]
  · simpa [Call.startsFor, ofPool] using other

theorem countP_startsFor_le (name : Text) (calls : List Call) :
    calls.countP (Call.startsFor name) ≤ calls.countP Call.isRun := by
  apply List.countP_mono_left
  intro made _ starts
  cases made with
  | run runner => rfl
  | ask | list | wait => cases starts

variable (ages : outside.OnlyAges)

include ages

/-- A visit keeps every bound that the capacity of its pool keeps. -/
theorem VisitCourse.bounded
    {pool : Pool}
    (visit : VisitCourse outside pool moment calls)
    (fits : pool.name = name → pool.capacity ≤ bound)
    (start : (liveCount name moment.containers : Int) ≤ bound) :
    outside.Bounded name bound moment calls := by
  have room {moment : Moment} {calls : List Call} :=
    @Outside.Bounded.of_room outside name bound moment ages calls
  cases visit with
  | unlisted => exact room (by simpa using start)
  | @listed rest providing few =>
    have listing : [Call.list pool.name].countP (Call.startsFor name) = 0 := rfl
    have listed :
        (liveCount name (outside.step moment (.list pool.name)).containers : Int) ≤ bound := by
      have aged := Outside.liveCount_step_le ages moment name (.list pool.name)
      omega
    rw [← List.singleton_append]
    refine Outside.Bounded.append (room (by omega)) (room ?_)
    show
      (liveCount name (outside.step moment (.list pool.name)).containers : Int) +
          rest.countP (Call.startsFor name) ≤
        bound
    by_cases own : pool.name = name
    · subst own
      have starts := countP_startsFor_le pool.name rest
      have capacity := fits rfl
      rw [Provisioner.freeSlots] at few
      omega
    · rw [countP_startsFor_of_providing providing own]
      omega

/-- A round keeps every bound that the capacities of its pools keep. -/
theorem RoundCourse.bounded
    {pools : List Pool}
    (round : RoundCourse outside moment pools calls)
    (fits : ∀ pool ∈ pools, pool.name = name → pool.capacity ≤ bound)
    (start : (liveCount name moment.containers : Int) ≤ bound) :
    outside.Bounded name bound moment calls := by
  induction round with
  | nil => exact Outside.Bounded.of_room ages (by simpa using start)
  | cons visit _ ih =>
    have visited := visit.bounded ages (fits _ List.mem_cons_self) start
    have others := fun pool member => fits pool (List.mem_cons_of_mem _ member)
    exact visited.append (ih others visited.last)

/-- A run keeps every bound that the capacities of its pools keep. -/
theorem RunCourse.bounded
    {seconds : Int}
    {pools : List Pool}
    (run : RunCourse outside seconds pools moment calls)
    (fits : ∀ pool ∈ pools, pool.name = name → pool.capacity ≤ bound)
    (start : (liveCount name moment.containers : Int) ≤ bound) :
    outside.Bounded name bound moment calls := by
  have waits
      {moment : Moment}
      {calls : List Call}
      (holds : outside.Bounded name bound moment calls) :
      outside.Bounded name bound moment (calls ++ [.wait seconds]) := by
    refine holds.append (Outside.Bounded.of_room ages ?_)
    exact holds.last
  induction run with
  | stopped => exact Outside.Bounded.of_room ages (by simpa using start)
  | ended _ round => exact round.bounded ages fits start
  | unwaited _ round => exact waits (round.bounded ages fits start)
  | again _ round _ ih =>
    have waited := waits (round.bounded ages fits start)
    exact waited.append (ih waited.last)

end

/-- At every moment of a patrol a pool has no more live runners than its capacity allows,
or than it had at the start if those were more. -/
theorem liveCount_le_capacity
    (settings : Settings)
    (pools : List Pool)
    (distinct : (pools.map (·.name)).Nodup)
    (launcher : Launcher)
    (prebuilt : Option (List (Text × Provisioner)))
    (limit : Option Int)
    (world : World)
    (ages : world.outside.OnlyAges) :
    ∃ calls,
      world.Follows calls
          ((patrol settings pools launcher prebuilt limit).run.run world).2 ∧
        ∀ pool ∈ pools, ∀ before rest,
          calls = before ++ rest →
            (liveCount pool.name (world.outside.replay world.moment before).containers : Int) ≤
              max (liveCount pool.name world.containers : Int) pool.capacity := by
  rcases patrol_does settings pools launcher prebuilt limit world with
    ⟨calls, follows, course⟩
  refine ⟨calls, follows, ?_⟩
  intro pool member
  have start :
      (liveCount pool.name world.moment.containers : Int) ≤
        max (liveCount pool.name world.containers : Int) pool.capacity :=
    Int.le_max_left _ _
  have fits :
      ∀ other ∈ pools, other.name = pool.name →
        other.capacity ≤ max (liveCount pool.name world.containers : Int) pool.capacity := by
    intro other also same
    rw [List.inj_on_of_nodup_map distinct also member same]
    exact Int.le_max_right _ _
  generalize (patrol settings pools launcher prebuilt limit).run.run world = result at course
  rcases result with ⟨outcome, after⟩
  cases course with
  | unprovided | unmanned => exact Outside.Bounded.of_room ages (by simpa using start)
  | ran provisioners course _ => exact course.bounded ages fits start

/-! ## Two pools for one job -/

/-- Settings under which rounds are ten seconds apart. -/
def Settings.plain : Settings where
  logLevel := "INFO"
  threshold := 20
  pollInterval := 10
  requestTimeout := 30.0
  pageSize := 50
  maxWorkers := 4
  lifetime := Ledger.standardLifetime
  defaultLabels := Label.standard
  labelMatching := "schema"
  runnerImage := Runner.standardImage
  runnerNetwork := none
  statusFile := none

theorem World.waiting_onlyAges (clock : Float) : (World.waiting clock).outside.OnlyAges :=
  fun _ containers => Container.Age.refl containers

/-- Two pools that see the same job start one runner each, in the first of three rounds,
and never have more. -/
theorem liveCount_le_capacity_waiting :
    let pools := [Pool.single "builders", Pool.single "testers"]
    let provisioners : List (Text × Provisioner) :=
      [("builders", Provisioner.unused), ("testers", Provisioner.unused)]
    let world := World.waiting 1000.0
    (pools.map (·.name)).Nodup ∧
      world.outside.OnlyAges ∧
        ∃ calls,
          world.Follows calls
              ((patrol Settings.plain pools {} (some provisioners) (some 3)).run.run world).2 ∧
            calls.countP Call.isRun = 2 ∧
              ∀ pool ∈ pools, ∀ before rest,
                calls = before ++ rest →
                  (liveCount pool.name
                      (world.outside.replay world.moment before).containers : Int) ≤
                    max (liveCount pool.name world.containers : Int) pool.capacity := by
  intro pools provisioners world
  have distinct : (pools.map (·.name)).Nodup := by decide
  have ages := World.waiting_onlyAges 1000.0
  rcases liveCount_le_capacity Settings.plain pools distinct {} (some provisioners) (some 3)
      world ages with
    ⟨calls, follows, bounded⟩
  refine ⟨distinct, ages, calls, follows, ?_, bounded⟩
  rw [← follows.callsSince]
  decide +kernel

end RunnerFleet
