import RunnerFleet.Proofs.Failing

/-!
# What is called after the stop signal

The late calls of a trace are those that are made once the stop signal has arrived.  A
visit has no other late call than its listing, since every request and every start is
made at a moment without the signal.  So a round has at most one late call for each
pool, and a run has no more than those of one round and the wait after it, whenever and
during whichever call the signal arrives.  Then it returns: a wait is refused only without the
signal.
-/

namespace RunnerFleet

/-! ## Late calls -/

namespace Outside

/-- The calls of a trace that are made once the stop signal has arrived. -/
def late (outside : Outside) : Moment → List Call → List Call
  | _, [] => []
  | moment, made :: rest =>
    if moment.stopped then made :: rest
    else late outside (outside.step moment made) rest

variable {outside : Outside} {moment : Moment}

theorem late_of_stopped (stopped : moment.stopped = true) (calls : List Call) :
    outside.late moment calls = calls := by
  cases calls with
  | nil => rfl
  | cons made rest => rw [late, if_pos stopped]

theorem late_append (first second : List Call) :
    outside.late moment (first ++ second) =
      outside.late moment first ++
        outside.late (outside.replay moment first) second := by
  induction first generalizing moment with
  | nil => rfl
  | cons made rest ih =>
    cases stopped : moment.stopped with
    | true =>
      have still := outside.stopped_replay (made :: rest) stopped
      rw [late_of_stopped stopped, late_of_stopped stopped, late_of_stopped still]
    | false =>
      simp only [List.cons_append, late, stopped, Bool.false_eq_true, if_false, replay_cons]
      exact ih

/-- A trace whose calls all need a moment without the signal has no late calls. -/
theorem late_eq_nil
    {allowed : Moment → Call → Prop}
    {calls : List Call}
    (allows : outside.Allows allowed moment calls)
    (unstopped : ∀ moment made, allowed moment made → moment.stopped = false) :
    outside.late moment calls = [] := by
  induction calls generalizing moment with
  | nil => rfl
  | cons made rest ih =>
    rcases allows with ⟨first, later⟩
    rw [late, unstopped moment made first, if_neg Bool.false_ne_true]
    exact ih later

/-- A trace that ends without the signal has no late calls. -/
theorem late_eq_nil_of_unstopped
    {calls : List Call}
    (unstopped : (outside.replay moment calls).stopped = false) :
    outside.late moment calls = [] := by
  induction calls generalizing moment with
  | nil => rfl
  | cons made rest ih =>
    rw [late, working_of_replay unstopped, if_neg Bool.false_ne_true]
    exact ih unstopped

/-- What follows a part of a trace that ends with the signal is late. -/
theorem suffix_late
    {before : List Call}
    (stopped : (outside.replay moment before).stopped = true)
    (rest : List Call) :
    rest.Sublist (outside.late moment (before ++ rest)) := by
  rw [late_append, late_of_stopped stopped]
  exact List.sublist_append_right _ _

end Outside

/-! ## Late calls of visits, rounds and runs -/

variable {outside : Outside} {moment : Moment} {pools : List Pool} {calls : List Call}

theorem Moment.Providing.unstopped
    {pool : Pool}
    {made : Call}
    (providing : moment.Providing pool made) :
    moment.stopped = false := by
  rcases providing with ⟨unstopped, _⟩ | ⟨unstopped, _⟩
  · exact unstopped
  · exact unstopped

/-- Of a visit at most the listing is late. -/
theorem VisitCourse.late_sublist
    {pool : Pool}
    (visit : VisitCourse outside pool moment calls) :
    (outside.late moment calls).Sublist [.list pool.name] := by
  cases visit with
  | unlisted => exact List.nil_sublist _
  | @listed rest providing _ =>
    have none :
        outside.late (outside.step moment (.list pool.name)) rest = [] :=
      Outside.late_eq_nil providing fun _ _ allowed => allowed.unstopped
    have split :
        outside.late moment (.list pool.name :: rest) =
          outside.late moment [.list pool.name] := by
      calc
        outside.late moment (.list pool.name :: rest)
            = outside.late moment [.list pool.name] ++
                outside.late (outside.step moment (.list pool.name)) rest :=
              Outside.late_append [_] rest
        _ = outside.late moment [.list pool.name] := by rw [none, List.append_nil]
    rw [split, Outside.late]
    split
    · exact List.Sublist.refl _
    · exact List.nil_sublist _

/-- Of a round at most one listing for each pool is late, in the order of the pools. -/
theorem RoundCourse.late_sublist
    (round : RoundCourse outside moment pools calls) :
    (outside.late moment calls).Sublist (pools.map fun pool => .list pool.name) := by
  induction round with
  | nil => exact List.nil_sublist _
  | cons visit _ ih =>
    rw [Outside.late_append, List.map_cons, ← List.singleton_append]
    exact visit.late_sublist.append ih

/-- A run that begins with the signal makes no call. -/
theorem RunCourse.eq_nil_of_stopped
    {seconds : Int}
    (run : RunCourse outside seconds pools moment calls)
    (stopped : moment.stopped = true) :
    calls = [] := by
  cases run with
  | stopped => rfl
  | ended working | unwaited working | again working =>
    rw [stopped] at working
    cases working

/-- Of a run at most the listings of one round and one wait are late. -/
theorem RunCourse.late_sublist
    {seconds : Int}
    (run : RunCourse outside seconds pools moment calls) :
    (outside.late moment calls).Sublist
      ((pools.map fun pool => .list pool.name) ++ [.wait seconds]) := by
  have waiting (moment : Moment) :
      (outside.late moment [.wait seconds]).Sublist [.wait seconds] := by
    rw [Outside.late]
    split
    · exact List.Sublist.refl _
    · exact List.nil_sublist _
  have round_and_wait
      {moment : Moment}
      {calls : List Call}
      (round : RoundCourse outside moment pools calls) :
      (outside.late moment (calls ++ [.wait seconds])).Sublist
        ((pools.map fun pool => .list pool.name) ++ [.wait seconds]) := by
    rw [Outside.late_append]
    exact round.late_sublist.append (waiting _)
  induction run with
  | stopped => exact List.nil_sublist _
  | ended _ round => exact round.late_sublist.trans (List.sublist_append_left _ _)
  | unwaited _ round => exact round_and_wait round
  | @again moment calls others _ round rest ih =>
    cases stopped : (outside.replay moment (calls ++ [.wait seconds])).stopped with
    | true =>
      rw [rest.eq_nil_of_stopped stopped, List.append_nil]
      exact round_and_wait round
    | false =>
      rw [Outside.late_append, Outside.late_eq_nil_of_unstopped stopped, List.nil_append]
      exact ih

/-- Whenever the stop signal arrives, a patrol makes no request and starts no container
afterwards: what it still calls is at most one listing for each pool, in the order of the
pools, and then at most one wait.  If the signal is there from the start no call is made
at all.

The patrol ends, and it ends of its own accord: no bound on the number of rounds
is needed to describe its run.  Once the signal has arrived it returns without a failure,
if the path of the statuses can be handed to the system and none of them counts more runners
or jobs than can be written.  Without a run there is no call: then there was no provisioner
for a pool, or no worker. -/
theorem calls_after_stop
    (settings : Settings)
    (pools : List Pool)
    (launcher : Launcher)
    (prebuilt : Option (List (Text × Provisioner)))
    (limit : Option Int)
    (world : World) :
    let result := (patrol settings pools launcher prebuilt limit).run.run world
    ∃ calls,
      world.Follows calls result.2 ∧
        (world.stopped = true → calls = []) ∧
        (∀ before rest,
          calls = before ++ rest →
            (world.outside.replay world.moment before).stopped = true →
              rest.Sublist
                ((pools.map fun pool => .list pool.name) ++
                  [.wait settings.pollInterval])) ∧
        (∀ ending,
          result.1 = .ok ending →
            (∃ provisioners,
              Fleet.Runs settings pools limit 0 (Fleet.start pools provisioners) world ending
                result.2) ∧
              (result.2.stopped = true →
                (∀ path,
                  settings.statusPath? = some path → ∃ given, Path.ofText path = .ok given) →
                  (∀ pair ∈ ending.fleet.statuses, ¬ pair.2.Overflows) →
                    ending.failure? = none)) ∧
        ∀ failure,
          result.1 = .error failure →
            calls = [] ∧
              (prebuilt = none ∧
                  Provisioner.ofPools settings world.environment launcher pools =
                    .error failure ∨
                failure = .workersNotPositive ∧ hasWorkers settings pools = false) := by
  rcases patrol_does settings pools launcher prebuilt limit world with
    ⟨calls, follows, course⟩
  dsimp only
  generalize (patrol settings pools launcher prebuilt limit).run.run world = result
    at follows course ⊢
  refine ⟨calls, follows, ?_⟩
  rcases result with ⟨outcome, after⟩
  have uncalled (before rest : List Call) (split : [] = before ++ rest)
      (_ : (world.outside.replay world.moment before).stopped = true) :
      rest.Sublist
        ((pools.map fun pool => .list pool.name) ++ [.wait settings.pollInterval]) := by
    rw [(List.append_eq_nil_iff.mp split.symm).2]
    exact List.nil_sublist _
  cases course with
  | unprovided fresh unmade =>
    refine ⟨fun _ => rfl, uncalled, nofun, ?_⟩
    rintro _ ⟨⟩
    exact ⟨rfl, .inl ⟨fresh, unmade⟩⟩
  | unmanned room =>
    refine ⟨fun _ => rfl, uncalled, nofun, ?_⟩
    rintro _ ⟨⟩
    exact ⟨rfl, .inr ⟨rfl, room⟩⟩
  | ran provisioners course runs =>
    refine ⟨course.eq_nil_of_stopped, ?_, ?_, nofun⟩
    · rintro before rest rfl stopped
      exact (Outside.suffix_late stopped rest).trans course.late_sublist
    · rintro ending ⟨⟩
      refine ⟨⟨provisioners, runs⟩, fun stopped spelled few => ?_⟩
      rcases runs.contained (Fleet.start_isCounted _ _) spelled with
        unfailed | ⟨_, _, working⟩ | ⟨_, pair, member, overflows⟩
      · exact unfailed
      · rw [stopped] at working
        cases working
      · exact absurd overflows (few pair member)

end RunnerFleet
