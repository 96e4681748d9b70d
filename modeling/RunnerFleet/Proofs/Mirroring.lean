import RunnerFleet.Proofs.Agreement
import RunnerFleet.Proofs.Deduplication
import RunnerFleet.Proofs.Itinerary

/-!
# A pool's visits are mirrored

A visit begins with the count of the live runners, which may also be the first call that
reaches the engine; from then on it is a pass and its report.  Two visits that begin with the
engine in reach, or out of reach, of both worlds, and in which the pool is served alike, are
alike as a whole: the calls, the jobs for which runners are started, the ledger and the status.
-/

namespace RunnerFleet

variable {pool : Pool}

/-! ## Counting live runners -/

theorem listContainers_reached (name : Text) (world : World) :
    (listContainers name).Does world fun outcome calls after =>
      match world.refusal? with
      | some fault => outcome = .error fault ∧ calls = []
      | none =>
        calls = [.list name] ∧
          after.connected = true ∧
            outcome =
              match world.outside.listFault (world.history ++ [.list name]) with
              | some fault => .error fault
              | none => .ok ((ofPool name after.containers).map (·.state)) := by
  apply Act.Does.bind
  apply (connect_reaches world).mono
  rintro refused _ reached follows ⟨rfl, same, kept⟩
  rw [← same]
  cases refused with
  | some fault => exact Act.Does.pure ⟨rfl, rfl⟩
  | none =>
    have sameHistory : reached.history = world.history := by
      simpa using follows.history
    rw [← follows.outside, ← sameHistory]
    have listed := reached.follows_list name
    refine Act.Does.bind (Act.Does.get (Act.Does.bind (Act.Does.set listed ?_)))
    dsimp only [World.outside_call, World.history_call]
    cases reached.outside.listFault (reached.history ++ [.list name]) with
    | some fault => exact Act.Does.pure ⟨rfl, kept rfl, rfl⟩
    | none => exact Act.Does.pure ⟨rfl, kept rfl, rfl⟩

namespace Act.Mirrors

/-- The containers of the pool are listed alike, and if they are, the engine was reached. -/
theorem listContainers :
    Mirrors pool (World.Facing pool) (listContainers pool.name) (listContainers pool.name)
      fun outcome other here there =>
        outcome = other ∧
          World.Beside pool here there ∧
            (outcome.isOk = true → World.Abreast pool here there) where
  traced := .of_does fun world => listContainers_does world _
  alsoTraced := .of_does fun world => listContainers_does world _
  mirror := by
    intro here there calls others facing parallel
    rcases listContainers_reached pool.name here with ⟨early, follows, told⟩
    rcases listContainers_reached pool.name there with ⟨alsoEarly, alsoFollows, alsoTold⟩
    rcases parallel.calls_eq follows alsoFollows with ⟨rfl, rfl⟩
    rw [facing.refusal] at alsoTold
    cases refusal : here.refusal? with
    | some fault =>
      rw [refusal] at told alsoTold
      rcases told with ⟨outcome, rfl⟩
      rcases alsoTold with ⟨result, rfl⟩
      rw [outcome, result]
      exact ⟨.nil, rfl, facing.toBeside.still follows alsoFollows, nofun⟩
    | none =>
      rw [refusal] at told alsoTold
      rcases told with ⟨rfl, connected, outcome⟩
      rcases alsoTold with ⟨rfl, alsoConnected, result⟩
      have alike : Call.Alike pool (.list pool.name) (.list pool.name) := .list
      have concurs := (parallel.serve alike).1
      rcases facing.toBeside.step alike concurs follows alsoFollows with ⟨beside, clock⟩
      have listing := concurs.listing pool.name rfl
      simp only [World.moment] at listing
      rw [outcome, result, listing, beside.containers]
      exact ⟨.cons alike .nil, rfl, beside,
        fun _ => { beside with clock, connected, alsoConnected }⟩

/-- The live runners of the pool are counted alike. -/
theorem countLive :
    Mirrors pool (World.Facing pool) (Launcher.countLive pool).run (Launcher.countLive pool).run
      fun outcome other here there =>
        outcome = other ∧
          World.Beside pool here there ∧
            (outcome.isOk = true → World.Abreast pool here there) := by
  refine attempt_lift_bind_same listContainers fun outcome => ?_
  cases outcome with
  | error fault =>
    dsimp only
    split
    · exact .pure fun _ _ beside => ⟨rfl, beside.1, nofun⟩
    · exact .pure fun _ _ beside => ⟨rfl, beside.1, nofun⟩
  | ok states =>
    refine mono (?_ : Agrees pool Eq _ _) (fun _ _ beside => beside.2 rfl)
      fun _ _ _ _ ended => ⟨ended.1, ended.2.toBeside, fun _ => ended.2⟩
    have passed := Steady.passedOn pool
    apply passed.attempt_bind (passed.attempt_lift (.noteAll _ _))
    intro done
    exact passed.attempt_pure _

/-- The status is the same as soon as the live runners are counted. -/
theorem observe (status : PoolStatus) :
    Mirrors pool (World.Facing pool) (Provisioner.observe pool status)
      (Provisioner.observe pool status)
      fun result other here there =>
        result = other ∧
          World.Beside pool here there ∧
            (result.2.isOk = true → World.Abreast pool here there) := by
  refine bind_same countLive fun outcome => ?_
  cases outcome with
  | error failure => exact .pure fun _ _ beside => ⟨rfl, beside.1, nofun⟩
  | ok active =>
    refine mono (?_ : Agrees pool Eq _ _) (fun _ _ beside => beside.2 rfl)
      fun _ _ _ _ ended => ⟨ended.1, ended.2.toBeside, fun _ => ended.2⟩
    refine bind_same Steady.now fun time => ?_
    cases Timestamp.isoText time with
    | error fault => exact Agrees.pure rfl
    | ok shown =>
      dsimp only
      cases Provisioner.isShowable pool active with
      | true => exact bind_same (Agrees.noteAll _ _) fun _ => Agrees.pure rfl
      | false => exact Agrees.pure rfl

end Act.Mirrors

/-! ## Visits -/

/-- Statuses that are the same up to the names of runners in the error. -/
structure PoolStatus.Alike (pool : Pool) (first second : PoolStatus) : Prop where
  live : second.live = first.live
  checkedAt : second.checkedAt = first.checkedAt
  decision : second.decision = first.decision
  error : Option.Rel (Text.Alike pool) first.error second.error

theorem PoolStatus.Alike.cleared
    {first second : PoolStatus}
    (alike : PoolStatus.Alike pool first second) :
    second.cleared = first.cleared := by
  rw [PoolStatus.cleared, PoolStatus.cleared, alike.live, alike.checkedAt]

namespace Provisioner

variable (provisioner : Provisioner)

/-- A pass that ended is reported alike, whether the engine was reached or not. -/
theorem report_mirrors
    (status : PoolStatus)
    {ended other : PassEnd}
    (alike : PassEnd.Alike pool ended other) :
    Act.Mirrors pool (World.Beside pool) (report pool status ended) (report pool status other)
      fun result other here there =>
        PoolStatus.Alike pool result other ∧ World.Beside pool here there := by
  cases alike with
  | finished summary =>
    refine .pure fun _ _ beside => ⟨⟨rfl, rfl, congrArg some summary, ?_⟩, beside⟩
    cases status.error with
    | none => exact .none
    | some message => exact .some (.same message)
  | startFailed message summary =>
    refine Act.Mirrors.bind_same (Act.Mirrors.noteAll _ _) fun done => ?_
    exact .pure fun _ _ beside => ⟨⟨rfl, rfl, congrArg some summary, .some message⟩, beside⟩
  | failed message =>
    refine Act.Mirrors.bind_same (Act.Mirrors.noteAll _ _) fun done => ?_
    exact .pure fun _ _ beside => ⟨⟨rfl, rfl, rfl, .some message⟩, beside⟩

/-- What is done after the count of the live runners. -/
def carryOn
    (pool : Pool)
    (observed : PoolStatus) :
    Except Failure Nat → Act (Provisioner × PoolStatus × Option Decision)
  | .error failure => return (provisioner, ← report pool observed (.failed failure), none)
  | .ok active => do
    let (ended, ledger) ← provisioner.pass pool active
    let reported ← report pool observed ended
    return ({ provisioner with ledger }, reported, ended.decision?)

theorem reconcile_eq (pool : Pool) (status : PoolStatus) :
    provisioner.reconcile pool status = (do
      let (observed, count) ← observe pool status.cleared
      provisioner.carryOn pool observed count) :=
  rfl

theorem report_traced (pool : Pool) (status : PoolStatus) (ended : PassEnd) :
    Act.Traced (report pool status ended) :=
  .of_does fun world => report_does pool status ended world

/-- After a pass there is only the report. -/
theorem carryOn_leads (pool : Pool) (observed : PoolStatus) (active : Nat) (world : World) :
    World.Leads ((provisioner.pass pool active).run world).2
      ((provisioner.carryOn pool observed (.ok active)).run world).2 :=
  report_traced pool observed _ _

theorem carryOn_mirrors (observed : PoolStatus) (count : Except Failure Nat) :
    Act.Mirrors pool
      (fun here there =>
        World.Beside pool here there ∧ (count.isOk = true → World.Abreast pool here there))
      (provisioner.carryOn pool observed count) (provisioner.carryOn pool observed count)
      fun result other here there =>
        (other.1 = result.1 ∧ PoolStatus.Alike pool result.2.1 other.2.1) ∧
          World.Beside pool here there := by
  cases count with
  | error failure =>
    refine Act.Mirrors.mono ?_ (fun _ _ beside => beside.1) fun _ _ _ _ ended => ended
    refine (report_mirrors observed (.failed (.same _))).bind fun status other => ?_
    exact .pure fun _ _ ended => ⟨⟨rfl, ended.1⟩, ended.2⟩
  | ok active =>
    refine Act.Mirrors.mono ?_ (fun _ _ beside => beside.2 rfl) fun _ _ _ _ ended => ended
    have traced (result : PassEnd × Ledger) :
        Act.Traced (do
          let reported ← report pool observed result.1
          return ({ provisioner with ledger := result.2 }, reported, result.1.decision?)) :=
      Act.Keeps.bind World.leads_isCourse
        (report_traced pool observed result.1)
        fun _ => Act.Keeps.pure World.leads_isCourse _
    refine Act.Mirrors.bind (provisioner.pass_agrees pool active) fun result other => ?_
    refine .given (traced result) (traced other) ?_
    rcases result with ⟨ended, ledger⟩
    rintro ⟨alike, rfl⟩
    refine Act.Mirrors.mono ?_ (fun _ _ abreast => abreast.toBeside) fun _ _ _ _ ended => ended
    refine (report_mirrors observed alike).bind fun status shown => ?_
    exact .pure fun _ _ ended => ⟨⟨rfl, ended.1⟩, ended.2⟩

/-- A visit that begins with the engine in reach, or out of reach, of both worlds is
mirrored. -/
theorem reconcile_mirrors {status other : PoolStatus} (same : other.cleared = status.cleared) :
    Act.Mirrors pool (World.Facing pool) (provisioner.reconcile pool status)
      (provisioner.reconcile pool other)
      fun result other here there =>
        (other.1 = result.1 ∧ PoolStatus.Alike pool result.2.1 other.2.1) ∧
          World.Beside pool here there := by
  rw [reconcile_eq, reconcile_eq, same]
  refine Act.Mirrors.bind_same (Act.Mirrors.observe status.cleared) fun observed => ?_
  exact provisioner.carryOn_mirrors observed.1 observed.2

end Provisioner

/-- Alike traces start equally many containers. -/
theorem Outside.ServeAlike.length_started
    {first second : Outside}
    {here there : Moment}
    {calls others : List Call}
    (alike : List.Forall₂ (Call.Alike pool) calls others)
    (serve : ServeAlike pool first second here there calls others) :
    (second.started there others).length = (first.started here calls).length := by
  induction alike generalizing here there with
  | nil => rfl
  | @cons made mirrored _ _ same _ ih =>
    rcases serve same with ⟨concurs, rest⟩
    have once :
        (second.startedBy (second.step there mirrored) mirrored).length =
          (first.startedBy (first.step here made) made).length := by
      cases same with
      | ask request => rfl
      | list => rfl
      | run launcher labels token named alsoNamed =>
        have starts := concurs.startsAt_eq rfl
        simp only [startedBy, history_step, starts]
        split
        · rfl
        · rfl
    rw [started, started, List.length_append, List.length_append, once, ih rest]

namespace Provisioner

variable (provisioner : Provisioner) {active : Int} {here there : World}

/-- A mirrored pass finds the same jobs and picks the same of them. -/
theorem prospect?_alike
    (abreast : World.Abreast pool here there)
    {calls others : List Call}
    (parallel :
      World.Parallel pool here there calls others ((provisioner.pass pool active).run here).2
        ((provisioner.pass pool active).run there).2) :
    provisioner.prospect? pool active there = provisioner.prospect? pool active here := by
  have steady : Act.Steady pool (provisioner.prospect pool).run :=
    Act.Steady.prospect provisioner pool
  rw [prospect?, prospect?]
  split
  · rfl
  next free =>
    have further (world : World) :
        World.Leads ((provisioner.prospect pool).run.run world).2
          ((provisioner.pass pool active).run world).2 := by
      rw [pass, if_neg free, Act.run_bind]
      cases ((provisioner.prospect pool).run.run world).1 with
      | error failure => exact World.leads_isCourse.refl _
      | ok prospect => exact (provisioner.provide_agrees pool active prospect).traced _
    rcases parallel.split (steady.traced here) (steady.traced there) (further here)
      (further there) with ⟨_, _, _, _, _, _, begun, _⟩
    rw [(steady.mirror abreast begun).2.1]

/-- A mirrored pass starts runners for the same candidates. -/
theorem candidates_episode_alike
    (abreast : World.Abreast pool here there)
    {calls others : List Call}
    (parallel :
      World.Parallel pool here there calls others ((provisioner.pass pool active).run here).2
        ((provisioner.pass pool active).run there).2) :
    (provisioner.episode ⟨pool, active, there⟩).starts.map (·.candidate) =
      (provisioner.episode ⟨pool, active, here⟩).starts.map (·.candidate) := by
  have alike := ((provisioner.pass_agrees pool active).mirror abreast parallel).1
  have count := parallel.serve.length_started alike
  simp only [Episode.starts, episode, provisioner.prospect?_alike abreast parallel,
    parallel.follows.callsSince, parallel.alsoFollows.callsSince]
  cases provisioner.prospect? pool active here with
  | none => rfl
  | some prospect =>
    dsimp only
    rw [prospect.candidates_starts, prospect.candidates_starts, count]

end Provisioner

namespace Visit

/-- The starts of runners that a visit makes. -/
def starts (visit : Visit) : List Start :=
  match (Provisioner.observe visit.pool visit.status.cleared).run visit.world with
  | ((_, .error _), _) => []
  | ((_, .ok active), observed) =>
    (visit.provisioner.episode ⟨visit.pool, active, observed⟩).starts

/-- Visits in which a pool does the same up to the names of its runners: it makes the same
requests and starts runners for the same jobs in the same order, and what is left of it is the
same. -/
structure Alike (pool : Pool) (first second : Visit) : Prop where
  calls : List.Forall₂ (Call.Alike pool) first.calls second.calls
  jobs :
    second.starts.map (·.candidate.job.id) = first.starts.map (·.candidate.job.id)
  ledger : second.leftProvisioner.ledger = first.leftProvisioner.ledger
  status : PoolStatus.Alike pool first.leftStatus second.leftStatus

variable {provisioner : Provisioner} {status other : PoolStatus} {here there : World}

/-- Mirrored visits start runners for the same candidates. -/
theorem candidates_starts_alike
    (same : other.cleared = status.cleared)
    (facing : World.Facing pool here there)
    {calls others : List Call}
    (parallel :
      World.Parallel pool here there calls others (outcome ⟨pool, provisioner, status, here⟩).2
        (outcome ⟨pool, provisioner, other, there⟩).2) :
    (starts ⟨pool, provisioner, other, there⟩).map (·.candidate) =
      (starts ⟨pool, provisioner, status, here⟩).map (·.candidate) := by
  have observes : Act.Mirrors pool _ _ _ _ := Act.Mirrors.observe status.cleared
  have carries (observed : PoolStatus) (count : Except Failure Nat) :
      Act.Traced (provisioner.carryOn pool observed count) :=
    (provisioner.carryOn_mirrors observed count).traced
  rw [outcome, outcome, Provisioner.reconcile_eq, Provisioner.reconcile_eq, same,
    Act.run_bind, Act.run_bind] at parallel
  rcases parallel.split (observes.traced here) (observes.traced there) (carries _ _ _)
    (carries _ _ _) with ⟨_, _, _, _, _, _, begun, goes⟩
  rcases observes.mirror facing begun with ⟨alike, answers, _, abreast⟩
  have rest := goes alike
  rw [starts, starts, same]
  generalize (Provisioner.observe pool status.cleared).run here = left at answers abreast rest ⊢
  generalize (Provisioner.observe pool status.cleared).run there = right at answers abreast rest ⊢
  rcases left with ⟨⟨observed, count⟩, listed⟩
  rcases right with ⟨_, alsoListed⟩
  cases answers
  cases count with
  | error failure => rfl
  | ok active =>
    have passes : Act.Agrees pool _ _ _ := provisioner.pass_agrees pool active
    have reports (world : World) :
        World.Leads ((provisioner.pass pool active).run world).2
          ((provisioner.carryOn pool observed (.ok active)).run world).2 :=
      provisioner.carryOn_leads pool observed active world
    rcases rest.split (passes.traced listed) (passes.traced alsoListed) (reports listed)
      (reports alsoListed) with ⟨_, _, _, _, _, _, passed, _⟩
    exact provisioner.candidates_episode_alike (abreast rfl) passed

/-- A visit that begins alike and is served alike goes alike, and leaves worlds beside each
other. -/
theorem mirrored
    (same : other.cleared = status.cleared)
    (facing : World.Facing pool here there)
    (parallel :
      World.Parallel pool here there (calls ⟨pool, provisioner, status, here⟩)
        (calls ⟨pool, provisioner, other, there⟩)
        (outcome ⟨pool, provisioner, status, here⟩).2
        (outcome ⟨pool, provisioner, other, there⟩).2) :
    Alike pool ⟨pool, provisioner, status, here⟩ ⟨pool, provisioner, other, there⟩ ∧
      leftProvisioner ⟨pool, provisioner, other, there⟩ =
          leftProvisioner ⟨pool, provisioner, status, here⟩ ∧
        World.Beside pool (outcome ⟨pool, provisioner, status, here⟩).2
          (outcome ⟨pool, provisioner, other, there⟩).2 := by
  rcases (provisioner.reconcile_mirrors same).mirror facing parallel with
    ⟨alike, ⟨left, shown⟩, beside⟩
  have candidates := candidates_starts_alike same facing parallel
  have jobs := congrArg (List.map fun candidate : Candidate => candidate.job.id) candidates
  rw [List.map_map, List.map_map] at jobs
  exact ⟨⟨alike, jobs, congrArg Provisioner.ledger left, shown⟩, left, beside⟩

end Visit

end RunnerFleet
