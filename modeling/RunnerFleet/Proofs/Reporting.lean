import RunnerFleet.Proofs.Mirroring
import RunnerFleet.Proofs.Resuming

/-!
# What a status tells of the starts

A status shows the ids of the jobs for which the latest pass started runners.  It has them
from the decision of the pass, so it is right whenever the pass ends with one: when it runs to
its end, and when the engine or the missing of a credential ends the starting.

Any other failure hides what was started before it.  There is little that can interrupt a pass
once a runner was started: the stop signal, a fault that is not the engine's, and a number of
free slots that is too long for the last line of the log.
-/

namespace RunnerFleet

/-! ## Why the start of a runner fails -/

/-- An outside lets the start of a runner fail with a fault: the engine is not reached, or it
does not start the container. -/
def Outside.FailsStart (outside : Outside) (fault : Fault) : Prop :=
  ∃ history,
    outside.connectFault history = some fault ∨ outside.runFault history = some fault

/-- What interrupts a pass once it has started runners: the stop signal arrives, or the
outside lets a start fail otherwise than by a fault of the engine, or the free slots have too
many digits to be written. -/
inductive Interrupts (outside : Outside) (pool : Pool) (active : Int) (after : World) :
    Failure → Prop where
  | stopped (arrived : after.stopped = true) :
      Interrupts outside pool active after (.cancelledStarting pool.name)
  | outside
      (fault : Fault)
      (source : outside.FailsStart fault)
      (foreign : fault.origin.isEngine = false) :
      Interrupts outside pool active after (.outside fault)
  | unwritable
      (long : Number.isWritable (Provisioner.freeSlots pool active) = false) :
      Interrupts outside pool active after .tooManyDigits

/-- An interruption is the same as long as the stop signal does not go away. -/
theorem Interrupts.later
    {outside : Outside}
    {pool : Pool}
    {active : Int}
    {between after : World}
    {failure : Failure}
    (interrupts : Interrupts outside pool active between failure)
    (stays : between.stopped = true → after.stopped = true) :
    Interrupts outside pool active after failure := by
  cases interrupts with
  | stopped arrived => exact .stopped (stays arrived)
  | outside fault source foreign => exact .outside fault source foreign
  | unwritable long => exact .unwritable long

theorem runContainer_fails (runner : RunnerSpec) (world : World) :
    (runContainer runner).Does world fun outcome _ _ =>
      ∀ fault, outcome = .error fault → world.outside.FailsStart fault := by
  have reaching :
      connect.Does world fun refused _ _ =>
        ∀ fault, refused = some fault → world.outside.FailsStart fault := by
    refine Act.Does.bind (Act.Does.get ?_)
    split
    · exact Act.Does.pure nofun
    · split
      next fault refused =>
        refine Act.Does.pure ?_
        rintro _ ⟨⟩
        exact ⟨_, .inl refused⟩
      · have reached : world.Follows [] { world with connected := true } := ⟨rfl, rfl, rfl⟩
        exact Act.Does.bind (Act.Does.set reached (Act.Does.pure nofun))
  apply Act.Does.bind
  apply reaching.mono
  intro refused _ reached follows fails
  cases refused with
  | some fault =>
    refine Act.Does.pure ?_
    rintro _ ⟨⟩
    exact fails fault rfl
  | none =>
    refine Act.Does.bind (Act.Does.get ?_)
    dsimp only
    split
    next fault failed =>
      have unstarted :
          reached.outside.startsAt (reached.history ++ [.run runner]) = false :=
        congrArg Option.isNone failed
      refine Act.Does.bind (Act.Does.set (reached.follows_run_of_fault unstarted) ?_)
      refine Act.Does.pure ?_
      rintro _ ⟨⟩
      exact ⟨_, .inr (by rw [← follows.outside]; exact failed)⟩
    next succeeded =>
      have starts : reached.outside.startsAt (reached.history ++ [.run runner]) = true :=
        congrArg Option.isNone succeeded
      exact Act.Does.bind (Act.Does.set (reached.follows_run_of_start starts) (Act.Does.pure nofun))

/-- The start of a runner fails by the engine, or it passes on a fault of another origin. -/
theorem Launcher.start_fails
    (launcher : Launcher)
    (pool : Pool)
    (labels : List Text)
    (token : Text)
    (world : World) :
    Act.Does (launcher.start pool labels token).run world fun outcome _ _ =>
      ∀ failure, outcome = .error failure →
        failure.ofEngine = true ∨
          ∃ fault,
            failure = .outside fault ∧
              world.outside.FailsStart fault ∧ fault.origin.isEngine = false := by
  refine Act.Does.attempt_bind (Act.Does.attempt_lift ((drawSuffix_does _ _).mono ?_))
  intro suffix _ named follows _
  refine Act.Does.attempt_bind (Act.Does.attempt_lift ((runContainer_fails _ _).mono ?_))
  intro outcome calls after _ fails
  cases outcome with
  | error fault =>
    dsimp only
    split
    · refine Act.Does.pure ?_
      rintro _ ⟨⟩
      exact .inl rfl
    next foreign =>
      refine Act.Does.pure ?_
      rintro _ ⟨⟩
      refine .inr ⟨fault, rfl, ?_, by simpa using foreign⟩
      rw [← follows.outside]
      exact fails fault rfl
  | ok done =>
    exact Act.Does.attempt_bind
      (Act.Does.attempt_lift (Act.Does.noteAll (Act.Does.pure nofun)))

/-! ## Why the starting of runners ends -/

namespace Provisioner

variable (provisioner : Provisioner) (pool : Pool) (active : Int)

/-- The starting of runners is only interrupted by the stop signal or by a fault that is not
the engine's. -/
theorem startEach_interrupted
    (token : Text)
    (labels : List Text)
    (candidates : List Candidate)
    (world : World) :
    (provisioner.startEach pool token labels candidates).Does world fun starts _ after =>
      ∀ failure, starts.ended = some (.failure failure) →
        Interrupts world.outside pool active after failure := by
  induction candidates generalizing world with
  | nil => exact Act.Does.pure nofun
  | cons candidate rest ih =>
    refine Act.Does.bind (Act.Does.isStopped ?_)
    cases stopped : world.stopped with
    | true =>
      refine Act.Does.pure ?_
      rintro _ ⟨⟩
      exact .stopped stopped
    | false =>
      apply Act.Does.bind
      apply (provisioner.launcher.start_fails pool labels token world).mono
      intro outcome calls after follows fails
      cases outcome with
      | error failure =>
        refine Act.Does.pure ?_
        intro ending ended
        rw [Starts.nil, startsEnd] at ended
        rcases fails failure rfl with engine | ⟨fault, rfl, source, foreign⟩
        · rw [if_pos engine] at ended
          cases ended
        · cases ended
          exact .outside fault source foreign
      | ok runner =>
        refine Act.Does.bind (Act.Does.now (Act.Does.bind (Act.Does.noteAll ?_)))
        apply Act.Does.bind
        apply (ih _).mono
        intro more calls last _ ends
        refine Act.Does.pure ?_
        rw [← follows.outside]
        exact ends

/-- The starting of runners is not interrupted before the first start without a reason that
could interrupt it later. -/
theorem startAll_interrupted
    (labels : List Text)
    (candidates : List Candidate)
    (world : World) :
    (provisioner.startAll pool labels candidates).Does world fun starts _ after =>
      ∀ failure, starts.ended = some (.failure failure) →
        starts.made = [] ∨ Interrupts world.outside pool active after failure := by
  simp only [startAll]
  split
  · refine Act.Does.pure ?_
    rintro _ ⟨⟩
  · refine Act.Does.bind (Act.Does.get ?_)
    split
    · refine Act.Does.pure ?_
      rintro _ _
      exact .inl rfl
    · refine Act.Does.pure ?_
      rintro _ ⟨⟩
    · split
      · refine Act.Does.pure ?_
        rintro _ ⟨⟩
      · apply (provisioner.startEach_interrupted pool active _ labels candidates world).mono
        intro starts _ after _ ends failure ended
        exact .inr (ends failure ended)

end Provisioner

/-! ## What the end of a pass tells -/

/-- What the end of a pass tells of the starts that it made: a decision lists them all, and a
failure none of them. -/
inductive PassEnd.Tells (starts : List Start) (interrupts : Failure → Prop) : PassEnd → Prop where
  | finished
      (decision : Decision)
      (listed : decision.starts = starts) :
      Tells starts interrupts (.finished decision)
  | startFailed
      (fault : StartFault)
      (decision : Decision)
      (listed : decision.starts = starts) :
      Tells starts interrupts (.startFailed fault decision)
  | unstarted
      (failure : Failure)
      (unstarted : starts = []) :
      Tells starts interrupts (.failed failure)
  | interrupted
      (failure : Failure)
      (interrupted : interrupts failure) :
      Tells starts interrupts (.failed failure)

theorem PassEnd.Tells.mono
    {starts : List Start}
    {strong weak : Failure → Prop}
    {ended : PassEnd}
    (tells : ended.Tells starts strong)
    (weaker : ∀ failure, strong failure → weak failure) :
    ended.Tells starts weak := by
  cases tells with
  | finished decision listed => exact .finished decision listed
  | startFailed fault decision listed => exact .startFailed fault decision listed
  | unstarted failure unstarted => exact .unstarted failure unstarted
  | interrupted failure interrupted => exact .interrupted failure (weaker failure interrupted)

namespace Provisioner

variable (provisioner : Provisioner) (pool : Pool) (active : Int)

theorem provide_tells (prospect : Prospect) (world : World) :
    (provisioner.provide pool active prospect).Does world fun answer calls after =>
      answer.1.Tells (prospect.starts (world.outside.started world.moment calls))
        (Interrupts world.outside pool active after) := by
  apply provisioner.provide_parts pool
  apply ((provisioner.startAll_does pool _ _ world).and
    (provisioner.startAll_interrupted pool active _ _ world)).mono
  rintro ⟨made, ended⟩ calls after _ ⟨course, interrupted⟩ ending noted concludes follows _
  have same : made = prospect.starts (world.outside.started world.moment calls) :=
    course.made_eq_starts
  have stays (arrived : after.stopped = true) : noted.stopped = true :=
    follows.stopped.trans arrived
  cases concludes with
  | finished _ => exact .finished _ same
  | unwritable long => exact .interrupted _ (.unwritable long)
  | fault fault => exact .startFailed fault _ same
  | failure failure =>
    rcases interrupted failure rfl with none | interrupts
    · exact .unstarted failure (same.symm.trans none)
    · exact .interrupted failure (interrupts.later stays)

/-- What ends a pass tells of the starts that its calls made. -/
theorem pass_tells (world : World) :
    (provisioner.pass pool active).Does world fun answer calls after =>
      answer.1.Tells
        (match provisioner.prospect? pool active world with
        | none => []
        | some prospect => prospect.starts (world.outside.started world.moment calls))
        (Interrupts world.outside pool active after) := by
  refine provisioner.pass_parts pool ?full ?failed ?reached
  case full =>
    intro _ none _ _
    rw [none]
    exact .finished _ rfl
  case failed =>
    intro failure _ _ none _ _
    rw [none]
    exact .unstarted failure rfl
  case reached =>
    intro between prospect asked found asks follows _
    apply (provisioner.provide_tells pool active prospect between).mono
    intro answer calls after _ tells
    rw [follows.outside, follows.moment] at tells
    rw [found, Outside.started_append, Outside.started_eq_nil asks.no_run, List.nil_append]
    exact tells

end Provisioner

/-! ## What a status tells -/

/-- What a status shows of starts after the pass that made them: all of them, or, if the pass
was interrupted, none. -/
def PassEnd.ShowsStarts
    (starts : List Start)
    (interrupts : Failure → Prop)
    (status : PoolStatus) : PassEnd → Prop
  | .finished _ | .startFailed _ _ => status.startedIds = starts.map (·.candidate.job.id)
  | .failed failure => status.startedIds = [] ∧ (starts ≠ [] → interrupts failure)

namespace Provisioner

theorem report_showsStarts
    (pool : Pool)
    {status : PoolStatus}
    (cleared : status.decision = none)
    {starts : List Start}
    {interrupts : Failure → Prop}
    {ended : PassEnd}
    (tells : ended.Tells starts interrupts)
    (world : World) :
    ended.ShowsStarts starts interrupts ((report pool status ended).run world).1 := by
  have none : status.startedIds = [] := by rw [PoolStatus.startedIds, cleared]
  cases tells with
  | finished decision listed =>
    rw [← listed]
    exact List.map_map
  | startFailed fault decision listed =>
    rw [← listed]
    exact List.map_map
  | unstarted failure unstarted => exact ⟨none, fun started => absurd unstarted started⟩
  | interrupted failure interrupted => exact ⟨none, fun _ => interrupted⟩

end Provisioner

/-- The starts of a prospect are those of its containers, in order. -/
theorem Prospect.containers_starts
    (prospect : Prospect)
    {started : List (RunnerSpec × Float)}
    (few : started.length ≤ prospect.candidates.length) :
    (prospect.starts started).map (fun start => (start.runner, start.time)) =
      started.map fun container => (container.1.name, container.2) := by
  have paired :
      (prospect.starts started).map (fun start => (start.runner, start.time)) =
        (prospect.candidates.zip started).map fun pair => (pair.2.1.name, pair.2.2) := by
    rw [starts, List.map_zipWith, ← List.map_uncurry_zip_eq_zipWith]
    rfl
  rw [paired]
  conv_rhs => rw [← List.map_snd_zip few, List.map_map]
  rfl

/-- The starts of an episode are those of its containers, in order. -/
theorem Episode.containers_starts
    (episode : Episode)
    (complete : episode.started.length = episode.starts.length) :
    episode.starts.map (fun start => (start.runner, start.time)) =
      episode.started.map fun container => (container.1.name, container.2) := by
  rcases episode with ⟨prospect?, started⟩
  cases prospect? with
  | none =>
    cases List.length_eq_zero_iff.mp complete
    rfl
  | some prospect =>
    have few : started.length ≤ prospect.candidates.length :=
      calc
        started.length
            = min prospect.candidates.length started.length :=
              complete.trans (List.length_zipWith ..)
        _ ≤ prospect.candidates.length := Nat.min_le_left _ _
    exact prospect.containers_starts few

/-- After the count of the live runners all calls are those of the pass. -/
theorem Provisioner.carryOn_does
    (provisioner : Provisioner)
    (pool : Pool)
    (observed : PoolStatus)
    (count : Except Failure Nat)
    (world : World) :
    (provisioner.carryOn pool observed count).Does world fun _ calls _ =>
      match count with
      | .error _ => calls = []
      | .ok active => calls = ((provisioner.pass pool active).run world).2.callsSince world := by
  cases count with
  | error failure =>
    apply Act.Does.bind
    apply (report_does pool observed (.failed failure) world).mono
    rintro _ _ _ _ rfl
    exact Act.Does.pure rfl
  | ok active =>
    rcases provisioner.pass_does pool active world with ⟨calls, follows, _⟩
    refine Act.Does.bind ⟨calls, follows, ?_⟩
    apply Act.Does.bind
    apply (report_does pool observed _ _).mono
    rintro _ _ _ _ rfl
    exact Act.Does.pure (by simpa using follows.callsSince.symm)

namespace Visit

variable (visit : Visit)

/-- The containers that a visit starts, each with the time right after its start. -/
def started : List (RunnerSpec × Float) :=
  visit.world.outside.started visit.world.moment visit.calls

/-- The number of live runners that a visit counts, if it can. -/
def active? : Option Nat :=
  ((Provisioner.observe visit.pool visit.status.cleared).run visit.world).1.2.toOption

/-- What the pass of a visit comes to; without a count of the live runners there is none. -/
def episode : Episode :=
  match (Provisioner.observe visit.pool visit.status.cleared).run visit.world with
  | ((_, .error _), _) => ⟨none, []⟩
  | ((_, .ok active), observed) =>
    visit.provisioner.episode ⟨visit.pool, active, observed⟩

theorem starts_eq : visit.starts = visit.episode.starts := by
  rw [starts, episode]
  generalize (Provisioner.observe visit.pool visit.status.cleared).run visit.world = result
  rcases result with ⟨⟨observed, count⟩, world⟩
  cases count with
  | error failure => rfl
  | ok active => rfl

/-- All containers that a visit starts are started by its pass. -/
theorem started_eq : visit.started = visit.episode.started := by
  rcases Provisioner.observe_does visit.pool visit.status.cleared visit.world with
    ⟨listing, listed, counted⟩
  have silent : visit.world.outside.started visit.world.moment listing = [] := by
    apply Outside.started_eq_nil
    rcases counted with ⟨rfl, _⟩ | ⟨rfl, _⟩
    · nofun
    · simp [Call.isRun]
  rw [started, calls, outcome, Provisioner.reconcile_eq, Act.run_bind, episode]
  generalize (Provisioner.observe visit.pool visit.status.cleared).run visit.world = result
    at listed
  rcases result with ⟨⟨observed, count⟩, world⟩
  rcases visit.provisioner.carryOn_does visit.pool observed count world with
    ⟨further, carried, made⟩
  have replayed := listed.moment
  dsimp only at replayed ⊢
  rw [(listed.trans carried).callsSince, Outside.started_append, silent, List.nil_append,
    ← replayed]
  cases count with
  | error failure =>
    rw [made]
    rfl
  | ok active =>
    rw [made]
    simp only [Provisioner.episode, ← listed.outside]

/-- A visit without a pass leaves the provisioner as it is; any other is told by its pass. -/
theorem episode_cases :
    (visit.leftProvisioner = visit.provisioner ∧ visit.episode = ⟨none, []⟩) ∨
      ∃ occasion,
        visit.leftProvisioner = visit.provisioner.afterPass occasion ∧
          visit.episode = visit.provisioner.episode occasion := by
  rw [leftProvisioner, outcome, episode, Provisioner.reconcile_eq, Act.run_bind]
  generalize (Provisioner.observe visit.pool visit.status.cleared).run visit.world = result
  rcases result with ⟨⟨observed, count⟩, world⟩
  cases count with
  | error failure => exact .inl ⟨rfl, rfl⟩
  | ok active => exact .inr ⟨⟨visit.pool, active, world⟩, rfl, rfl⟩

theorem length_started_episode : visit.episode.started.length = visit.episode.starts.length := by
  rcases visit.episode_cases with ⟨_, none⟩ | ⟨occasion, _, told⟩
  · rw [none]
    rfl
  · rw [told]
    exact (visit.provisioner.ledger_afterPass occasion).1

/-- What interrupts the pass of a visit once it has started runners. -/
def Interrupted (failure : Failure) : Prop :=
  ∃ active,
    visit.active? = some active ∧
      Interrupts visit.world.outside visit.pool active visit.outcome.2 failure

theorem ended_showsStarts :
    visit.ended.ShowsStarts visit.starts visit.Interrupted visit.leftStatus := by
  have cleared := (Provisioner.observe_leaves visit.pool visit.status.cleared visit.world).1
  rcases Provisioner.observe_does visit.pool visit.status.cleared visit.world with
    ⟨listing, listed, _⟩
  unfold Interrupted
  rw [active?, leftStatus, ended, starts, outcome, Provisioner.reconcile_eq, Act.run_bind]
  generalize (Provisioner.observe visit.pool visit.status.cleared).run visit.world = result
    at cleared listed
  rcases result with ⟨⟨observed, count⟩, world⟩
  cases count with
  | error failure =>
    exact Provisioner.report_showsStarts visit.pool cleared (.unstarted failure rfl) world
  | ok active =>
    rcases visit.provisioner.pass_tells visit.pool active world with ⟨calls, passed, tells⟩
    rw [← passed.callsSince] at tells
    refine Provisioner.report_showsStarts visit.pool cleared (tells.mono ?_) _
    intro failure interrupted
    rcases Provisioner.report_does visit.pool observed
      ((visit.provisioner.pass visit.pool active).run world).1.1
      ((visit.provisioner.pass visit.pool active).run world).2 with ⟨_, reported, rfl⟩
    refine ⟨active, rfl, ?_⟩
    rw [← listed.outside]
    exact interrupted.later fun arrived => reported.stopped.trans arrived

/-- What a status shows of the starts of a visit is told by how its pass ended.

The starts are those of the containers that the calls of the visit started, in order.  After a
pass that ran to its end, and after one whose starting failed, the status shows the ids of
their jobs in that order.  After any other failure it shows none; then there was no start
either, unless the failure is one that interrupts a pass between two starts or after the last
one. -/
theorem startedIds_after_visit :
    visit.starts.map (fun start => (start.runner, start.time)) =
        visit.started.map (fun container => (container.1.name, container.2)) ∧
      match visit.ended with
      | .finished _ | .startFailed _ _ =>
        visit.leftStatus.startedIds = visit.starts.map (·.candidate.job.id)
      | .failed failure =>
        visit.leftStatus.startedIds = [] ∧
          (visit.starts ≠ [] → visit.Interrupted failure) := by
  refine ⟨?_, visit.ended_showsStarts⟩
  rw [visit.starts_eq, visit.started_eq]
  exact visit.episode.containers_starts visit.length_started_episode

/-- The stop signal hides the start during which it arrives. -/
example :
    let world := World.five { Script.five with triggers := [⟨.run, 1⟩] }
    let visit : Visit := ⟨Pool.double "builders", Provisioner.unused, {}, world⟩
    visit.started.length = 1 ∧ visit.leftStatus.startedIds.length = 0 := by
  decide +kernel

end Visit

end RunnerFleet
