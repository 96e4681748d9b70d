import RunnerFleet.Proofs.Fetching
import RunnerFleet.Status

/-!
# What a visit has of its parts

A visit to a pool counts the pool's live runners, fetches the waiting jobs, starts runners and
reports how that ended.  Between its calls it looks at the clock and at the stop signal and
writes to the log, and nothing else.  So a property that acts pass on from their parts is one
of visits if those calls have it.

The starting of runners depends on the environment, which not every property can be told of.
It is a part of its own here, with rules for what it is made of.
-/

namespace RunnerFleet

open Act

variable {holds : {Answer : Type} → Act Answer → Prop}

namespace Launcher

/-- A suffix is drawn character by character. -/
theorem drawSuffix_holds
    (passed : PassedOn @holds)
    (draws : ∀ alternatives, holds (draw alternatives))
    (length : Nat) :
    holds (drawSuffix length) := by
  induction length with
  | zero => exact passed.returns []
  | succ length ih =>
    apply passed.composes (draws _)
    intro index
    apply passed.composes ih
    intro others
    exact passed.returns _

variable (passed : PassedToFetches @holds)

include passed

theorem countLive_holds {pool : Pool} (lists : holds (listContainers pool.name)) :
    holds (countLive pool).run := by
  apply passed.attempt_bind (passed.attempt_lift lists)
  intro outcome
  cases outcome with
  | error fault =>
    dsimp only
    split
    · exact passed.attempt_throw _
    · exact passed.attempt_throw _
  | ok states =>
    apply passed.attempt_bind (passed.attempt_lift (passed.noteAll _))
    intro noted
    exact passed.attempt_pure _

theorem start_holds
    {launcher : Launcher}
    {pool : Pool}
    {labels : List Text}
    {token : Text}
    (draws : ∀ alternatives, holds (draw alternatives))
    (runs : ∀ name, holds (runContainer (launcher.spec pool labels token name))) :
    holds (launcher.start pool labels token).run := by
  apply passed.attempt_bind
    (passed.attempt_lift (drawSuffix_holds passed.toPassedOn draws Runner.suffixLength))
  intro suffix
  apply passed.attempt_bind (passed.attempt_lift (runs _))
  intro outcome
  cases outcome with
  | error fault =>
    dsimp only
    split
    · exact passed.attempt_throw _
    · exact passed.attempt_throw _
  | ok done =>
    apply passed.attempt_bind (passed.attempt_lift (passed.noteAll _))
    intro noted
    exact passed.attempt_pure _

end Launcher

namespace Provisioner

variable (provisioner : Provisioner) (pool : Pool) (passed : PassedToFetches @holds)

include passed

/-! ## Starting runners -/

theorem startEach_holds
    {token : Text}
    {labels : List Text}
    (starts : holds (provisioner.launcher.start pool labels token).run)
    (candidates : List Candidate) :
    holds (provisioner.startEach pool token labels candidates) := by
  induction candidates with
  | nil => exact passed.returns _
  | cons candidate rest ih =>
    apply passed.composes passed.isStopped
    intro stopped
    split
    · exact passed.returns _
    · apply passed.composes starts
      intro outcome
      cases outcome with
      | error failure => exact passed.returns _
      | ok runner =>
        apply passed.composes passed.now
        intro time
        apply passed.composes (passed.noteAll _)
        intro noted
        apply passed.composes ih
        intro others
        exact passed.returns _

theorem startAll_holds
    (looks : holds (get : Act World))
    {labels : List Text}
    (starts : ∀ token, holds (provisioner.launcher.start pool labels token).run)
    (candidates : List Candidate) :
    holds (provisioner.startAll pool labels candidates) := by
  rw [startAll]
  split
  · exact passed.returns _
  · apply passed.composes looks
    intro world
    split
    · exact passed.returns _
    · exact passed.returns _
    · split
      · exact passed.returns _
      · exact provisioner.startEach_holds pool passed (starts _) candidates

/-! ## Visits -/

theorem provide_holds
    (starts : ∀ candidates,
      holds (provisioner.startAll pool (provisioner.offered pool) candidates))
    (active : Int)
    (prospect : Prospect) :
    holds (provisioner.provide pool active prospect) := by
  apply passed.composes (starts _)
  intro started
  have departing (departed : List Entry) : holds (noteDeparted departed) := by
    rw [noteDeparted]
    split
    · exact passed.returns ()
    · exact passed.noteAll _
  apply passed.composes (departing _)
  intro noted
  dsimp only
  split
  · exact passed.returns _
  · exact passed.returns _
  · split
    · exact passed.composes (passed.noteAll _) fun _ => passed.returns _
    · exact passed.returns _

theorem report_holds (status : PoolStatus) (ended : PassEnd) :
    holds (report pool status ended) := by
  cases ended with
  | finished decision => exact passed.returns _
  | startFailed fault decision =>
    exact passed.composes (passed.noteAll _) fun _ => passed.returns _
  | failed failure => exact passed.composes (passed.noteAll _) fun _ => passed.returns _

theorem observe_holds
    (lists : holds (listContainers pool.name))
    (status : PoolStatus) :
    holds (observe pool status) := by
  apply passed.composes (Launcher.countLive_holds passed lists)
  intro outcome
  cases outcome with
  | error failure => exact passed.returns _
  | ok active =>
    apply passed.composes passed.now
    intro time
    split
    · exact passed.returns _
    · dsimp only
      split
      · exact passed.composes (passed.noteAll _) fun _ => passed.returns _
      · exact passed.returns _

variable
  (requests : ∀ path status page operation,
    holds
      (Forge.request
        (provisioner.forge.pageRequest (provisioner.forge.address path) status page)
        operation).run)
  (starts : ∀ candidates,
    holds (provisioner.startAll pool (provisioner.offered pool) candidates))

include requests starts

theorem pass_holds (active : Int) : holds (provisioner.pass pool active) := by
  rw [pass]
  split
  · split
    · exact passed.composes (passed.noteAll _) fun _ => passed.returns _
    · exact passed.returns _
  · apply passed.composes (provisioner.prospect_holds pool passed requests)
    intro outcome
    cases outcome with
    | error failure => exact passed.returns _
    | ok prospect => exact provisioner.provide_holds pool passed starts active prospect

/-- A visit has a property that is passed on to fetches if its requests, its listing of
containers and its starting of runners have it. -/
theorem reconcile_holds
    (lists : holds (listContainers pool.name))
    (status : PoolStatus) :
    holds (provisioner.reconcile pool status) := by
  apply passed.composes (observe_holds pool passed lists status.cleared)
  rintro ⟨observed, count⟩
  cases count with
  | error failure =>
    exact passed.composes (report_holds pool passed observed _) fun _ => passed.returns _
  | ok active =>
    apply passed.composes (provisioner.pass_holds pool passed requests starts active)
    rintro ⟨ended, ledger⟩
    exact passed.composes (report_holds pool passed observed ended) fun _ => passed.returns _

end Provisioner

end RunnerFleet
