import RunnerFleet.Proofs.Companions

/-!
# What a visit leaves of the status before it

A status outlives the visits to its pool, and every visit writes over parts of it.  The error
and the decision always come from the visit itself, whatever ended it and wherever that
happened.  The number of live runners and the time of the count come from the visit as soon as
it has them, also if it fails later; before that they are still those of an earlier one.

So in a run the error and the decision of a status are those of the last visit, and the number
and the time are those of the last visit that had them.
-/

namespace RunnerFleet

/-! ## The parts of a visit -/

namespace Provisioner

/-- The world in which a pass begins, once the count of the live runners is in the log. -/
def announced (pool : Pool) (active : Nat) (listed : World) : World :=
  ((note .info
      ("Pool " ++ pool.name ++ ": " ++ toString active ++ "/" ++ toString pool.capacity
        ++ " active runners")).run listed).2

/-- What the count of the live runners enters in a status, and what a visit goes on with. -/
theorem observe_run (pool : Pool) (status : PoolStatus) (world : World) :
    (observe pool status).run world =
      match (Launcher.countLive pool).run.run world with
      | (.error failure, listed) => ((status, .error failure), listed)
      | (.ok active, listed) =>
        match Timestamp.isoText listed.clock with
        | .error fault => (({ status with live := active }, .error (.noDate fault)), listed)
        | .ok time =>
          if isShowable pool active then
            (({ status with live := active, checkedAt := some time }, .ok active),
              announced pool active listed)
          else
            (({ status with live := active, checkedAt := some time }, .error .tooManyDigits),
              listed) := by
  rw [observe, Act.run_bind]
  rcases (Launcher.countLive pool).run.run world with ⟨outcome, listed⟩
  cases outcome with
  | error failure => rfl
  | ok active =>
    dsimp only
    rw [Act.run_bind, run_now]
    dsimp only
    cases Timestamp.isoText listed.clock with
    | error fault => rfl
    | ok time =>
      dsimp only
      cases isShowable pool active with
      | true => rfl
      | false => rfl

/-- A report fills in the decision and the error of a status that has neither. -/
theorem report_run
    (pool : Pool)
    (live : Int)
    (checkedAt : Option String)
    (ended : PassEnd)
    (world : World) :
    ((report pool { live, checkedAt } ended).run world).1 =
      { live, checkedAt, decision := ended.summary?, error := ended.report? } := by
  cases ended with
  | finished decision => rfl
  | startFailed fault decision => rfl
  | failed failure => rfl

/-- How a visit ends that goes on with a count of the live runners. -/
def endFrom
    (provisioner : Provisioner)
    (pool : Pool)
    (world : World) : Except Failure Nat → PassEnd
  | .error failure => .failed failure
  | .ok active => ((provisioner.pass pool active).run world).1.1

theorem carryOn_run
    (provisioner : Provisioner)
    (pool : Pool)
    (live : Int)
    (checkedAt : Option String)
    (count : Except Failure Nat)
    (world : World) :
    ((provisioner.carryOn pool { live, checkedAt } count).run world).1.2 =
      ({ live
         checkedAt
         decision := (provisioner.endFrom pool world count).summary?
         error := (provisioner.endFrom pool world count).report? },
        (provisioner.endFrom pool world count).decision?) := by
  cases count with
  | error failure =>
    exact Prod.ext (report_run pool live checkedAt (.failed failure) world) rfl
  | ok active => exact Prod.ext (report_run pool live checkedAt _ _) rfl

end Provisioner

namespace Visit

variable (visit : Visit)

/-- The decision that a visit returns. -/
def decision? : Option Decision :=
  visit.outcome.1.2.2

/-- The count of the live runners with which a visit begins, and the world that it leaves. -/
def counted : Except Failure Nat × World :=
  (Launcher.countLive visit.pool).run.run visit.world

/-- The number of live runners that a visit counts. -/
def number? : Option Nat :=
  visit.counted.1.toOption

/-- The time of the count of a visit, if there is a count and the time has a date. -/
def time? : Option String :=
  match visit.counted with
  | (.error _, _) => none
  | (.ok _, listed) => (Timestamp.isoText listed.clock).toOption

/-- The same visit with another status before it. -/
def since (earlier : PoolStatus) : Visit :=
  { visit with status := earlier }

/-- How a visit ends is told by its count, and by its pass if the count can be entered. -/
theorem ended_eq :
    visit.ended =
      match visit.counted with
      | (.error failure, _) => .failed failure
      | (.ok active, listed) =>
        match Timestamp.isoText listed.clock with
        | .error fault => .failed (.noDate fault)
        | .ok _ =>
          if Provisioner.isShowable visit.pool active then
            ((visit.provisioner.pass visit.pool active).run
              (Provisioner.announced visit.pool active listed)).1.1
          else
            .failed .tooManyDigits := by
  rw [ended, Provisioner.observe_run, counted]
  rcases (Launcher.countLive visit.pool).run.run visit.world with ⟨count, listed⟩
  cases count with
  | error failure => rfl
  | ok active =>
    dsimp only
    cases Timestamp.isoText listed.clock with
    | error fault => rfl
    | ok time =>
      dsimp only
      cases Provisioner.isShowable visit.pool active with
      | true => rfl
      | false => rfl

/-- What a visit leaves in a status and returns: two parts of the status and the decision are
its own, and two parts are taken over if it does not come to them. -/
theorem outcome_eq :
    visit.outcome.1.2 =
      ({ live := (visit.number?.map Int.ofNat).getD visit.status.live
         checkedAt := visit.time?.or visit.status.checkedAt
         decision := visit.ended.summary?
         error := visit.ended.report? },
        visit.ended.decision?) := by
  rw [outcome, Provisioner.reconcile_eq, Act.run_bind, ended_eq, number?, time?, counted,
    Provisioner.observe_run]
  rcases (Launcher.countLive visit.pool).run.run visit.world with ⟨count, listed⟩
  cases count with
  | error failure =>
    exact visit.provisioner.carryOn_run visit.pool visit.status.live visit.status.checkedAt
      (.error failure) listed
  | ok active =>
    dsimp only
    cases Timestamp.isoText listed.clock with
    | error fault =>
      exact visit.provisioner.carryOn_run visit.pool active visit.status.checkedAt
        (.error (.noDate fault)) listed
    | ok time =>
      dsimp only
      cases Provisioner.isShowable visit.pool active with
      | true =>
        exact visit.provisioner.carryOn_run visit.pool active (some time) (.ok active)
          (Provisioner.announced visit.pool active listed)
      | false =>
        exact visit.provisioner.carryOn_run visit.pool active (some time)
          (.error .tooManyDigits) listed

theorem leftStatus_eq :
    visit.leftStatus =
      { live := (visit.number?.map Int.ofNat).getD visit.status.live
        checkedAt := visit.time?.or visit.status.checkedAt
        decision := visit.ended.summary?
        error := visit.ended.report? } :=
  congrArg Prod.fst visit.outcome_eq

theorem decision?_eq : visit.decision? = visit.ended.decision? :=
  congrArg Prod.snd visit.outcome_eq

/-- A visit leaves nothing in the status of what an earlier one decided or failed with.

It returns a decision exactly if the status shows no error afterwards, and then the status shows
the figures of that decision.  Otherwise the status shows the report of the failure with which
the visit ended, and figures only if starting failed, which are then those of what was done
before.

The number of live runners and the time stay what they were exactly if the runners could not be
counted, and that is what the visit ends with.  Otherwise they are entered before the pass
begins, and however it ends they stay; a time without a date is not entered, and then there is
no pass.  Nor is there one if the number or the capacity has too many digits to be shown.

The status before the visit changes neither how the visit ends nor what it leaves as decision
and error. -/
theorem status_after_visit :
    (visit.decision?.isSome = true ↔ visit.leftStatus.error = none) ∧
      (match visit.ended with
        | .finished decision =>
          visit.decision? = some decision ∧
            visit.leftStatus.error = none ∧ visit.leftStatus.decision = some decision.summary
        | .startFailed fault decision =>
          visit.decision? = none ∧
            visit.leftStatus.error = some fault.message ∧
              visit.leftStatus.decision = some decision.summary
        | .failed failure =>
          visit.decision? = none ∧
            visit.leftStatus.error = some failure.message ∧ visit.leftStatus.decision = none) ∧
        (match visit.counted with
          | (.error failure, _) =>
            visit.ended = .failed failure ∧
              visit.leftStatus.live = visit.status.live ∧
                visit.leftStatus.checkedAt = visit.status.checkedAt
          | (.ok active, listed) =>
            visit.leftStatus.live = active ∧
              match Timestamp.isoText listed.clock with
              | .error fault =>
                visit.ended = .failed (.noDate fault) ∧
                  visit.leftStatus.checkedAt = visit.status.checkedAt
              | .ok time =>
                visit.leftStatus.checkedAt = some time ∧
                  visit.ended =
                    if Provisioner.isShowable visit.pool active then
                      ((visit.provisioner.pass visit.pool active).run
                        (Provisioner.announced visit.pool active listed)).1.1
                    else
                      .failed .tooManyDigits) ∧
          ∀ earlier : PoolStatus,
            (visit.since earlier).ended = visit.ended ∧
              (visit.since earlier).decision? = visit.decision? ∧
                (visit.since earlier).leftStatus.decision = visit.leftStatus.decision ∧
                  (visit.since earlier).leftStatus.error = visit.leftStatus.error := by
  rw [visit.decision?_eq, visit.leftStatus_eq]
  refine ⟨?returned, ?shown, ?entered, ?apart⟩
  case returned =>
    cases visit.ended with
    | finished decision => simp [PassEnd.decision?, PassEnd.report?]
    | startFailed fault decision => simp [PassEnd.decision?, PassEnd.report?]
    | failed failure => simp [PassEnd.decision?, PassEnd.report?]
  case shown =>
    cases visit.ended with
    | finished decision => exact ⟨rfl, rfl, rfl⟩
    | startFailed fault decision => exact ⟨rfl, rfl, rfl⟩
    | failed failure => exact ⟨rfl, rfl, rfl⟩
  case entered =>
    rw [visit.ended_eq, number?, time?]
    rcases visit.counted with ⟨count, listed⟩
    cases count with
    | error failure => exact ⟨rfl, rfl, rfl⟩
    | ok active =>
      refine ⟨rfl, ?_⟩
      dsimp only
      cases Timestamp.isoText listed.clock with
      | error fault => exact ⟨rfl, rfl⟩
      | ok time => exact ⟨rfl, rfl⟩
  case apart =>
    intro earlier
    have same : (visit.since earlier).ended = visit.ended := by
      rw [ended_eq, ended_eq]
      rfl
    rw [(visit.since earlier).decision?_eq, (visit.since earlier).leftStatus_eq, same]
    exact ⟨rfl, rfl, rfl, rfl⟩

/-- A visit that cannot count the live runners keeps their number but not the error. -/
example :
    let silent : Fault := ⟨.engine, "APIError", "no reply"⟩
    let world :=
      { World.waiting 1000.0 with outside := Script.outside { listFaults := [(1, silent)] } }
    let earlier : PoolStatus := { live := 3, error := some "cancelled before fetch jobs" }
    let visit : Visit := ⟨Pool.single "builders", Provisioner.unused, earlier, world⟩
    visit.leftStatus.live = 3 ∧
      visit.leftStatus.error =
        some "Failed to list runners for pool builders: no reply" := by
  decide +kernel

end Visit

/-! ## The visits of a run -/

section

variable {Item Part : Type}

theorem getLast?_filterMap_singleton (part : Item → Option Part) (item : Item) :
    ([item].filterMap part).getLast? = part item := by
  rw [List.filterMap_cons, List.filterMap_nil]
  cases part item with
  | none => rfl
  | some found => rfl

/-- The last part that items have is the last one after the first item, or else its own. -/
theorem getLast?_filterMap_cons (part : Item → Option Part) (item : Item) (rest : List Item) :
    ((item :: rest).filterMap part).getLast? = (rest.filterMap part).getLast?.or (part item) := by
  rw [List.filterMap_cons]
  cases part item with
  | none => exact Option.or_none.symm
  | some found =>
    dsimp only
    rw [List.getLast?_cons]
    cases (rest.filterMap part).getLast? with
    | none => rfl
    | some last => rfl

end

/-- After any number of visits to a pool in a run its status shows the decision and the error of
the last one, and the number of live runners and the time of the last one that had them. -/
theorem Stays.leftStatus
    {pool : Pool}
    {provisioner : Provisioner}
    {status : PoolStatus}
    {since : World}
    {stays : List Stay}
    (course : Stays pool provisioner status since stays)
    {before after : List Visit}
    {visit : Visit}
    (split : stays.map (·.visit) = before ++ visit :: after) :
    visit.leftStatus =
      { live :=
          (((before ++ [visit]).filterMap Visit.number?).getLast?.map Int.ofNat).getD status.live
        checkedAt :=
          ((before ++ [visit]).filterMap Visit.time?).getLast?.or status.checkedAt
        decision := visit.ended.summary?
        error := visit.ended.report? } := by
  induction course generalizing before with
  | nil => cases before <;> cases split
  | @cons provisioner status _ world _ _ _ _ _ ih =>
    cases before with
    | nil =>
      cases split
      rw [Visit.leftStatus_eq, List.nil_append, getLast?_filterMap_singleton,
        getLast?_filterMap_singleton]
    | cons first rest =>
      rw [List.map_cons, List.cons_append, List.cons.injEq] at split
      rcases split with ⟨rfl, split⟩
      rw [ih split, Visit.leftStatus_eq, List.cons_append, getLast?_filterMap_cons,
        getLast?_filterMap_cons, Option.or_assoc]
      congr 1
      cases ((rest ++ [visit]).filterMap Visit.number?).getLast? with
      | none => rfl
      | some last => rfl

end RunnerFleet
