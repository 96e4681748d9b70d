import RunnerFleet.Forge
import RunnerFleet.Runner
import RunnerFleet.Selection

/-!
# A pass over one pool

A pass fetches the waiting jobs that a pool can run, picks those that need a
runner, and starts runners for the first of them, as many as there are free
slots.  Whatever ends the starting, the starts that were made are entered in
the ledger, each with the time at which it was complete, and the jobs that left
the queue are struck from it.  A pass that ends before leaves the ledger alone.
-/

namespace RunnerFleet

/-! ## Starts and decisions -/

/-- A runner that was started: for which candidate, under which name, and when
the start was complete. -/
structure Start where
  candidate : Candidate
  runner : Text
  time : Float

/-- Enter starts in a ledger. -/
def Ledger.enterStarts (ledger : Ledger) (starts : List Start) : Ledger :=
  starts.foldl
    (fun ledger start =>
      ledger.record start.candidate.key start.candidate.job.id start.time)
    ledger

/-- What a pass saw and did: the live runners and the free slots, the labels it
offered, the jobs that waited, those that needed a runner, the starts it made,
and the number of jobs it struck from the ledger. -/
structure Decision where
  active : Int
  slots : Nat
  labels : List Text := []
  queued : List Job := []
  candidates : List Candidate := []
  starts : List Start := []
  evicted : Nat := 0

/-- The figures of a decision that a status shows. -/
structure Summary where
  active : Int
  slots : Nat
  queued : Nat
  candidates : Nat
  started : Nat
  startedIds : List Value

namespace Decision

/-- The jobs for which runners were started. -/
def startedJobs (decision : Decision) : List Job :=
  decision.starts.map (·.candidate.job)

/-- The names of the runners that were started. -/
def runners (decision : Decision) : List Text :=
  decision.starts.map (·.runner)

/-- How many queued jobs were not picked. -/
def skipped (decision : Decision) : Int :=
  (decision.queued.length : Int) - decision.candidates.length

/-- The figures of a decision. -/
def summary (decision : Decision) : Summary where
  active := decision.active
  slots := decision.slots
  queued := decision.queued.length
  candidates := decision.candidates.length
  started := decision.starts.length
  startedIds := decision.startedJobs.map (·.id)

end Decision

/-- The fields under which the figures of a decision are shown. -/
def Summary.fields (summary : Summary) : Fields :=
  [("active_runners", .int summary.active),
    ("available_slots", .int summary.slots),
    ("queued_jobs", .int summary.queued),
    ("candidates", .int summary.candidates),
    ("spawned", .int summary.started),
    ("spawned_job_ids", .list summary.startedIds)]

/-! ## Starting runners -/

/-- What a pool needs for its passes: the forge it asks, the way runners are
started, the requests on record, and the labels every runner offers. -/
structure Provisioner where
  forge : Forge
  launcher : Launcher
  ledger : Ledger
  defaults : List Text := Label.standard

/-- Why the starting of runners failed. -/
inductive StartFault where
  | noToken (pool : Text) (variableName : Value)
  | start (pool : Text) (job : Value) (failure : Failure)

/-- The report of a failed starting of runners. -/
def StartFault.message : StartFault → Text
  | .noToken pool variableName =>
    "Pool " ++ pool ++ ": registration token env var " ++ variableName.plain ++ " is not set"
  | .start pool job failure =>
    "Pool " ++ pool ++ ": launch for job " ++ job.plain ++ " failed: " ++ failure.message

/-- What ended the starting of runners early. -/
inductive StartsEnd where
  | fault (fault : StartFault)
  | failure (failure : Failure)

/-- The starts that were made, in order, and what ended the starting early. -/
structure Starts where
  made : List Start
  ended : Option StartsEnd

namespace Starts

/-- No start at all. -/
def nil (ended : Option StartsEnd) : Starts :=
  ⟨[], ended⟩

/-- One more start in front. -/
def cons (start : Start) (starts : Starts) : Starts :=
  { starts with made := start :: starts.made }

end Starts

namespace Provisioner

/-- What a failure to start a runner for a candidate amounts to. -/
def startsEnd (pool : Pool) (candidate : Candidate) (failure : Failure) : StartsEnd :=
  if failure.ofEngine then .fault (.start pool.name candidate.job.id failure)
  else .failure failure

/-- Start a runner for each candidate in turn. -/
def startEach
    (provisioner : Provisioner)
    (pool : Pool)
    (token : Text)
    (labels : List Text) : List Candidate → Act Starts
  | [] => return .nil none
  | candidate :: rest => do
    if ← isStopped then
      return .nil (some (.failure (.cancelledStarting pool.name)))
    match ← (provisioner.launcher.start pool labels token).run with
    | .error failure => return .nil (some (startsEnd pool candidate failure))
    | .ok runner =>
      let start : Start := ⟨candidate, runner, ← now⟩
      note .info
        ("Pool " ++ pool.name ++ ": started " ++ runner ++ " for job "
          ++ candidate.job.id.plain ++ " (" ++ candidate.verdict.word ++ ")")
      let starts ← startEach provisioner pool token labels rest
      return starts.cons start

/-- Start a runner for each candidate with the pool's registration credential.
Without candidates the credential is not needed. -/
def startAll
    (provisioner : Provisioner)
    (pool : Pool)
    (labels : List Text)
    (candidates : List Candidate) : Act Starts := do
  let noToken : StartsEnd := .fault (.noToken pool.name pool.registrationVariable)
  if candidates.isEmpty then
    return .nil none
  else
    match pool.registrationToken (← get).environment with
    | .error failure => return .nil (some (.failure failure))
    | .ok none => return .nil (some noToken)
    | .ok (some token) =>
      if token.isEmpty then
        return .nil (some noToken)
      else
        provisioner.startEach pool token labels candidates

end Provisioner

/-! ## Passes -/

/-- How a pass ended. -/
inductive PassEnd where
  /-- The pass ran to its end. -/
  | finished (decision : Decision)
  /-- Starting failed; the decision tells what was done before. -/
  | startFailed (fault : StartFault) (decision : Decision)
  /-- The pass failed in another way. -/
  | failed (failure : Failure)

/-- What a pass has when it turns to starting runners: the jobs it fetched, the time
after the fetch, and those of the jobs that need a runner. -/
structure Prospect where
  jobs : List Job
  time : Float
  candidates : List Candidate

/-- The decision of a pass that ran to its end. -/
def PassEnd.decision? : PassEnd → Option Decision
  | .finished decision => some decision
  | _ => none

/-- The keys of the jobs that have one. -/
def jobKeys (jobs : List Job) : List Key :=
  jobs.filterMap (·.id.key?)

/-- Log the entries that are struck from a ledger, if there are any. -/
def noteDeparted (departed : List Entry) : Act Unit :=
  if departed.isEmpty then
    pure ()
  else
    note .debug
      ("Evicted " ++ toString departed.length ++ " job(s) that left the queue: "
        ++ (Value.list (departed.map (·.id))).literal)

namespace Provisioner

/-- How many runners of a pool may still be started. -/
def freeSlots (pool : Pool) (active : Int) : Nat :=
  (pool.capacity - active).toNat

/-- Whether a number of live runners and the pool's capacity have few enough digits to be
written next to each other. -/
def isShowable (pool : Pool) (active : Int) : Bool :=
  Number.isWritable active && Number.isWritable pool.capacity

/-- The labels that the runners of a pool offer. -/
def offered (provisioner : Provisioner) (pool : Pool) : List Text :=
  Label.merge pool.labels provisioner.defaults

/-- Fetch the waiting jobs that a pool can run. -/
def fetch (provisioner : Provisioner) (pool : Pool) : Attempt (List Job) :=
  provisioner.forge.fetchQueued pool.scope pool.organisation pool.user pool.repository
    (provisioner.offered pool)

/-- The part of a pass that follows the picking of candidates. -/
def provide
    (provisioner : Provisioner)
    (pool : Pool)
    (active : Int)
    (prospect : Prospect) : Act (PassEnd × Ledger) := do
  let jobs := prospect.jobs
  let candidates := prospect.candidates
  let slots := freeSlots pool active
  let labels := provisioner.offered pool
  let starts ← provisioner.startAll pool labels (candidates.take slots)
  let entered := provisioner.ledger.enterStarts starts.made
  let departed := entered.departed (jobKeys jobs)
  noteDeparted departed
  let ledger := entered.retain (jobKeys jobs)
  let decision : Decision :=
    { active
      slots
      labels
      queued := jobs
      candidates
      starts := starts.made
      evicted := departed.length }
  match starts.ended with
  | some (.fault fault) => return (.startFailed fault decision, ledger)
  | some (.failure failure) => return (.failed failure, ledger)
  | none =>
    if Number.isWritable slots then
      note .info
        ("Pool " ++ pool.name ++ ": queued=" ++ toString jobs.length ++ ", candidates="
          ++ toString candidates.length ++ ", slots=" ++ toString slots ++ ", spawned="
          ++ toString starts.made.length)
      return (.finished decision, ledger)
    else
      return (.failed .tooManyDigits, ledger)

/-- Fetch the waiting jobs and pick those that need a runner. -/
def prospect (provisioner : Provisioner) (pool : Pool) : Attempt Prospect := do
  note .info
    ("Pool " ++ pool.name ++ ": checking " ++ pool.scopeText ++ " for queued jobs")
  let jobs ← provisioner.fetch pool
  let time ← now
  let survey := provisioner.ledger.survey time jobs
  noteAll (survey.lines provisioner.ledger.lifetime)
  match survey.failure? with
  | some failure => throw failure
  | none => pure { jobs, time, candidates := survey.candidates }

/-- A pass over a pool that has a number of live runners.  The answer tells how it
ended and what the ledger is afterwards. -/
def pass
    (provisioner : Provisioner)
    (pool : Pool)
    (active : Int) : Act (PassEnd × Ledger) := do
  if freeSlots pool active = 0 then
    if isShowable pool active then
      note .info
        ("Pool " ++ pool.name ++ ": max active runners reached (" ++ toString active ++ "/"
          ++ toString pool.capacity ++ "), skipping")
      return (.finished { active, slots := 0 }, provisioner.ledger)
    else
      return (.failed .tooManyDigits, provisioner.ledger)
  else
    match ← (provisioner.prospect pool).run with
    | .error failure => return (.failed failure, provisioner.ledger)
    | .ok prospect => provisioner.provide pool active prospect

end Provisioner

end RunnerFleet
