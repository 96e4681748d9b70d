import RunnerFleet.Job
import RunnerFleet.Ledger
import RunnerFleet.Log

/-!
# Selecting candidates

Of the jobs that a fetch yielded, a pass picks those that need a runner: the
ones for which the ledger does not say that a runner was requested recently.  A
job that occurs again after it was picked is passed over, since the ledger only
learns of requests once they were made.

A survey goes through the jobs in order and says of each one what was found; the
candidates and the lines of the log are read off it.  It ends early at a job
whose id cannot be a key.
-/

namespace RunnerFleet

/-- A job that needs a runner, and whether it had one before. -/
structure Candidate where
  job : Job
  key : Key
  verdict : Verdict

/-- What a survey found out about a job. -/
inductive Finding where
  /-- The job was picked before. -/
  | repeated (job : Job)
  /-- A runner was requested recently. -/
  | recent (job : Job)
  /-- The job needs a runner. -/
  | picked (candidate : Candidate)

/-- What was found about jobs in order, and what ended the survey early. -/
structure Survey where
  findings : List Finding
  failure? : Option Failure

namespace Survey

/-- Put a finding in front. -/
def cons (finding : Finding) (survey : Survey) : Survey :=
  { survey with findings := finding :: survey.findings }

/-- Go through jobs, given the keys of those that were picked already. -/
def of (ledger : Ledger) (now : Float) : List Key → List Job → Survey
  | _, [] => ⟨[], none⟩
  | claimed, job :: rest =>
    match job.id.key with
    | .error failure => ⟨[], some failure⟩
    | .ok key =>
      if claimed.contains key then
        (of ledger now claimed rest).cons (.repeated job)
      else
        match ledger.verdict key now with
        | .skip => (of ledger now claimed rest).cons (.recent job)
        | verdict => (of ledger now (key :: claimed) rest).cons (.picked ⟨job, key, verdict⟩)

end Survey

/-- The candidate that a finding is about. -/
def Finding.candidate? : Finding → Option Candidate
  | .picked candidate => some candidate
  | _ => none

/-- The line of the log about a finding. -/
def Finding.line? (lifetime : Float) : Finding → Option LogLine
  | .repeated _ => none
  | .recent job =>
    some ⟨.debug, "Job " ++ job.id.plain ++ ": runner requested recently, skipping"⟩
  | .picked candidate =>
    match candidate.verdict with
    | .retry =>
      some
        ⟨.info,
          "Job " ++ candidate.job.id.plain ++ ": runner did not pick it up within "
            ++ Number.wholeText lifetime ++ "s, retrying"⟩
    | _ => none

namespace Survey

/-- The jobs that need a runner, in order. -/
def candidates (survey : Survey) : List Candidate :=
  survey.findings.filterMap Finding.candidate?

/-- The lines of the log about a survey. -/
def lines (survey : Survey) (lifetime : Float) : List LogLine :=
  survey.findings.filterMap (Finding.line? lifetime)

end Survey

/-- The survey of jobs none of which was picked yet. -/
def Ledger.survey (ledger : Ledger) (now : Float) (jobs : List Job) : Survey :=
  Survey.of ledger now [] jobs

/-- The jobs that need a runner at a time. -/
def Ledger.candidates
    (ledger : Ledger)
    (now : Float)
    (jobs : List Job) : Except Failure (List Candidate) :=
  match (ledger.survey now jobs).failure? with
  | some failure => .error failure
  | none => .ok (ledger.survey now jobs).candidates

end RunnerFleet
