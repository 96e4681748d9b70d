import RunnerFleet.Job
import RunnerFleet.Json.Reader
import RunnerFleet.Outside

/-!
# The forge

A forge lists the jobs that wait for a runner, page by page and status by
status.  Depending on the scope the listing is that of a repository, of an
organisation, of the whole forge, or of every repository of a user in turn.

A fetch yields every job it asked for or fails.  A listing ends with the first
page that is shorter than a full one, counted before any job is left out.
-/

namespace RunnerFleet

/-- One forge as a pool sees it. -/
structure Forge where
  baseUrl : Text
  token : Text
  timeout : Value := .int 30
  pageSize : Int := 50
  matcher : Matcher := .schema

namespace Forge

/-- The statuses of jobs that wait for a runner. -/
def pendingStatuses : List String :=
  ["queued", "waiting", "pending"]

/-- What a listing of jobs is called in reports. -/
def fetchingJobs : String := "fetch workflow jobs"

/-- What a listing of repositories is called in reports. -/
def fetchingRepositories : String := "fetch user repos"

/-- A text without the slashes at its end. -/
def trimSlashes (url : Text) : Text :=
  (url.reverse.dropWhile (· == .scalar '/')).reverse

/-- The forge at an address. -/
def ofUrl
    (url : Text)
    (token : Text)
    (timeout : Value)
    (pageSize : Int)
    (matcher : Matcher) : Forge :=
  { baseUrl := trimSlashes url, token, timeout, pageSize, matcher }

/-! ## Addresses -/

/-- The address of a path of the forge's interface. -/
def address (forge : Forge) (path : Text) : Text :=
  forge.baseUrl ++ "/api/v1/" ++ path

/-- Where the jobs of a repository are listed. -/
def repositoryJobs (forge : Forge) (owner name : Text) : Text :=
  forge.address ("repos/" ++ owner ++ "/" ++ name ++ "/actions/jobs")

/-- Where the jobs of an organisation are listed. -/
def organisationJobs (forge : Forge) (organisation : Text) : Text :=
  forge.address ("orgs/" ++ organisation ++ "/actions/jobs")

/-- Where the jobs of the whole forge are listed. -/
def allJobs (forge : Forge) : Text :=
  forge.address "admin/actions/jobs"

/-- Where the repositories of a user are listed. -/
def userRepositories (forge : Forge) (user : Text) : Text :=
  forge.address ("users/" ++ user ++ "/repos")

/-! ## Requests -/

/-- The value that a reply to an operation carries, nested to at most the given number of
levels. -/
def Reply.content (nesting : Nat) (operation : String) : Reply → Except Failure Value
  | .fault fault =>
    if fault.origin.isTransport then .error (.unreachable operation fault.message)
    else .error (.outside fault)
  | .answer status body =>
    if status = 200 then
      match Json.read nesting body with
      | .ok value => .ok value
      | .error (.tooDeep nest) => .error (.tooDeep nest)
      | .error fault => .error (.malformed (.notJson operation fault.message))
    else
      .error (.refused (.ofAnswer status operation body))

/-- Make a request for an operation, unless the stop signal has arrived. -/
def request (request : Request) (operation : String) : Attempt Value := do
  if ← isStopped then
    throw (.cancelledBefore operation)
  note .debug ("GET " ++ request.url ++ " " ++ (Value.object request.query).literal)
  let reply ← ask request
  liftExcept (Reply.content (← limits).answerNesting operation reply)

/-- The request for one page of a listing. -/
def pageRequest
    (forge : Forge)
    (url : Text)
    (status : Option String)
    (page : Nat) : Request :=
  { url, status, page, limit := forge.pageSize, token := forge.token, timeout := forge.timeout }

/-! ## Listings -/

/-- Read the items of a listing from a page on, up to the first page that is not
full.  The bound is the number of pages after which the outside serves no
further request. -/
def pagesFrom
    {Item : Type}
    (pageSize : Int)
    (operation : String)
    (fetchPage : Nat → Attempt (List Item)) : Nat → Nat → Attempt (List Item)
  | 0, _ => throw (.unreachable operation requestLimitReached.message)
  | bound + 1, page => do
    let items ← fetchPage page
    if (items.length : Int) < pageSize then
      pure items
    else
      let others ← pagesFrom pageSize operation fetchPage bound (page + 1)
      pure (items ++ others)

/-- Read all items of a listing. -/
def listing
    {Item : Type}
    (pageSize : Int)
    (operation : String)
    (fetchPage : Nat → Attempt (List Item)) : Attempt (List Item) := do
  let bound := (← get).requestsLeft + 1
  pagesFrom pageSize operation fetchPage bound 1

/-- The jobs on one page of answers. -/
def jobsOfPage (endpoint : Text) (data : Value) : Except Failure (List Job) :=
  match data with
  | .object fields => do
    let entries ← ((Fields.get fields "jobs").orElse (.list [])).elements
    entries.mapM Job.ofValue
  | _ => .error (.malformed (.jobs endpoint data))

/-- Whether a pool that offers the given labels can run a job. -/
def canRun (forge : Forge) (offered : List Text) (job : Job) : Bool :=
  forge.matcher.accepts job.labels offered

/-- What is logged about a job that was listed. -/
def jobNote (forge : Forge) (offered : List Text) (job : Job) : Text :=
  "Job " ++ job.id.plain ++ " (status=" ++ job.status.plain ++ ", labels="
    ++ (Value.list job.labels).literal ++ ") runnable with " ++ Value.textsLiteral offered
    ++ ": " ++ (Value.bool (forge.canRun offered job)).plain

/-- Fetch one page of the jobs with a status. -/
def fetchJobsPage
    (forge : Forge)
    (endpoint : Text)
    (offered : List Text)
    (status : String)
    (page : Nat) : Attempt (List Job) := do
  let data ← request (forge.pageRequest endpoint (some status) page) fetchingJobs
  let jobs ← liftExcept (jobsOfPage endpoint data)
  noteAll (jobs.map fun job => ⟨.debug, forge.jobNote offered job⟩)
  pure jobs

/-- Fetch the jobs with a status that the offered labels can run. -/
def fetchStatus
    (forge : Forge)
    (endpoint : Text)
    (offered : List Text)
    (status : String) : Attempt (List Job) := do
  let jobs ← listing forge.pageSize fetchingJobs (forge.fetchJobsPage endpoint offered status)
  pure (jobs.filter (forge.canRun offered))

/-- Do something for every item in turn and join what comes of it. -/
def gather {Source Item : Type} (fetch : Source → Attempt (List Item)) :
    List Source → Attempt (List Item)
  | [] => pure []
  | source :: rest => do
    let items ← fetch source
    let others ← gather fetch rest
    pure (items ++ others)

/-- Fetch the jobs of an endpoint that wait for a runner and that the offered
labels can run. -/
def fetchJobs
    (forge : Forge)
    (endpoint : Text)
    (offered : List Text) : Attempt (List Job) :=
  gather (forge.fetchStatus endpoint offered) pendingStatuses

/-- Fetch one page of a user's repositories. -/
def fetchRepositoriesPage
    (forge : Forge)
    (endpoint : Text)
    (page : Nat) : Attempt (List Repository) := do
  let data ← request (forge.pageRequest endpoint none page) fetchingRepositories
  match data with
  | .list entries => liftExcept (entries.mapM Repository.ofValue)
  | _ => throw (.malformed (.repositories endpoint data))

/-- Fetch the repositories of a user. -/
def fetchRepositories (forge : Forge) (user : Text) : Attempt (List Repository) :=
  listing forge.pageSize fetchingRepositories
    (forge.fetchRepositoriesPage (forge.userRepositories user))

/-- The endpoints at which the jobs of a scope are listed. -/
def endpoints
    (forge : Forge)
    (scope : ScopeSetting)
    (organisation user repository : Text) : Attempt (List Text) :=
  match scope with
  | .known .repository => pure [forge.repositoryJobs organisation repository]
  | .known .organisation => pure [forge.organisationJobs organisation]
  | .known .global => pure [forge.allJobs]
  | .known .user => do
    let repositories ← forge.fetchRepositories user
    note .debug
      ("User " ++ user ++ " owns " ++ toString repositories.length ++ " repositories")
    pure (repositories.map fun repository =>
      forge.repositoryJobs repository.owner.plain repository.name.plain)
  | .unknown value => throw (.unknownScope value)

/-- Fetch the jobs of a scope that wait for a runner and that the offered labels
can run. -/
def fetchQueued
    (forge : Forge)
    (scope : ScopeSetting)
    (organisation user repository : Text)
    (offered : List Text) : Attempt (List Job) := do
  let endpoints ← forge.endpoints scope organisation user repository
  gather (fun endpoint => forge.fetchJobs endpoint offered) endpoints

end Forge

end RunnerFleet
