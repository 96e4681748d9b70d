import RunnerFleet.Forge
import RunnerFleet.Proofs.Work

/-!
# What the forge tells

A request and the reply to it are an exchange.  The exchanges of a trace are replayed
from its calls, like everything else that calls bring about, and an exchange either
carries a page of a listing or is at fault, for a reason that depends on it alone.

Fetching a page of jobs and fetching a page of repositories are the same work for two
listings: one exchange, and what its reply reads as, unless the stop signal has arrived.
-/

namespace RunnerFleet

/-- A request and the reply to it, with how deep the reply may be nested where it is
read. -/
structure Exchange where
  request : Request
  reply : Reply
  nesting : Nat

namespace Outside

/-- The exchange that a call is at a moment, if it is a request. -/
def exchangeOf (outside : Outside) (moment : Moment) : Call → List Exchange
  | .ask request => [⟨request, outside.replyAt moment request, outside.limits.answerNesting⟩]
  | _ => []

/-- The exchanges of a trace, in order. -/
def exchanges (outside : Outside) : Moment → List Call → List Exchange
  | _, [] => []
  | moment, made :: rest =>
    outside.exchangeOf moment made ++ exchanges outside (outside.step moment made) rest

variable (outside : Outside) (moment : Moment)

@[simp]
theorem exchanges_nil : outside.exchanges moment [] = [] :=
  rfl

@[simp]
theorem exchanges_ask (request : Request) :
    outside.exchanges moment [.ask request] =
      [⟨request, outside.replyAt moment request, outside.limits.answerNesting⟩] :=
  rfl

theorem exchanges_append (first second : List Call) :
    outside.exchanges moment (first ++ second) =
      outside.exchanges moment first ++
        outside.exchanges (outside.replay moment first) second := by
  induction first generalizing moment with
  | nil => rfl
  | cons made rest ih =>
    rw [List.cons_append, exchanges, exchanges, ih, replay_cons, List.append_assoc]

end Outside

/-! ## What an exchange carries -/

namespace Forge

/-- The repositories on one page of answers. -/
def repositoriesOfPage (endpoint : Text) : Value → Except Failure (List Repository)
  | .list entries => entries.mapM Repository.ofValue
  | data => .error (.malformed (.repositories endpoint data))

/-- The jobs that a reply of an endpoint carries. -/
def readJobs (endpoint : Text) (nesting : Nat) (reply : Reply) : Except Failure (List Job) :=
  Reply.content nesting fetchingJobs reply >>= jobsOfPage endpoint

/-- The repositories that a reply of an endpoint carries. -/
def readRepositories
    (endpoint : Text)
    (nesting : Nat)
    (reply : Reply) : Except Failure (List Repository) :=
  Reply.content nesting fetchingRepositories reply >>= repositoriesOfPage endpoint

end Forge

/-- The failure of an outcome, if it is one. -/
def failureOf {Answer : Type} : Except Failure Answer → Option Failure
  | .error failure => some failure
  | .ok _ => none

/-- What a request is called in reports: one that names a status asks for jobs, and any
other asks for repositories. -/
def Request.operation (request : Request) : String :=
  match request.status with
  | some _ => Forge.fetchingJobs
  | none => Forge.fetchingRepositories

/-- What is at fault with an exchange, if anything is. -/
def Exchange.failure? (exchange : Exchange) : Option Failure :=
  let endpoint := exchange.request.url
  match exchange.request.status with
  | some _ => failureOf (Forge.readJobs endpoint exchange.nesting exchange.reply)
  | none => failureOf (Forge.readRepositories endpoint exchange.nesting exchange.reply)

/-- A paged listing: how its pages are requested, and how the replies are read.  The
reading decides whether an exchange is at fault. -/
structure Listing (Item : Type) where
  request : Nat → Request
  read : Nat → Reply → Except Failure (List Item)
  judged :
    ∀ page reply nesting,
      Exchange.failure? ⟨request page, reply, nesting⟩ = failureOf (read nesting reply)

namespace Forge

variable (forge : Forge)

/-- The jobs of an endpoint with a status. -/
def jobListing (endpoint : Text) (status : String) : Listing Job where
  request := forge.pageRequest endpoint (some status)
  read := readJobs endpoint
  judged _ _ _ := rfl

/-- The repositories of an endpoint. -/
def repositoryListing (endpoint : Text) : Listing Repository where
  request := forge.pageRequest endpoint none
  read := readRepositories endpoint
  judged _ _ _ := rfl

end Forge

/-- A request that is not served carries nothing. -/
theorem Listing.read_fault
    {Item : Type}
    (listing : Listing Item)
    (nesting : Nat)
    (fault : Fault) :
    ∃ failure, listing.read nesting (.fault fault) = .error failure := by
  have judged := listing.judged 0 (.fault fault) nesting
  have content (operation : String) :
      ∃ failure, Forge.Reply.content nesting operation (.fault fault) = .error failure := by
    simp only [Forge.Reply.content]
    split
    · exact ⟨_, rfl⟩
    · exact ⟨_, rfl⟩
  cases outcome : listing.read nesting (.fault fault) with
  | error failure => exact ⟨failure, rfl⟩
  | ok items =>
    simp only [Exchange.failure?, Forge.readJobs, Forge.readRepositories, outcome] at judged
    rcases content Forge.fetchingJobs with ⟨first, jobs⟩
    rcases content Forge.fetchingRepositories with ⟨second, repositories⟩
    rw [jobs, repositories] at judged
    split at judged
    · cases judged
    · cases judged

/-! ## Fetching a page -/

/-- How the fetch of a page goes: the stop signal cancels it before its request, or it is
one request and comes to what the reply reads as. -/
inductive PageCourse
    {Item : Type}
    (listing : Listing Item)
    (outside : Outside)
    (moment : Moment)
    (page : Nat) : Except Failure (List Item) → List Call → Prop where
  | cancelled
      (stopped : moment.stopped = true) :
      PageCourse listing outside moment page
        (.error (.cancelledBefore (listing.request page).operation)) []
  | asked
      (working : moment.stopped = false) :
      PageCourse listing outside moment page
        (listing.read outside.limits.answerNesting
          (outside.replyAt moment (listing.request page)))
        [.ask (listing.request page)]

/-- Fetching the pages of a listing, each in one go. -/
def Listing.FetchedBy
    {Item : Type}
    (listing : Listing Item)
    (fetchPage : Nat → Attempt (List Item)) : Prop :=
  ∀ page world,
    Act.Does (fetchPage page).run world fun outcome calls _ =>
      PageCourse listing world.outside world.moment page outcome calls

namespace Forge

theorem request_does (made : Request) (operation : String) (world : World) :
    Act.Does (request made operation).run world fun outcome calls _ =>
      (world.stopped = true ∧ outcome = .error (.cancelledBefore operation) ∧ calls = []) ∨
        (world.stopped = false ∧
          outcome =
              Reply.content world.outside.limits.answerNesting operation
                (world.outside.replyAt world.moment made) ∧
            calls = [.ask made]) := by
  refine Act.Does.attempt_bind (Act.Does.attempt_lift (Act.Does.isStopped ?_))
  cases stopped : world.stopped with
  | true => exact Act.Does.pure (.inl ⟨rfl, rfl, rfl⟩)
  | false =>
    refine Act.Does.attempt_bind (Act.Does.attempt_lift (Act.Does.noteAll ?_))
    refine Act.Does.attempt_bind (Act.Does.attempt_lift ((ask_does _ made).mono ?_))
    rintro reply _ after follows ⟨rfl, rfl, _⟩
    refine Act.Does.attempt_bind (Act.Does.attempt_lift (Act.Does.limits ?_))
    rw [follows.outside]
    exact Act.Does.attempt_liftExcept (.inr ⟨rfl, rfl, rfl⟩)

variable (forge : Forge)

theorem jobListing_fetchedBy (endpoint : Text) (offered : List Text) (status : String) :
    (forge.jobListing endpoint status).FetchedBy
      (forge.fetchJobsPage endpoint offered status) := by
  intro page world
  refine Act.Does.attempt_bind ((request_does _ _ world).mono ?_)
  rintro outcome calls between _ (⟨stopped, rfl, rfl⟩ | ⟨working, told, rfl⟩)
  · exact .cancelled stopped
  · have course : PageCourse (forge.jobListing endpoint status) world.outside world.moment page
        (outcome >>= jobsOfPage endpoint)
        [.ask (forge.pageRequest endpoint (some status) page)] := by
      rw [told]
      exact .asked working
    cases outcome with
    | error failure => exact course
    | ok data =>
      refine Act.Does.attempt_bind (Act.Does.attempt_liftExcept ?_)
      cases read : jobsOfPage endpoint data with
      | error failure =>
        have same : (Except.ok data >>= jobsOfPage endpoint) = .error failure := read
        rw [same] at course
        exact course
      | ok jobs =>
        have same : (Except.ok data >>= jobsOfPage endpoint) = .ok jobs := read
        rw [same] at course
        refine Act.Does.attempt_bind (Act.Does.attempt_lift (Act.Does.noteAll ?_))
        exact Act.Does.pure course

theorem repositoryListing_fetchedBy (endpoint : Text) :
    (forge.repositoryListing endpoint).FetchedBy (forge.fetchRepositoriesPage endpoint) := by
  intro page world
  refine Act.Does.attempt_bind ((request_does _ _ world).mono ?_)
  rintro outcome calls between _ (⟨stopped, rfl, rfl⟩ | ⟨working, told, rfl⟩)
  · exact .cancelled stopped
  · have course : PageCourse (forge.repositoryListing endpoint) world.outside world.moment page
        (outcome >>= repositoriesOfPage endpoint)
        [.ask (forge.pageRequest endpoint none page)] := by
      rw [told]
      exact .asked working
    cases outcome with
    | error failure => exact course
    | ok data =>
      cases data with
      | list entries => exact Act.Does.attempt_liftExcept course
      | null | bool | int | real | text | object => exact Act.Does.pure course

/-! ## Endpoints and statuses -/

/-- The sources of jobs: every endpoint, in order, with every status of a waiting job. -/
def jobSources (endpoints : List Text) : List (Text × String) :=
  endpoints.flatMap fun endpoint => pendingStatuses.map fun status => (endpoint, status)

section

variable {Source Part Item : Type}

theorem gather_append (fetch : Source → Attempt (List Item)) (first second : List Source) :
    gather fetch (first ++ second) =
      (do
        let items ← gather fetch first
        let others ← gather fetch second
        pure (items ++ others)) := by
  induction first with
  | nil => simp [gather]
  | cons source rest ih =>
    simp only [List.cons_append, gather, ih, bind_assoc, pure_bind, List.append_assoc]

theorem gather_map
    (fetch : Source → Attempt (List Item))
    (change : Part → Source)
    (parts : List Part) :
    gather fetch (parts.map change) = gather (fun part => fetch (change part)) parts := by
  induction parts with
  | nil => rfl
  | cons part rest ih => rw [List.map_cons, gather, gather, ih]

theorem gather_flatMap
    (fetch : Source → Attempt (List Item))
    (sources : Part → List Source)
    (parts : List Part) :
    gather fetch (parts.flatMap sources) =
      gather (fun part => gather fetch (sources part)) parts := by
  induction parts with
  | nil => rfl
  | cons part rest ih => rw [List.flatMap_cons, gather_append, gather, ih]

end

/-- The jobs of endpoints are gathered from one source after another. -/
theorem gather_fetchJobs (endpoints : List Text) (offered : List Text) :
    gather (fun endpoint => forge.fetchJobs endpoint offered) endpoints =
      gather (fun source => forge.fetchStatus source.1 offered source.2)
        (jobSources endpoints) := by
  rw [jobSources, gather_flatMap]
  simp only [gather_map]
  rfl

end Forge

end RunnerFleet
