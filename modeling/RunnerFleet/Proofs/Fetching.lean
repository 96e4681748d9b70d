import RunnerFleet.Pass
import RunnerFleet.Proofs.Exchanges

/-!
# What a fetch does to the world

A fetch is made of requests and of lines of the log.  Whatever relation between
worlds these two keep, every fetch keeps, through all its pages, statuses and
repositories, and also if it ends early.

For the relation that matters here this says: a fetch only asks the forge, it asks
before the stop signal has arrived or not at all, and it draws nothing at random.
-/

namespace RunnerFleet

/-! ## Properties that every fetch has -/

/-- A property that is passed on to fetches: what they do apart from their requests has it, and
a listing has it if its pages have it. -/
structure Act.PassedToFetches (holds : {Answer : Type} → Act Answer → Prop) : Prop
    extends Act.PassedOn @holds where
  isStopped : holds isStopped
  now : holds now
  limits : holds limits
  noteAll (lines : List LogLine) : holds (noteAll lines)
  listing
    {Item : Type}
    {paged : Listing Item}
    {fetchPage : Nat → Attempt (List Item)} :
    paged.FetchedBy fetchPage →
      (∀ page, holds (fetchPage page).run) →
        ∀ pageSize operation, holds (Forge.listing pageSize operation fetchPage).run

namespace Forge

open Act

section

variable {Item Source : Type} {holds : {Answer : Type} → Act Answer → Prop}

theorem pagesFrom_holds
    (passed : PassedOn @holds)
    {pageSize : Int}
    {operation : String}
    {fetchPage : Nat → Attempt (List Item)}
    (pages : ∀ page, holds (fetchPage page).run)
    (bound page : Nat) :
    holds (pagesFrom pageSize operation fetchPage bound page).run := by
  induction bound generalizing page with
  | zero => exact passed.attempt_throw _
  | succ bound ih =>
    apply passed.attempt_bind (pages page)
    intro items
    split
    · exact passed.attempt_pure items
    · apply passed.attempt_bind (ih (page + 1))
      intro others
      exact passed.attempt_pure _

theorem gather_holds
    (passed : PassedOn @holds)
    {fetch : Source → Attempt (List Item)}
    {sources : List Source}
    (fetches : ∀ source ∈ sources, holds (fetch source).run) :
    holds (gather fetch sources).run := by
  induction sources with
  | nil => exact passed.attempt_pure []
  | cons source rest ih =>
    rcases List.forall_mem_cons.mp fetches with ⟨first, later⟩
    apply passed.attempt_bind first
    intro items
    apply passed.attempt_bind (ih later)
    intro others
    exact passed.attempt_pure _

variable (forge : Forge) (passed : PassedToFetches @holds)

include passed

/-- A request has a property if the call has it. -/
theorem request_holds {made : Request} (asks : holds (ask made)) (operation : String) :
    holds (request made operation).run := by
  apply passed.attempt_bind (passed.attempt_lift passed.isStopped)
  intro stopped
  split
  · exact passed.attempt_throw _
  · apply passed.attempt_bind (passed.attempt_lift (passed.noteAll _))
    intro done
    apply passed.attempt_bind (passed.attempt_lift asks)
    intro reply
    apply passed.attempt_bind (passed.attempt_lift passed.limits)
    intro limits
    exact passed.attempt_liftExcept _

theorem fetchJobs_holds
    {endpoint : Text}
    (requests : ∀ status page operation,
      holds (request (forge.pageRequest endpoint status page) operation).run)
    (offered : List Text) :
    holds (forge.fetchJobs endpoint offered).run := by
  have pages (status : String) (page : Nat) :
      holds (forge.fetchJobsPage endpoint offered status page).run := by
    apply passed.attempt_bind (requests _ _ _)
    intro data
    apply passed.attempt_bind (passed.attempt_liftExcept _)
    intro jobs
    apply passed.attempt_bind (passed.attempt_lift (passed.noteAll _))
    intro done
    exact passed.attempt_pure jobs
  apply gather_holds passed.toPassedOn
  intro status _
  have fetched := forge.jobListing_fetchedBy endpoint offered status
  apply passed.attempt_bind (passed.listing fetched (pages status) _ _)
  intro jobs
  exact passed.attempt_pure _

theorem fetchRepositories_holds
    {user : Text}
    (requests : ∀ status page operation,
      holds (request (forge.pageRequest (forge.userRepositories user) status page) operation).run) :
    holds (forge.fetchRepositories user).run := by
  refine passed.listing (forge.repositoryListing_fetchedBy _) ?_ _ _
  intro page
  apply passed.attempt_bind (requests _ _ _)
  intro data
  cases data with
  | list entries => exact passed.attempt_liftExcept _
  | null | bool | int | real | text | object => exact passed.attempt_throw _

/-- A fetch has a property if its requests have it, and these go to addresses of the
forge, whatever the names of the repositories that it lists. -/
theorem fetchQueued_holds
    (requests : ∀ path status page operation,
      holds (request (forge.pageRequest (forge.address path) status page) operation).run)
    (scope : ScopeSetting)
    (organisation user repository : Text)
    (offered : List Text) :
    holds (forge.fetchQueued scope organisation user repository offered).run := by
  have jobs
      {endpoints : List Text}
      (addresses : ∀ endpoint ∈ endpoints, ∃ path, endpoint = forge.address path) :
      holds (gather (fun endpoint => forge.fetchJobs endpoint offered) endpoints).run := by
    apply gather_holds passed.toPassedOn
    intro endpoint member
    rcases addresses endpoint member with ⟨path, rfl⟩
    exact forge.fetchJobs_holds passed (requests path) offered
  have single (path : Text) :
      holds (gather (fun endpoint => forge.fetchJobs endpoint offered) [forge.address path]).run :=
    jobs fun _ member => ⟨path, List.mem_singleton.mp member⟩
  match scope with
  | .known .repository => exact single _
  | .known .organisation => exact single _
  | .known .global => exact single _
  | .known .user =>
    rw [fetchQueued, endpoints, bind_assoc]
    apply passed.attempt_bind (forge.fetchRepositories_holds passed (requests _))
    intro repositories
    rw [bind_assoc]
    apply passed.attempt_bind (passed.attempt_lift (passed.noteAll _))
    intro done
    rw [pure_bind]
    apply jobs
    intro endpoint member
    rcases List.mem_map.mp member with ⟨repository, _, rfl⟩
    exact ⟨_, rfl⟩
  | .unknown value => exact passed.attempt_throw _

end

/-! ## Relations that every fetch keeps -/

variable {Item : Type} {relation : World → World → Prop}

theorem listing_keeps
    (course : IsCourse relation)
    {pageSize : Int}
    {operation : String}
    {fetchPage : Nat → Attempt (List Item)}
    (pages : ∀ page, Keeps relation (fetchPage page).run) :
    Keeps relation (listing pageSize operation fetchPage).run := by
  refine Keeps.attempt_bind course (Keeps.attempt_lift course course.refl) ?_
  intro world
  exact pagesFrom_holds (Keeps.passedOn course) pages _ 1

/-- What lines of the log keep is passed on to fetches. -/
theorem keeps_passedToFetches
    (course : IsCourse relation)
    (notes : ∀ lines, Keeps relation (noteAll lines)) :
    PassedToFetches fun act => Keeps relation act where
  toPassedOn := Keeps.passedOn course
  isStopped := course.refl
  now := course.refl
  limits := course.refl
  noteAll := notes
  listing _ pages _ _ := listing_keeps course pages

variable
  (forge : Forge)
  (course : IsCourse relation)
  (notes : ∀ lines, Keeps relation (noteAll lines))
  (requests : ∀ url status page operation,
    Keeps relation (request (forge.pageRequest url status page) operation).run)

include course notes requests

theorem fetchJobs_keeps (endpoint : Text) (offered : List Text) :
    Keeps relation (forge.fetchJobs endpoint offered).run :=
  forge.fetchJobs_holds (keeps_passedToFetches course notes) (requests endpoint) offered

/-- A relation that requests and lines of the log keep is kept by every fetch. -/
theorem fetchQueued_keeps
    (scope : ScopeSetting)
    (organisation user repository : Text)
    (offered : List Text) :
    Keeps relation (forge.fetchQueued scope organisation user repository offered).run :=
  forge.fetchQueued_holds (keeps_passedToFetches course notes)
    (fun path => requests (forge.address path)) scope organisation user repository offered

end Forge

/-! ## Fetches only ask, and not after the stop signal -/

/-- A request is made, and the stop signal has not arrived. -/
def Moment.Asking (moment : Moment) (made : Call) : Prop :=
  moment.stopped = false ∧ ∃ request, made = .ask request

/-- Between two worlds there are only requests, all made before the stop signal
arrived, and nothing was drawn at random. -/
def World.AsksUntil (before after : World) : Prop :=
  (∃ calls,
    before.Follows calls after ∧
      before.outside.Allows Moment.Asking before.moment calls) ∧
    after.choices = before.choices

theorem World.asksUntil_isCourse : Act.IsCourse World.AsksUntil where
  refl world := ⟨⟨[], .refl world, trivial⟩, rfl⟩
  trans := by
    rintro before between after ⟨⟨first, firstFollows, firstAsks⟩, firstChoices⟩
      ⟨⟨second, secondFollows, secondAsks⟩, secondChoices⟩
    refine ⟨⟨first ++ second, firstFollows.trans secondFollows, ?_⟩,
      secondChoices.trans firstChoices⟩
    rw [firstFollows.outside, firstFollows.moment] at secondAsks
    exact Outside.allows_append.mpr ⟨firstAsks, secondAsks⟩

theorem noteAll_asksUntil (lines : List LogLine) :
    Act.Keeps World.AsksUntil (noteAll lines) :=
  fun _ => ⟨⟨[], ⟨rfl, rfl, rfl⟩, trivial⟩, rfl⟩

/-- A request is made at a moment without the stop signal, or it is not made. -/
theorem Forge.request_asksUntil (request : Request) (operation : String) :
    Act.Keeps World.AsksUntil (Forge.request request operation).run := by
  intro world
  have does :
      Act.Does (Forge.request request operation).run world fun _ calls after =>
        world.outside.Allows Moment.Asking world.moment calls ∧
          after.choices = world.choices := by
    refine Act.Does.attempt_bind (Act.Does.attempt_lift (Act.Does.isStopped ?_))
    cases stopped : world.stopped with
    | true => exact Act.Does.pure ⟨trivial, rfl⟩
    | false =>
      refine Act.Does.attempt_bind (Act.Does.attempt_lift (Act.Does.noteAll ?_))
      refine Act.Does.attempt_bind (Act.Does.attempt_lift ((ask_does _ request).mono ?_))
      rintro reply _ after follows ⟨rfl, _, choices⟩
      refine Act.Does.attempt_bind (Act.Does.attempt_lift (Act.Does.limits ?_))
      exact Act.Does.attempt_liftExcept ⟨⟨⟨stopped, request, rfl⟩, trivial⟩, choices⟩
  rcases does with ⟨calls, follows, asks, choices⟩
  exact ⟨⟨calls, follows, asks⟩, choices⟩

namespace Provisioner

variable (provisioner : Provisioner) (pool : Pool)

theorem fetch_asksUntil : Act.Keeps World.AsksUntil (provisioner.fetch pool).run :=
  provisioner.forge.fetchQueued_keeps World.asksUntil_isCourse noteAll_asksUntil
    (fun _ _ _ _ => Forge.request_asksUntil _ _) _ _ _ _ _

/-- Up to the picking of candidates a pass has a property if its requests have it. -/
theorem prospect_holds
    {holds : {Answer : Type} → Act Answer → Prop}
    (passed : Act.PassedToFetches @holds)
    (requests : ∀ path status page operation,
      holds
        (Forge.request
          (provisioner.forge.pageRequest (provisioner.forge.address path) status page)
          operation).run) :
    holds (provisioner.prospect pool).run := by
  apply passed.attempt_bind (passed.attempt_lift (passed.noteAll _))
  intro done
  apply passed.attempt_bind (provisioner.forge.fetchQueued_holds passed requests _ _ _ _ _)
  intro jobs
  apply passed.attempt_bind (passed.attempt_lift passed.now)
  intro time
  apply passed.attempt_bind (passed.attempt_lift (passed.noteAll _))
  intro done
  split
  · exact passed.attempt_throw _
  · exact passed.attempt_pure _

/-- Up to the picking of candidates a pass only asks the forge. -/
theorem prospect_asksUntil : Act.Keeps World.AsksUntil (provisioner.prospect pool).run :=
  provisioner.prospect_holds pool
    (Forge.keeps_passedToFetches World.asksUntil_isCourse noteAll_asksUntil)
    fun _ _ _ _ => Forge.request_asksUntil _ _

end Provisioner

end RunnerFleet
