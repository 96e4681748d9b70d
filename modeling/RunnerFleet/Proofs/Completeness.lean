import RunnerFleet.Proofs.Blame
import RunnerFleet.Proofs.Fetching

/-!
# A fetch is complete or fails

Whatever the forge replies, a fetch that yields jobs has read every listing of its scope to
the end: page after page, all of them full but the last, and every exchange was sound.  A
fetch that fails made no exchange after the first one to blame, and that exchange alone
decides the failure; without such an exchange it was the stop signal.

The rules for putting fetches together say this of their parts, and the listings, statuses
and endpoints follow from them one after another.
-/

namespace RunnerFleet

variable {Answer Result Source Item : Type}

/-! ## How fetches go -/

/-- How a fetch goes, by its exchanges.  The condition says what the exchanges of a fetch
that succeeds have to do with its answer. -/
inductive FetchCourse
    (complete : Answer → List Exchange → Prop)
    (outside : Outside)
    (moment : Moment) : Except Failure Answer → List Call → Prop where
  | completed
      {answer : Answer}
      {calls : List Call}
      (sound : ∀ exchange ∈ outside.exchanges moment calls, exchange.failure? = none)
      (told : complete answer (outside.exchanges moment calls)) :
      FetchCourse complete outside moment (.ok answer) calls
  | broken
      {failure : Failure}
      {calls : List Call}
      {before : List Exchange}
      {last : Exchange}
      (split : outside.exchanges moment calls = before ++ [last])
      (sound : ∀ exchange ∈ before, exchange.failure? = none)
      (fault : last.failure? = some failure) :
      FetchCourse complete outside moment (.error failure) calls
  | cancelled
      {calls : List Call}
      (unmade : Request)
      (sound : ∀ exchange ∈ outside.exchanges moment calls, exchange.failure? = none)
      (stopped : (outside.replay moment calls).stopped = true) :
      FetchCourse complete outside moment (.error (.cancelledBefore unmade.operation)) calls

namespace FetchCourse

variable
  {complete : Answer → List Exchange → Prop}
  {outside : Outside}
  {moment : Moment}
  {outcome : Except Failure Answer}

theorem mono
    {weaker : Answer → List Exchange → Prop}
    {calls : List Call}
    (course : FetchCourse complete outside moment outcome calls)
    (implied : ∀ answer exchanges, complete answer exchanges → weaker answer exchanges) :
    FetchCourse weaker outside moment outcome calls := by
  cases course with
  | completed sound told => exact .completed sound (implied _ _ told)
  | broken split sound fault => exact .broken split sound fault
  | cancelled unmade sound stopped => exact .cancelled unmade sound stopped

/-- A fetch that goes on after sound exchanges. -/
theorem after
    {first second : List Call}
    (sound : ∀ exchange ∈ outside.exchanges moment first, exchange.failure? = none)
    (course : FetchCourse complete outside (outside.replay moment first) outcome second) :
    FetchCourse
      (fun answer exchanges =>
        ∃ others,
          exchanges = outside.exchanges moment first ++ others ∧ complete answer others)
      outside moment outcome (first ++ second) := by
  have split := outside.exchanges_append moment first second
  cases course with
  | completed later told =>
    refine .completed ?_ ⟨_, split, told⟩
    rw [split]
    exact List.forall_mem_append.mpr ⟨sound, later⟩
  | @broken _ _ before last ending later fault =>
    rw [ending, ← List.append_assoc] at split
    exact .broken split (List.forall_mem_append.mpr ⟨sound, later⟩) fault
  | cancelled unmade later stopped =>
    refine .cancelled unmade ?_ (by rwa [Outside.replay_append])
    rw [split]
    exact List.forall_mem_append.mpr ⟨sound, later⟩

end FetchCourse

/-- From every world a fetch goes as described. -/
def Fetches (attempt : Attempt Answer) (complete : Answer → List Exchange → Prop) : Prop :=
  ∀ world,
    Act.Does attempt.run world fun outcome calls _ =>
      FetchCourse complete world.outside world.moment outcome calls

namespace Fetches

variable {attempt : Attempt Answer} {complete : Answer → List Exchange → Prop}

theorem mono
    {weaker : Answer → List Exchange → Prop}
    (fetches : Fetches attempt complete)
    (implied : ∀ answer exchanges, complete answer exchanges → weaker answer exchanges) :
    Fetches attempt weaker := by
  intro world
  apply (fetches world).mono
  intro outcome calls after _ course
  exact course.mono implied

protected theorem pure (answer : Answer) :
    Fetches (pure answer) fun result exchanges => result = answer ∧ exchanges = [] :=
  fun _ => Act.Does.pure (.completed nofun ⟨rfl, rfl⟩)

theorem note (level : Level) (message : Text) :
    Fetches (liftM (note level message)) fun _ exchanges => exchanges = [] :=
  fun _ => Act.Does.attempt_lift (Act.Does.noteAll (.completed nofun rfl))

/-- Two fetches in a row have their exchanges in a row. -/
protected theorem bind
    {next : Answer → Attempt Result}
    {further : Answer → Result → List Exchange → Prop}
    (first : Fetches attempt complete)
    (second : ∀ answer, Fetches (next answer) (further answer)) :
    Fetches (attempt >>= next) fun result exchanges =>
      ∃ answer own others,
        complete answer own ∧ further answer result others ∧ exchanges = own ++ others := by
  intro world
  apply Act.Does.attempt_bind
  apply (first world).mono
  intro outcome calls between follows course
  cases course with
  | completed sound told =>
    apply (second _ between).mono
    intro result others after _ course
    rw [follows.outside, follows.moment] at course
    apply (FetchCourse.after sound course).mono
    rintro answer exchanges ⟨later, split, rest⟩
    exact ⟨_, _, later, told, rest, split⟩
  | broken split sound fault => exact .broken split sound fault
  | cancelled unmade sound stopped => exact .cancelled unmade sound stopped

end Fetches

/-! ## Listings -/

/-- The pages of a listing from a number on, as they were read: one exchange for each page,
in order, and all pages are full but the last one. -/
structure Listing.Paged
    (listing : Listing Item)
    (pageSize : Int)
    (first : Nat)
    (exchanges : List Exchange)
    (pages : List (List Item)) : Prop where
  requests :
    exchanges.map (·.request) = (List.range' first pages.length).map listing.request
  read :
    exchanges.map (fun exchange => listing.read exchange.nesting exchange.reply) =
      pages.map .ok
  ends :
    ∃ full last,
      pages = full ++ [last] ∧
        (∀ page ∈ full, pageSize ≤ page.length) ∧ (last.length : Int) < pageSize

namespace Listing

variable
  {listing : Listing Item}
  {pageSize : Int}
  {first nesting : Nat}
  {reply : Reply}

theorem Paged.last
    {items : List Item}
    (read : listing.read nesting reply = .ok items)
    (short : (items.length : Int) < pageSize) :
    listing.Paged pageSize first [⟨listing.request first, reply, nesting⟩] [items] where
  requests := rfl
  read := by simp [read]
  ends := ⟨[], items, rfl, nofun, short⟩

theorem Paged.cons
    {items : List Item}
    {exchanges : List Exchange}
    {pages : List (List Item)}
    (read : listing.read nesting reply = .ok items)
    (full : pageSize ≤ items.length)
    (paged : listing.Paged pageSize (first + 1) exchanges pages) :
    listing.Paged pageSize first (⟨listing.request first, reply, nesting⟩ :: exchanges)
      (items :: pages) where
  requests := by
    rw [List.length_cons, List.range'_succ, List.map_cons, List.map_cons, paged.requests]
  read := by rw [List.map_cons, List.map_cons, paged.read, read]
  ends := by
    rcases paged.ends with ⟨others, last, rfl, rest, short⟩
    exact ⟨items :: others, last, rfl, List.forall_mem_cons.mpr ⟨full, rest⟩, short⟩

/-- A reply that can be read was served. -/
theorem requestsLeft_of_read
    {outside : Outside}
    {moment : Moment}
    {items : List Item}
    (read : listing.read nesting (outside.replyAt moment (listing.request first)) = .ok items) :
    moment.requestsLeft ≠ 0 := by
  intro exhausted
  rcases listing.read_fault nesting requestLimitReached with ⟨failure, refused⟩
  simp only [Outside.replyAt, exhausted, refused] at read
  cases read

/-- The items of a listing's pages, from a number on. -/
theorem FetchedBy.pagesFrom_does
    {fetchPage : Nat → Attempt (List Item)}
    (fetched : listing.FetchedBy fetchPage)
    (operation : String)
    {bound : Nat}
    (page : Nat)
    {world : World}
    (enough : world.requestsLeft < bound) :
    Act.Does (Forge.pagesFrom pageSize operation fetchPage bound page).run world
      fun outcome calls _ =>
        FetchCourse
          (fun items exchanges =>
            ∃ pages, listing.Paged pageSize page exchanges pages ∧ items = pages.flatten)
          world.outside world.moment outcome calls := by
  induction bound generalizing page world with
  | zero => exact absurd enough (Nat.not_lt_zero _)
  | succ bound ih =>
    apply Act.Does.attempt_bind
    apply (fetched page world).mono
    intro outcome calls between follows course
    cases course with
    | cancelled stopped => exact .cancelled _ nofun stopped
    | asked working =>
      have judged :=
        listing.judged page (world.outside.replyAt world.moment (listing.request page))
          world.outside.limits.answerNesting
      cases read : listing.read world.outside.limits.answerNesting
          (world.outside.replyAt world.moment (listing.request page)) with
      | error failure =>
        rw [read] at judged
        have split :
            world.outside.exchanges world.moment [.ask (listing.request page)] =
              [] ++ [⟨listing.request page, _, _⟩] :=
          rfl
        exact .broken split nofun judged
      | ok items =>
        rw [read] at judged
        have sound :
            ∀ exchange ∈ world.outside.exchanges world.moment [.ask (listing.request page)],
              exchange.failure? = none := by
          simpa using judged
        dsimp only
        split
        next short => exact Act.Does.pure (.completed sound ⟨[items], .last read short, by simp⟩)
        next long =>
          have full : pageSize ≤ items.length := Int.not_lt.mp long
          have fewer : between.requestsLeft < bound := by
            have left : between.requestsLeft = world.requestsLeft - 1 :=
              congrArg Moment.requestsLeft follows.moment
            have served : world.requestsLeft ≠ 0 := requestsLeft_of_read read
            omega
          apply Act.Does.attempt_bind
          apply (ih (page + 1) fewer).mono
          intro outcome later after _ course
          rw [follows.outside, follows.moment] at course
          have course := FetchCourse.after sound course
          cases course with
          | completed sound told =>
            rcases told with ⟨others, split, pages, paged, rfl⟩
            refine Act.Does.pure ?_
            rw [List.append_nil]
            refine .completed sound ⟨items :: pages, ?_, rfl⟩
            rw [split]
            exact paged.cons read full
          | broken split sound fault => exact .broken split sound fault
          | cancelled unmade sound stopped => exact .cancelled unmade sound stopped

theorem FetchedBy.fetches
    {fetchPage : Nat → Attempt (List Item)}
    (fetched : listing.FetchedBy fetchPage)
    (operation : String) :
    Fetches (Forge.listing pageSize operation fetchPage) fun items exchanges =>
      ∃ pages, listing.Paged pageSize 1 exchanges pages ∧ items = pages.flatten := by
  intro world
  refine Act.Does.attempt_bind (Act.Does.attempt_lift (Act.Does.get ?_))
  exact fetched.pagesFrom_does operation 1 (Nat.lt_succ_self _)

end Listing

/-! ## Sources -/

/-- What was read from a source: its items, and the exchanges that carried them. -/
structure Reading (Source Item : Type) where
  source : Source
  items : List Item
  exchanges : List Exchange

theorem gather_fetches
    {fetch : Source → Attempt (List Item)}
    {complete : Source → List Item → List Exchange → Prop}
    (fetches : ∀ source, Fetches (fetch source) (complete source))
    (sources : List Source) :
    Fetches (Forge.gather fetch sources) fun items exchanges =>
      ∃ readings : List (Reading Source Item),
        readings.map (·.source) = sources ∧
          (∀ reading ∈ readings, complete reading.source reading.items reading.exchanges) ∧
            items = readings.flatMap (·.items) ∧
              exchanges = readings.flatMap (·.exchanges) := by
  induction sources with
  | nil =>
    apply (Fetches.pure []).mono
    rintro items exchanges ⟨rfl, rfl⟩
    exact ⟨[], rfl, nofun, rfl, rfl⟩
  | cons source rest ih =>
    apply ((fetches source).bind fun items => ih.bind fun others => Fetches.pure _).mono
    rintro result exchanges
      ⟨items, own, _, told, ⟨others, later, _, ⟨readings, rfl, each, rfl, rfl⟩, ⟨rfl, rfl⟩, rfl⟩,
        rfl⟩
    refine ⟨⟨source, items, own⟩ :: readings, rfl, ?_, rfl, by simp⟩
    exact List.forall_mem_cons.mpr ⟨told, each⟩

namespace Forge

variable (forge : Forge)

theorem fetchStatus_fetches (endpoint : Text) (offered : List Text) (status : String) :
    Fetches (forge.fetchStatus endpoint offered status) fun jobs exchanges =>
      ∃ pages,
        (forge.jobListing endpoint status).Paged forge.pageSize 1 exchanges pages ∧
          jobs = pages.flatten.filter (forge.canRun offered) := by
  have fetched := forge.jobListing_fetchedBy endpoint offered status
  apply ((fetched.fetches fetchingJobs).bind fun jobs => Fetches.pure _).mono
  rintro result exchanges ⟨jobs, own, _, ⟨pages, paged, rfl⟩, ⟨rfl, rfl⟩, rfl⟩
  rw [List.append_nil]
  exact ⟨pages, paged, rfl⟩

/-- The endpoints of a scope, with the exchanges by which they were found: none, except
that the repositories of a user are listed first. -/
inductive EndpointsOf (organisation user repository : Text) :
    Scope → List Exchange → List Text → Prop where
  | repository :
      EndpointsOf organisation user repository .repository []
        [forge.repositoryJobs organisation repository]
  | organisation :
      EndpointsOf organisation user repository .organisation []
        [forge.organisationJobs organisation]
  | global : EndpointsOf organisation user repository .global [] [forge.allJobs]
  | user
      {exchanges : List Exchange}
      {pages : List (List Repository)}
      (paged :
        (forge.repositoryListing (forge.userRepositories user)).Paged forge.pageSize 1
          exchanges pages) :
      EndpointsOf organisation user repository .user exchanges
        (pages.flatten.map fun repository =>
          forge.repositoryJobs repository.owner.plain repository.name.plain)

theorem endpoints_fetches (scope : Scope) (organisation user repository : Text) :
    Fetches (forge.endpoints (.known scope) organisation user repository)
      fun endpoints exchanges =>
        forge.EndpointsOf organisation user repository scope exchanges endpoints := by
  cases scope with
  | repository =>
    apply (Fetches.pure _).mono
    rintro endpoints exchanges ⟨rfl, rfl⟩
    exact .repository
  | organisation =>
    apply (Fetches.pure _).mono
    rintro endpoints exchanges ⟨rfl, rfl⟩
    exact .organisation
  | global =>
    apply (Fetches.pure _).mono
    rintro endpoints exchanges ⟨rfl, rfl⟩
    exact .global
  | user =>
    have fetched := forge.repositoryListing_fetchedBy (forge.userRepositories user)
    apply ((fetched.fetches fetchingRepositories).bind fun repositories =>
      (Fetches.note _ _).bind fun done => Fetches.pure _).mono
    rintro endpoints exchanges
      ⟨repositories, own, _, ⟨pages, paged, rfl⟩, ⟨_, _, _, rfl, ⟨rfl, rfl⟩, rfl⟩, rfl⟩
    rw [List.append_nil, List.append_nil]
    exact .user paged

/-- What a complete fetch has read: every status of every endpoint of its scope, each to
the end, and its jobs are those of the pages that the offered labels can run. -/
def HasFetched
    (scope : Scope)
    (organisation user repository : Text)
    (offered : List Text)
    (exchanges : List Exchange)
    (jobs : List Job) : Prop :=
  ∃ listed endpoints,
    forge.EndpointsOf organisation user repository scope listed endpoints ∧
      ∃ readings : List (Reading (Text × String) Job),
        readings.map (·.source) = jobSources endpoints ∧
          (∀ reading ∈ readings, ∃ pages,
            (forge.jobListing reading.source.1 reading.source.2).Paged forge.pageSize 1
                reading.exchanges pages ∧
              reading.items = pages.flatten.filter (forge.canRun offered)) ∧
            jobs = readings.flatMap (·.items) ∧
              exchanges = listed ++ readings.flatMap (·.exchanges)

theorem fetchQueued_fetches
    (scope : Scope)
    (organisation user repository : Text)
    (offered : List Text) :
    Fetches (forge.fetchQueued (.known scope) organisation user repository offered)
      fun jobs exchanges =>
        forge.HasFetched scope organisation user repository offered exchanges jobs := by
  have found := forge.endpoints_fetches scope organisation user repository
  have each (source : Text × String) := forge.fetchStatus_fetches source.1 offered source.2
  simp only [fetchQueued, gather_fetchJobs]
  apply (found.bind fun endpoints => gather_fetches each (jobSources endpoints)).mono
  rintro jobs exchanges
    ⟨endpoints, listed, _, found, ⟨readings, sources, each, rfl, rfl⟩, rfl⟩
  exact ⟨listed, endpoints, found, readings, sources, each, rfl, rfl⟩

end Forge

/-! ## All or nothing -/

/-- Calls that only ask are the requests of their exchanges. -/
theorem Outside.Allows.eq_requests
    {outside : Outside}
    {moment : Moment}
    {calls : List Call}
    (asks : outside.Allows Moment.Asking moment calls) :
    calls = (outside.exchanges moment calls).map fun exchange => .ask exchange.request := by
  induction calls generalizing moment with
  | nil => rfl
  | cons made rest ih =>
    rcases asks with ⟨⟨_, request, rfl⟩, later⟩
    rw [exchanges, List.map_append, ← ih later]
    rfl

/-- A fetch yields everything or fails, whatever the server does and whenever the stop
signal arrives.  If it yields jobs, every exchange was sound, the listings of its scope were
read to their ends, and the jobs are those of all pages in order.  If it fails, the last
exchange is the first that is not sound, and it alone decides the failure; or every exchange
was sound and the stop signal has arrived. -/
theorem fetchQueued_all_or_nothing
    (forge : Forge)
    (scope : Scope)
    (organisation user repository : Text)
    (offered : List Text)
    (world : World) :
    let result :=
      (forge.fetchQueued (.known scope) organisation user repository offered).run.run world
    ∃ calls,
      world.Follows calls result.2 ∧
        let exchanges := world.outside.exchanges world.moment calls
        calls = exchanges.map (fun exchange => .ask exchange.request) ∧
          match result.1 with
          | .ok jobs =>
            (∀ exchange ∈ exchanges, exchange.IsSound) ∧
              forge.HasFetched scope organisation user repository offered exchanges jobs
          | .error failure =>
            (∃ before last,
                exchanges = before ++ [last] ∧
                  (∀ exchange ∈ before, exchange.IsSound) ∧
                    ∀ other, last.Blames other ↔ other = failure) ∨
              (∀ exchange ∈ exchanges, exchange.IsSound) ∧
                result.2.stopped = true ∧
                  ∃ unmade : Request, failure = .cancelledBefore unmade.operation := by
  have asks :=
    forge.fetchQueued_keeps World.asksUntil_isCourse noteAll_asksUntil
      (fun _ _ _ _ => Forge.request_asksUntil _ _) (.known scope) organisation user repository
      offered world
  rcases forge.fetchQueued_fetches scope organisation user repository offered world with
    ⟨calls, follows, course⟩
  dsimp only
  generalize
    (forge.fetchQueued (.known scope) organisation user repository offered).run.run world =
      result at asks follows course ⊢
  have sound
      {exchanges : List Exchange}
      (none : ∀ exchange ∈ exchanges, exchange.failure? = none) :
      ∀ exchange ∈ exchanges, exchange.IsSound :=
    fun exchange member => exchange.isSound_iff.mpr (none exchange member)
  refine ⟨calls, follows, ?_, ?_⟩
  · rcases asks with ⟨⟨asked, alike, asks⟩, _⟩
    have same : asked = calls := by rw [← alike.callsSince, follows.callsSince]
    subst same
    exact asks.eq_requests
  · rcases result with ⟨outcome, after⟩
    cases course with
    | completed none told => exact ⟨sound none, told⟩
    | @broken failure _ before last split none fault =>
      refine .inl ⟨before, last, split, sound none, ?_⟩
      intro other
      rw [Exchange.blames_iff, fault, Option.some_inj, eq_comm]
    | cancelled unmade none stopped =>
      exact .inr ⟨sound none, by rw [follows.stopped, stopped], unmade, rfl⟩

end RunnerFleet
