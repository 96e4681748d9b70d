import RunnerFleet.Proofs.Blame
import RunnerFleet.Proofs.Deduplication
import RunnerFleet.Value.Equality

/-!
# Fetching from a forge that keeps its lists

A catalogue is what a forge keeps: the entries of every listing of jobs and those of a
user's repositories, each entry in order.  A forge that answers every page out of its
catalogue is fetched from completely, in every scope: what a fetch yields and what it asks
for are both told by the catalogue.

A list of `n` entries is read with `n / size + 1` requests, so one whose length is a multiple
of the page size costs a last request for an empty page.
-/

namespace RunnerFleet

variable {Answer Result Source Item : Type}

/-! ## Fetches that are served -/

/-- In every world of an outside that still serves as many requests, and without the stop
signal, an attempt yields an answer and makes exactly the given requests. -/
def Yields
    (outside : Outside)
    (attempt : Attempt Answer)
    (answer : Answer)
    (requests : List Request) : Prop :=
  ∀ world,
    world.outside = outside →
      world.stopped = false →
        requests.length ≤ world.requestsLeft →
          Act.Does attempt.run world fun outcome calls _ =>
            outcome = .ok answer ∧ calls = requests.map .ask

/-- The stop signal never arrives by itself. -/
def Outside.Uninterrupted (outside : Outside) : Prop :=
  ∀ history, outside.interrupts history = false

namespace Outside

variable {outside : Outside}

/-- Requests leave no stop signal and use up as many of those that are served. -/
theorem replay_asks
    (uninterrupted : outside.Uninterrupted)
    (requests : List Request)
    {moment : Moment}
    (working : moment.stopped = false) :
    (outside.replay moment (requests.map .ask)).stopped = false ∧
      (outside.replay moment (requests.map .ask)).requestsLeft =
        moment.requestsLeft - requests.length := by
  induction requests generalizing moment with
  | nil => exact ⟨working, rfl⟩
  | cons request rest ih =>
    have still : (outside.step moment (.ask request)).stopped = false := by
      simp [step, lapse, working, uninterrupted _]
    have left :
        (outside.step moment (.ask request)).requestsLeft = moment.requestsLeft - 1 :=
      rfl
    rcases ih still with ⟨unstopped, fewer⟩
    refine ⟨unstopped, ?_⟩
    rw [List.map_cons, replay_cons, fewer, left, List.length_cons]
    omega

end Outside

namespace Yields

variable {outside : Outside}

protected theorem pure (answer : Answer) : Yields outside (pure answer) answer [] :=
  fun _ _ _ _ => Act.Does.pure ⟨rfl, rfl⟩

theorem note (level : Level) (message : Text) :
    Yields outside (liftM (note level message)) () [] :=
  fun _ _ _ _ => Act.Does.attempt_lift (Act.Does.noteAll ⟨rfl, rfl⟩)

protected theorem bind
    (uninterrupted : outside.Uninterrupted)
    {attempt : Attempt Answer}
    {next : Answer → Attempt Result}
    {answer : Answer}
    {result : Result}
    {first second : List Request}
    (yields : Yields outside attempt answer first)
    (further : Yields outside (next answer) result second) :
    Yields outside (attempt >>= next) result (first ++ second) := by
  intro world same working enough
  rw [List.length_append] at enough
  apply Act.Does.attempt_bind
  apply (yields world same working (by omega)).mono
  rintro outcome calls between follows ⟨rfl, rfl⟩
  have unsignalled : world.moment.stopped = false := working
  rcases Outside.replay_asks uninterrupted first unsignalled with ⟨unstopped, left⟩
  have stillWorking : between.stopped = false := by
    rw [follows.stopped, same, unstopped]
  have stillEnough : second.length ≤ between.requestsLeft := by
    have moment := congrArg Moment.requestsLeft follows.moment
    rw [same, left] at moment
    simp only [World.moment] at moment
    omega
  apply (further between (follows.outside.trans same) stillWorking stillEnough).mono
  rintro outcome calls after _ ⟨rfl, rfl⟩
  exact ⟨rfl, List.map_append.symm⟩

protected theorem map
    (uninterrupted : outside.Uninterrupted)
    {attempt : Attempt Answer}
    {answer : Answer}
    {requests : List Request}
    (yields : Yields outside attempt answer requests)
    (change : Answer → Result) :
    Yields outside (attempt >>= fun answer => pure (change answer)) (change answer)
      requests := by
  rw [← List.append_nil requests]
  exact yields.bind uninterrupted (Yields.pure (change answer))

/-- What is yielded by one source after another is yielded by all of them. -/
theorem gather
    (uninterrupted : outside.Uninterrupted)
    {fetch : Source → Attempt (List Item)}
    {items : Source → List Item}
    {requests : Source → List Request}
    (sources : List Source)
    (yields : ∀ source ∈ sources, Yields outside (fetch source) (items source) (requests source)) :
    Yields outside (Forge.gather fetch sources) (sources.flatMap items)
      (sources.flatMap requests) := by
  induction sources with
  | nil => exact Yields.pure []
  | cons source rest ih =>
    rcases List.forall_mem_cons.mp yields with ⟨first, later⟩
    exact first.bind uninterrupted ((ih later).map uninterrupted (items source ++ ·))

end Yields

/-! ## Pages of a list -/

/-- The entries on a page of a list, the pages being counted from one. -/
def pageOf (size page : Nat) (entries : List Item) : List Item :=
  (entries.drop ((page - 1) * size)).take size

theorem pageOf_eq_nil {size page : Nat} {entries : List Item}
    (beyond : entries.length ≤ page * size) :
    pageOf size (page + 1) entries = [] := by
  rw [pageOf, Nat.add_sub_cancel, List.drop_eq_nil_of_le beyond, List.take_nil]

theorem pageOf_map (size page : Nat) (change : Source → Item) (entries : List Source) :
    pageOf size page (entries.map change) = (pageOf size page entries).map change := by
  simp only [pageOf, List.map_drop, List.map_take]

namespace Listing

/-- The requests for the pages of a list of a length. -/
def requests (listing : Listing Item) (size length : Nat) : List Request :=
  (List.range' 1 (length / size + 1)).map listing.request

/-- The pages of a listing are answered out of a list. -/
def ServedBy
    (listing : Listing Item)
    (outside : Outside)
    (size : Nat)
    (items : List Item) : Prop :=
  ∀ history page,
    listing.read outside.limits.answerNesting
        (outside.serve history (listing.request (page + 1))) =
      .ok (pageOf size (page + 1) items)

variable
  {listing : Listing Item}
  {outside : Outside}
  (uninterrupted : outside.Uninterrupted)
  {fetchPage : Nat → Attempt (List Item)}
  (fetched : listing.FetchedBy fetchPage)
  {size : Nat}
  {items : List Item}
  (served : listing.ServedBy outside size items)

include fetched served

theorem FetchedBy.page_yields (page : Nat) :
    Yields outside (fetchPage (page + 1)) (pageOf size (page + 1) items)
      [listing.request (page + 1)] := by
  rintro world rfl working enough
  apply (fetched (page + 1) world).mono
  intro outcome calls after _ course
  cases course with
  | cancelled stopped =>
    have working : world.moment.stopped = false := working
    rw [working] at stopped
    cases stopped
  | asked =>
    refine ⟨?_, rfl⟩
    obtain ⟨left, some⟩ : ∃ left, world.requestsLeft = left + 1 :=
      Nat.exists_eq_succ_of_ne_zero (Nat.ne_of_gt enough)
    simp only [Outside.replyAt, World.moment, some]
    exact served _ page

include uninterrupted

/-- From a page on, the rest of a list is read, with one request for every page that the
rest fills and one more for what is left over. -/
theorem FetchedBy.pagesFrom_yields
    (positive : 1 ≤ size)
    (operation : String)
    (bound done : Nat)
    (enough : (items.length - done * size) / size + 1 ≤ bound) :
    Yields outside (Forge.pagesFrom size operation fetchPage bound (done + 1))
      (items.drop (done * size))
      ((List.range' (done + 1) ((items.length - done * size) / size + 1)).map
        listing.request) := by
  induction bound generalizing done with
  | zero => exact absurd enough (Nat.not_succ_le_zero _)
  | succ bound ih =>
    have first := fetched.page_yields served done
    have rest : (items.drop (done * size)).length = items.length - done * size :=
      List.length_drop
    have page : pageOf size (done + 1) items = (items.drop (done * size)).take size := rfl
    by_cases short : items.length - done * size < size
    · have whole : pageOf size (done + 1) items = items.drop (done * size) := by
        rw [page, List.take_of_length_le (by omega)]
      have once : (items.length - done * size) / size = 0 := Nat.div_eq_of_lt short
      rw [once]
      rw [whole] at first
      have ends :
          Yields outside
            (if ((items.drop (done * size)).length : Int) < size then
                pure (items.drop (done * size))
              else do
                let others ← Forge.pagesFrom size operation fetchPage bound (done + 1 + 1)
                pure (items.drop (done * size) ++ others))
            (items.drop (done * size)) [] := by
        rw [if_pos (by omega)]
        exact Yields.pure _
      exact first.bind uninterrupted ends
    · have full : ((pageOf size (done + 1) items).length : Int) = size := by
        rw [page, List.length_take]
        omega
      have less : items.length - (done + 1) * size = items.length - done * size - size := by
        rw [Nat.succ_mul]
        omega
      have pages :
          (items.length - done * size) / size =
            (items.length - (done + 1) * size) / size + 1 := by
        rw [less]
        exact Nat.div_eq_sub_div positive (Nat.le_of_not_lt short)
      have joined :
          pageOf size (done + 1) items ++ items.drop ((done + 1) * size) =
            items.drop (done * size) := by
        rw [page, Nat.succ_mul, ← List.drop_drop, List.take_append_drop]
      have others := ih (done + 1) (by omega)
      have goes :
          Yields outside
            (if ((pageOf size (done + 1) items).length : Int) < size then
                pure (pageOf size (done + 1) items)
              else do
                let others ← Forge.pagesFrom size operation fetchPage bound (done + 1 + 1)
                pure (pageOf size (done + 1) items ++ others))
            (pageOf size (done + 1) items ++ items.drop ((done + 1) * size))
            ((List.range' (done + 1 + 1)
              ((items.length - (done + 1) * size) / size + 1)).map listing.request) := by
        rw [if_neg (by omega)]
        exact others.map uninterrupted (pageOf size (done + 1) items ++ ·)
      rw [pages, List.range'_succ, List.map_cons, ← joined]
      exact first.bind uninterrupted goes

theorem FetchedBy.yields (positive : 1 ≤ size) (operation : String) :
    Yields outside (Forge.listing size operation fetchPage) items
      (listing.requests size items.length) := by
  intro world same working enough
  refine Act.Does.attempt_bind (Act.Does.attempt_lift (Act.Does.get ?_))
  have pages :=
    fetched.pagesFrom_yields uninterrupted served positive operation (world.requestsLeft + 1) 0
      (by simp [requests] at enough; simp; omega)
  simpa [requests] using pages world same working (by simpa [requests] using enough)

end Listing

/-! ## Entries -/

/-- A job as a forge keeps it: an object with an identity whose labels, if they are there
and not null, are a list. -/
structure JobEntry where
  fields : Fields
  identified : Fields.get fields "id" ≠ .null
  labelled :
    Fields.get fields "labels" = .null ∨
      ∃ labels, Fields.get fields "labels" = .list labels

namespace JobEntry

def value (entry : JobEntry) : Value :=
  .object entry.fields

/-- The labels that a job requires. -/
def labels (entry : JobEntry) : List Value :=
  match Fields.get entry.fields "labels" with
  | .list labels => labels
  | _ => []

/-- The job of an entry. -/
def job (entry : JobEntry) : Job :=
  let text (name : Text) := (Fields.get entry.fields name).orElse (.text "")
  { id := Fields.get entry.fields "id"
    status := text "status"
    name := text "name"
    labels := entry.labels
    runId := Fields.get entry.fields "run_id"
    runnerId := Fields.get entry.fields "runner_id"
    runnerName := text "runner_name" }

theorem labels_elements (entry : JobEntry) :
    ((Fields.get entry.fields "labels").orElse (.list [])).elements = .ok entry.labels := by
  rcases entry.labelled with none | ⟨labels, given⟩
  · simp [labels, none, Value.orElse, Value.truthy, Value.elements]
  · simp only [JobEntry.labels, given]
    cases labels with
    | nil => rfl
    | cons label rest => rfl

theorem ofValue_value (entry : JobEntry) : Job.ofValue entry.value = .ok entry.job := by
  simp only [value, Job.ofValue, entry.labels_elements]
  cases id : Fields.get entry.fields "id" with
  | null => exact absurd id entry.identified
  | bool | int | real | text | list | object => simp [job, id, pure, Except.pure, bind, Except.bind]

end JobEntry

/-- A repository as a forge keeps it: a value that can be read. -/
structure RepositoryEntry where
  value : Value
  repository : Repository
  reads : Repository.ofValue value = .ok repository

/-- Entries are read to the items that each of them is read to. -/
theorem mapM_eq_ok
    {Entry : Type}
    {read : Source → Except Failure Item}
    {source : Entry → Source}
    {item : Entry → Item}
    (reads : ∀ entry, read (source entry) = .ok (item entry))
    (entries : List Entry) :
    (entries.map source).mapM read = .ok (entries.map item) := by
  induction entries with
  | nil => rfl
  | cons entry rest ih =>
    rw [List.map_cons, List.mapM_cons, reads, ih]
    rfl

/-! ## Catalogues -/

/-- What a forge keeps: a user's repositories, and the jobs of every endpoint with every
status. -/
structure Catalogue where
  repositories : List RepositoryEntry
  jobs : Text → String → List JobEntry

namespace Catalogue

variable
  (catalogue : Catalogue)
  (forge : Forge)
  (organisation user repository : Text)

/-- The endpoints at which the jobs of a scope are listed. -/
def endpoints : Scope → List Text
  | .repository => [forge.repositoryJobs organisation repository]
  | .organisation => [forge.organisationJobs organisation]
  | .global => [forge.allJobs]
  | .user =>
    catalogue.repositories.map fun entry =>
      forge.repositoryJobs entry.repository.owner.plain entry.repository.name.plain

/-- The jobs of a source that the offered labels can run. -/
def runnable (offered : List Text) (source : Text × String) : List Job :=
  ((catalogue.jobs source.1 source.2).map (·.job)).filter (forge.canRun offered)

/-- The requests for all jobs of a source. -/
def jobRequests (source : Text × String) : List Request :=
  (forge.jobListing source.1 source.2).requests forge.pageSize.toNat
    (catalogue.jobs source.1 source.2).length

/-- The requests by which the endpoints of a scope are found. -/
def endpointRequests : Scope → List Request
  | .user =>
    (forge.repositoryListing (forge.userRepositories user)).requests forge.pageSize.toNat
      catalogue.repositories.length
  | _ => []

/-- The requests of a fetch: those for the endpoints of a scope, and then those for the jobs
of one source after another. -/
def requests (scope : Scope) : List Request :=
  catalogue.endpointRequests forge user scope ++
    (Forge.jobSources (catalogue.endpoints forge organisation repository scope)).flatMap
      (catalogue.jobRequests forge)

/-- A forge answers every page of the listings of a scope out of its catalogue. -/
structure Serves (scope : Scope) (outside : Outside) : Prop where
  repositories (ofUser : scope = .user) (history : List Call) (page : Nat) :
    (outside.serve history
        (forge.pageRequest (forge.userRepositories user) none (page + 1))).Tells
      outside.limits.answerNesting
      (.list (pageOf forge.pageSize.toNat (page + 1) (catalogue.repositories.map (·.value))))
  jobs
      (source : Text × String)
      (listed : source ∈
        Forge.jobSources (catalogue.endpoints forge organisation repository scope))
      (history : List Call)
      (page : Nat) :
    ∃ fields,
      (outside.serve history (forge.pageRequest source.1 (some source.2) (page + 1))).Tells
          outside.limits.answerNesting (.object fields) ∧
        (Fields.get fields "jobs").orElse (.list []) =
          .list (pageOf forge.pageSize.toNat (page + 1)
            ((catalogue.jobs source.1 source.2).map (·.value)))

variable
  {catalogue forge organisation user repository}
  {scope : Scope}
  {outside : Outside}
  (serves : catalogue.Serves forge organisation user repository scope outside)

include serves

theorem Serves.jobs_served
    {source : Text × String}
    (listed :
      source ∈ Forge.jobSources (catalogue.endpoints forge organisation repository scope)) :
    (forge.jobListing source.1 source.2).ServedBy outside forge.pageSize.toNat
      ((catalogue.jobs source.1 source.2).map (·.job)) := by
  intro history page
  rcases serves.jobs source listed history page with ⟨fields, tells, slice⟩
  have content : Forge.Reply.content _ Forge.fetchingJobs _ = .ok _ :=
    Forge.content_eq_ok_iff.mpr tells
  rw [pageOf_map] at slice ⊢
  simp only [Forge.jobListing, Forge.readJobs, content, bind, Except.bind, Forge.jobsOfPage,
    slice, Value.elements]
  exact mapM_eq_ok JobEntry.ofValue_value _

theorem Serves.repositories_served (ofUser : scope = .user) :
    (forge.repositoryListing (forge.userRepositories user)).ServedBy outside
      forge.pageSize.toNat (catalogue.repositories.map (·.repository)) := by
  intro history page
  have content : Forge.Reply.content _ Forge.fetchingRepositories _ = .ok _ :=
    Forge.content_eq_ok_iff.mpr (serves.repositories ofUser history page)
  rw [pageOf_map] at content ⊢
  simp only [Forge.repositoryListing, Forge.readRepositories, content, bind, Except.bind,
    Forge.repositoriesOfPage]
  exact mapM_eq_ok RepositoryEntry.reads _

variable (uninterrupted : outside.Uninterrupted) (positive : 1 ≤ forge.pageSize)

include uninterrupted positive

theorem Serves.fetchStatus_yields
    (offered : List Text)
    {source : Text × String}
    (listed :
      source ∈ Forge.jobSources (catalogue.endpoints forge organisation repository scope)) :
    Yields outside (forge.fetchStatus source.1 offered source.2)
      (catalogue.runnable forge offered source) (catalogue.jobRequests forge source) := by
  have fetched := forge.jobListing_fetchedBy source.1 offered source.2
  have size : (forge.pageSize.toNat : Int) = forge.pageSize := Int.toNat_of_nonneg (by omega)
  have jobs :=
    fetched.yields uninterrupted (serves.jobs_served listed) (by omega) Forge.fetchingJobs
  rw [size, List.length_map] at jobs
  exact jobs.map uninterrupted (List.filter (forge.canRun offered))

theorem Serves.endpoints_yields :
    Yields outside (forge.endpoints (.known scope) organisation user repository)
      (catalogue.endpoints forge organisation repository scope)
      (catalogue.endpointRequests forge user scope) := by
  cases scope with
  | repository | organisation | global => exact Yields.pure _
  | user =>
    have fetched := forge.repositoryListing_fetchedBy (forge.userRepositories user)
    have size : (forge.pageSize.toNat : Int) = forge.pageSize := Int.toNat_of_nonneg (by omega)
    have repositories :=
      fetched.yields uninterrupted (serves.repositories_served rfl) (by omega)
        Forge.fetchingRepositories
    rw [size, List.length_map] at repositories
    have found :
        Yields outside (forge.endpoints (.known .user) organisation user repository)
          ((catalogue.repositories.map (·.repository)).map fun repository =>
            forge.repositoryJobs repository.owner.plain repository.name.plain)
          (catalogue.endpointRequests forge user .user ++ ([] ++ [])) :=
      repositories.bind uninterrupted
        ((Yields.note .debug _).bind uninterrupted (Yields.pure _))
    rw [List.map_map, List.append_nil, List.append_nil] at found
    exact found

end Catalogue

/-- A fetch from a forge that answers out of its catalogue is complete: it yields, endpoint
by endpoint and status by status, the jobs of every list that the offered labels can run, in
their order, and its calls are the requests for the pages of these lists and no others. -/
theorem fetchQueued_of_catalogue
    (catalogue : Catalogue)
    (forge : Forge)
    (scope : Scope)
    (organisation user repository : Text)
    (offered : List Text)
    (world : World)
    (positive : 1 ≤ forge.pageSize)
    (serves :
      catalogue.Serves forge organisation user repository scope world.outside)
    (uninterrupted : world.outside.Uninterrupted)
    (working : world.stopped = false)
    (enough :
      (catalogue.requests forge organisation user repository scope).length ≤
        world.requestsLeft) :
    let result :=
      (forge.fetchQueued (.known scope) organisation user repository offered).run.run world
    result.1 =
        .ok ((Forge.jobSources
          (catalogue.endpoints forge organisation repository scope)).flatMap
            (catalogue.runnable forge offered)) ∧
      result.2.history =
        world.history ++
          (catalogue.requests forge organisation user repository scope).map .ask := by
  have endpoints := serves.endpoints_yields uninterrupted positive
  have sources :=
    Yields.gather uninterrupted _ fun _ listed =>
      serves.fetchStatus_yields uninterrupted positive offered listed
  simp only [← Forge.gather_fetchJobs] at sources
  have fetched :
      Yields world.outside (forge.fetchQueued (.known scope) organisation user repository offered)
        _ (catalogue.requests forge organisation user repository scope) :=
    endpoints.bind uninterrupted sources
  rcases fetched world rfl working enough with ⟨calls, follows, yields, asked⟩
  exact ⟨yields, by rw [follows.history, asked]⟩

/-! ## A user with two repositories -/

/-- A job that requires labels. -/
def JobEntry.requiring (id : Int) (labels : List Value) : JobEntry where
  fields := [("id", .int id), ("labels", .list labels)]
  identified := nofun
  labelled := .inr ⟨labels, rfl⟩

/-- A job that says nothing about labels. -/
def JobEntry.plain (id : Int) : JobEntry where
  fields := [("id", .int id)]
  identified := nofun
  labelled := .inl rfl

/-- Two repositories, one with three queued and two waiting jobs and one with a pending
job. -/
def Catalogue.paired : Catalogue where
  repositories :=
    [⟨.object [("full_name", .text "ann/one")],
        ⟨.text "ann", .text "one", .text "ann/one"⟩, rfl⟩,
      ⟨.object [("full_name", .text "ann/two")],
        ⟨.text "ann", .text "two", .text "ann/two"⟩, rfl⟩]
  jobs endpoint status :=
    if endpoint = "http://forge/api/v1/repos/ann/one/actions/jobs" then
      if status = "queued" then
        [.requiring 1 [.text "linux"], .requiring 2 [.text "mac"], .plain 3]
      else if status = "waiting" then
        [.plain 4, .requiring 5 [.text "linux"]]
      else []
    else if status = "pending" then [.plain 6]
    else []

def Forge.paired : Forge where
  baseUrl := "http://forge"
  token := "secret"
  pageSize := 2

/-- What is sent for the pages of two that the entries fill. -/
def Catalogue.pairedPages (url : Text) : Option String → List Text
  | none =>
    ["[\x7b\"full_name\": \"ann/one\"\x7d, \x7b\"full_name\": \"ann/two\"\x7d]"]
  | some status =>
    if url = "http://forge/api/v1/repos/ann/one/actions/jobs" then
      if status = "queued" then
        ["\x7b\"jobs\": [\x7b\"id\": 1, \"labels\": [\"linux\"]\x7d, \x7b\"id\": 2, \"labels\": [\"mac\"]\x7d]\x7d",
          "\x7b\"jobs\": [\x7b\"id\": 3\x7d]\x7d"]
      else if status = "waiting" then
        ["\x7b\"jobs\": [\x7b\"id\": 4\x7d, \x7b\"id\": 5, \"labels\": [\"linux\"]\x7d]\x7d"]
      else []
    else if status = "pending" then ["\x7b\"jobs\": [\x7b\"id\": 6\x7d]\x7d"]
    else []

/-- What is sent for a page; one that no entry is on is empty. -/
def Catalogue.pairedBody (url : Text) (status : Option String) (page : Nat) : Text :=
  (pairedPages url status)[page]?.getD
    (match status with
      | none => "[]"
      | some _ => "\x7b\"jobs\": []\x7d")

def World.paired : World :=
  { World.waiting 1000.0 with
    outside :=
      { Script.outside {} with
        serve _ request :=
          .answer 200 (Catalogue.pairedBody request.url request.status (request.page - 1)) } }

theorem Reply.tells_of_read
    {body : Text}
    {value : Value}
    {nesting : Nat}
    (read : (Json.read nesting body).toOption = some value) :
    (Reply.answer 200 body).Tells nesting value := by
  cases outcome : Json.read nesting body with
  | error fault =>
    rw [outcome] at read
    cases read
  | ok told =>
    rw [outcome] at read
    cases read
    exact ⟨body, rfl, outcome⟩

namespace Catalogue

theorem paired_repositories (url : Text) (page : Nat) :
    (Json.read 985 (pairedBody url none page)).toOption =
      some (.list (pageOf 2 (page + 1) (paired.repositories.map (·.value)))) := by
  have full :
      (Json.read 985 (pairedBody [] none 0)).toOption =
        some (.list (pageOf 2 1 (paired.repositories.map (·.value)))) := by
    decide +kernel
  have empty : (Json.read 985 (pairedBody [] none 1)).toOption = some (.list []) := by
    decide +kernel
  cases page with
  | zero => exact full
  | succ page =>
    have beyond : (paired.repositories.map (·.value)).length ≤ (page + 1) * 2 :=
      Nat.le_mul_of_pos_left 2 (Nat.succ_pos page)
    rw [pageOf_eq_nil beyond]
    exact empty

theorem paired_jobs
    (source : Text × String)
    (listed : source ∈
      Forge.jobSources (paired.endpoints Forge.paired "" "" .user))
    (page : Nat) :
    (Json.read 985 (pairedBody source.1 (some source.2) page)).toOption =
      some (.object [("jobs", .list (pageOf 2 (page + 1)
        ((paired.jobs source.1 source.2).map (·.value))))]) := by
  have filled :
      ∀ source ∈ Forge.jobSources (paired.endpoints Forge.paired "" "" .user), ∀ page < 2,
        (Json.read 985 (pairedBody source.1 (some source.2) page)).toOption =
          some (.object [("jobs", .list (pageOf 2 (page + 1)
            ((paired.jobs source.1 source.2).map (·.value))))]) := by
    decide +kernel
  have short :
      ∀ source ∈ Forge.jobSources (paired.endpoints Forge.paired "" "" .user),
        (pairedPages source.1 (some source.2)).length ≤ 2 ∧
          (paired.jobs source.1 source.2).length ≤ 4 := by
    decide +kernel
  have empty :
      (Json.read 985 "\x7b\"jobs\": []\x7d").toOption = some (.object [("jobs", .list [])]) := by
    decide +kernel
  by_cases early : page < 2
  · exact filled source listed page early
  · rcases short source listed with ⟨pages, jobs⟩
    have none : (pairedPages source.1 (some source.2))[page]? = none :=
      List.getElem?_eq_none (by omega)
    have beyond : ((paired.jobs source.1 source.2).map (·.value)).length ≤ page * 2 := by
      rw [List.length_map]
      omega
    rw [pageOf_eq_nil beyond, pairedBody, none]
    exact empty

theorem get_jobs_orElse (entries : List Value) :
    (Fields.get [("jobs", .list entries)] "jobs").orElse (.list []) = .list entries := by
  cases entries with
  | nil => rfl
  | cons entry rest => rfl

theorem paired_serves :
    paired.Serves Forge.paired "" "ann" "" .user World.paired.outside where
  repositories _ _ page := Reply.tells_of_read (paired_repositories _ page)
  jobs source listed _ page :=
    ⟨_, Reply.tells_of_read (paired_jobs source listed page), get_jobs_orElse _⟩

end Catalogue

/-- Both repositories are on the first page of two, so a second page is asked for; the same
holds of the two waiting jobs. -/
theorem fetchQueued_of_catalogue_paired :
    1 ≤ Forge.paired.pageSize ∧
      Catalogue.paired.Serves Forge.paired "" "ann" "" .user World.paired.outside ∧
        World.paired.outside.Uninterrupted ∧
          World.paired.stopped = false ∧
            (Catalogue.paired.requests Forge.paired "" "ann" "" .user).length ≤
                World.paired.requestsLeft ∧
              ∃ (jobs : List Job) (requests : List Request),
                let result :=
                  (Forge.paired.fetchQueued (.known .user) "" "ann" "" ["linux"]).run.run
                    World.paired
                result.1 = .ok jobs ∧
                  jobs.map (·.id) = [.int 1, .int 3, .int 4, .int 5, .int 6] ∧
                    result.2.history = World.paired.history ++ requests.map .ask ∧
                      requests.map (fun request => (request.status, request.page)) =
                        [(none, 1), (none, 2), (some "queued", 1), (some "queued", 2),
                          (some "waiting", 1), (some "waiting", 2), (some "pending", 1),
                          (some "queued", 1), (some "waiting", 1), (some "pending", 1)] := by
  have positive : 1 ≤ Forge.paired.pageSize := by decide
  have uninterrupted : World.paired.outside.Uninterrupted := fun _ => rfl
  have enough :
      (Catalogue.paired.requests Forge.paired "" "ann" "" .user).length ≤
        World.paired.requestsLeft := by
    decide +kernel
  have fetched :=
    fetchQueued_of_catalogue Catalogue.paired Forge.paired .user "" "ann" "" ["linux"]
      World.paired positive Catalogue.paired_serves uninterrupted rfl enough
  rcases fetched with ⟨yields, asked⟩
  refine ⟨positive, Catalogue.paired_serves, uninterrupted, rfl, enough, _, _, yields, ?_,
    asked, ?_⟩
  · decide +kernel
  · decide +kernel

end RunnerFleet
