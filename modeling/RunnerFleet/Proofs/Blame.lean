import RunnerFleet.Proofs.Exchanges

/-!
# What is wrong with an exchange

An exchange is sound if it was answered with success, and with JSON of the shape that was
asked for, each of whose entries can be read.  Any other exchange is to blame for exactly
one failure, which is told here case by case: the transport, the status, the text of the
body, the shape of its content, or the first entry that cannot be read.
-/

namespace RunnerFleet

variable {Source Item Answer : Type}

@[simp]
theorem failureOf_error (failure : Failure) :
    failureOf (.error failure : Except Failure Answer) = some failure :=
  rfl

@[simp]
theorem failureOf_ok (answer : Answer) : failureOf (.ok answer) = none :=
  rfl

theorem failureOf_eq_some_iff {outcome : Except Failure Answer} {failure : Failure} :
    failureOf outcome = some failure ↔ outcome = .error failure := by
  cases outcome with
  | error other => simp
  | ok answer => simp

/-- A bind fails with its first part, or with its second after the first succeeded. -/
theorem failureOf_bind (first : Except Failure Item) (second : Item → Except Failure Answer) :
    failureOf (first >>= second) =
      match first with
      | .error failure => some failure
      | .ok item => failureOf (second item) := by
  cases first with
  | error failure => rfl
  | ok item => rfl

/-! ## Reading entries one after another -/

section

variable (read : Source → Except Failure Item)

theorem failureOf_mapM_cons (entry : Source) (rest : List Source) :
    failureOf ((entry :: rest).mapM read) =
      match failureOf (read entry) with
      | some failure => some failure
      | none => failureOf (rest.mapM read) := by
  rw [List.mapM_cons, failureOf_bind]
  cases read entry with
  | error failure => rfl
  | ok item =>
    rw [failureOf_ok]
    dsimp only
    rw [failureOf_bind]
    cases rest.mapM read with
    | error failure => rfl
    | ok items => rfl

/-- Entries are read if each of them can be read. -/
theorem failureOf_mapM_eq_none_iff (entries : List Source) :
    failureOf (entries.mapM read) = none ↔
      ∀ entry ∈ entries, failureOf (read entry) = none := by
  induction entries with
  | nil => simp [pure, Except.pure]
  | cons entry rest ih =>
    rw [failureOf_mapM_cons, List.forall_mem_cons, ← ih]
    cases failureOf (read entry) with
    | some failure => simp
    | none => simp

/-- The first entry that cannot be read decides how the reading fails. -/
theorem failureOf_mapM_eq_some_iff (entries : List Source) (failure : Failure) :
    failureOf (entries.mapM read) = some failure ↔
      ∃ before entry after,
        entries = before ++ entry :: after ∧
          (∀ earlier ∈ before, failureOf (read earlier) = none) ∧
            failureOf (read entry) = some failure := by
  induction entries with
  | nil => simp [pure, Except.pure]
  | cons first rest ih =>
    rw [failureOf_mapM_cons]
    cases outcome : failureOf (read first) with
    | some own =>
      constructor
      · intro equal
        exact ⟨[], first, rest, rfl, nofun, by rw [outcome]; exact equal⟩
      · rintro ⟨before, entry, after, split, readable, fault⟩
        cases before with
        | nil =>
          cases split
          rw [outcome] at fault
          exact fault
        | cons earlier before =>
          cases split
          have none := readable first List.mem_cons_self
          rw [outcome] at none
          cases none
    | none =>
      dsimp only
      rw [ih]
      constructor
      · rintro ⟨before, entry, after, rfl, readable, fault⟩
        exact ⟨first :: before, entry, after, rfl,
          List.forall_mem_cons.mpr ⟨outcome, readable⟩, fault⟩
      · rintro ⟨before, entry, after, split, readable, fault⟩
        cases before with
        | nil =>
          cases split
          rw [outcome] at fault
          cases fault
        | cons earlier before =>
          cases split
          exact ⟨before, entry, after, rfl, (List.forall_mem_cons.mp readable).2, fault⟩

end

/-! ## Replies -/

/-- A reply tells a value: it reports success, and its body is the JSON of the value, nested
to at most a number of levels. -/
def Reply.Tells (reply : Reply) (nesting : Nat) (value : Value) : Prop :=
  ∃ body, reply = .answer 200 body ∧ Json.read nesting body = .ok value

/-- Why a reply to an operation tells no value. -/
inductive Reply.Fails (nesting : Nat) (operation : String) : Reply → Failure → Prop where
  /-- The transport failed. -/
  | unreachable
      (fault : Fault)
      (transport : fault.origin.isTransport = true) :
      Fails nesting operation (.fault fault) (.unreachable operation fault.message)
  /-- Something else outside failed. -/
  | outside
      (fault : Fault)
      (other : fault.origin.isTransport = false) :
      Fails nesting operation (.fault fault) (.outside fault)
  /-- The status is not that of success, and its class is that of the failure. -/
  | refused
      (status : Int)
      (body : Text)
      (unsuccessful : status ≠ 200) :
      Fails nesting operation (.answer status body) (.refused (.ofAnswer status operation body))
  /-- The body is no JSON. -/
  | notJson
      (body : Text)
      (fault : Json.Fault)
      (unread : Json.read nesting body = .error fault)
      (shallow : ∀ nest, fault ≠ .tooDeep nest) :
      Fails nesting operation (.answer 200 body) (.malformed (.notJson operation fault.message))
  /-- The body is nested too deeply to be read. -/
  | tooDeep
      (body : Text)
      (nest : Json.Nest)
      (unread : Json.read nesting body = .error (.tooDeep nest)) :
      Fails nesting operation (.answer 200 body) (.tooDeep nest)

namespace Forge

theorem content_eq_ok_iff
    {nesting : Nat}
    {operation : String}
    {reply : Reply}
    {value : Value} :
    Reply.content nesting operation reply = .ok value ↔ reply.Tells nesting value := by
  constructor
  · intro told
    cases reply with
    | fault fault =>
      simp only [Reply.content] at told
      split at told <;> cases told
    | answer status body =>
      simp only [Reply.content] at told
      split at told
      next success =>
        subst success
        refine ⟨body, rfl, ?_⟩
        split at told
        next value read =>
          cases told
          exact read
        next => cases told
        next => cases told
      next => cases told
  · rintro ⟨body, rfl, read⟩
    simp [Reply.content, read]

theorem content_eq_error_iff
    {nesting : Nat}
    {operation : String}
    {reply : Reply}
    {failure : Failure} :
    Reply.content nesting operation reply = .error failure ↔
      reply.Fails nesting operation failure := by
  constructor
  · intro told
    cases reply with
    | fault fault =>
      simp only [Reply.content] at told
      split at told
      next transport =>
        cases told
        exact .unreachable fault transport
      next other =>
        cases told
        exact .outside fault (Bool.eq_false_iff.mpr other)
    | answer status body =>
      simp only [Reply.content] at told
      split at told
      next success =>
        subst success
        split at told
        next => cases told
        next nest unread =>
          cases told
          exact .tooDeep body nest unread
        next fault shallow unread =>
          cases told
          exact .notJson body fault unread fun nest equal => shallow nest equal
      next unsuccessful =>
        cases told
        exact .refused status body unsuccessful
  · intro fails
    cases fails with
    | unreachable fault transport => simp [Reply.content, transport]
    | outside fault other => simp [Reply.content, other]
    | refused status body unsuccessful => simp [Reply.content, unsuccessful]
    | notJson body fault unread shallow =>
      cases fault with
      | tooDeep nest => exact absurd rfl (shallow nest)
      | problem | tooManyDigits => simp [Reply.content, unread]
    | tooDeep body nest unread => simp [Reply.content, unread]

end Forge

/-! ## Contents -/

namespace Request

/-- The content of a page lists entries: the jobs of an object, none if they do not count
as given, or the items of a list. -/
inductive Lists (request : Request) : Value → List Value → Prop where
  | jobs
      {status : String}
      {fields : Fields}
      {entries : List Value}
      (asked : request.status = some status)
      (listed : ((Fields.get fields "jobs").orElse (.list [])).elements = .ok entries) :
      Lists request (.object fields) entries
  | repositories
      {entries : List Value}
      (asked : request.status = none) :
      Lists request (.list entries) entries

/-- Why an entry cannot be read, if it cannot. -/
def entryFailure? (request : Request) (entry : Value) : Option Failure :=
  match request.status with
  | some _ => failureOf (Job.ofValue entry)
  | none => failureOf (Repository.ofValue entry)

/-- Why the content of a reply is no page of readable entries. -/
inductive Rejects (request : Request) : Value → Failure → Prop where
  | noJobs
      {status : String}
      {value : Value}
      (asked : request.status = some status)
      (other : ∀ fields, value ≠ .object fields) :
      Rejects request value (.malformed (.jobs request.url value))
  | noRepositories
      {value : Value}
      (asked : request.status = none)
      (other : ∀ entries, value ≠ .list entries) :
      Rejects request value (.malformed (.repositories request.url value))
  | notIterable
      {status : String}
      {fields : Fields}
      {failure : Failure}
      (asked : request.status = some status)
      (unlisted :
        ((Fields.get fields "jobs").orElse (.list [])).elements = .error failure) :
      Rejects request (.object fields) failure
  /-- The first entry that cannot be read decides. -/
  | entry
      {value : Value}
      {before : List Value}
      {entry : Value}
      {after : List Value}
      {failure : Failure}
      (lists : request.Lists value (before ++ entry :: after))
      (readable : ∀ earlier ∈ before, request.entryFailure? earlier = none)
      (fault : request.entryFailure? entry = some failure) :
      Rejects request value failure

/-- Why the content of a reply is refused, if it is. -/
def contentFailure? (request : Request) (value : Value) : Option Failure :=
  match request.status with
  | some _ => failureOf (Forge.jobsOfPage request.url value)
  | none => failureOf (Forge.repositoriesOfPage request.url value)

theorem contentFailure?_jobs
    {request : Request}
    {status : String}
    (asked : request.status = some status)
    (fields : Fields) :
    request.contentFailure? (.object fields) =
      match ((Fields.get fields "jobs").orElse (.list [])).elements with
      | .error failure => some failure
      | .ok entries => failureOf (entries.mapM Job.ofValue) := by
  simp only [contentFailure?, asked, Forge.jobsOfPage]
  cases ((Fields.get fields "jobs").orElse (.list [])).elements with
  | error failure => rfl
  | ok entries => rfl

theorem contentFailure?_repositories
    {request : Request}
    (asked : request.status = none)
    (entries : List Value) :
    request.contentFailure? (.list entries) =
      failureOf (entries.mapM Repository.ofValue) := by
  simp only [contentFailure?, asked, Forge.repositoriesOfPage]

theorem contentFailure?_of_lists
    {request : Request}
    {value : Value}
    {entries : List Value}
    (lists : request.Lists value entries) :
    (request.contentFailure? value = none ↔
        ∀ entry ∈ entries, request.entryFailure? entry = none) ∧
      ∀ failure,
        request.contentFailure? value = some failure ↔
          ∃ before entry after,
            entries = before ++ entry :: after ∧
              (∀ earlier ∈ before, request.entryFailure? earlier = none) ∧
                request.entryFailure? entry = some failure := by
  cases lists with
  | jobs asked listed =>
    have reads : request.entryFailure? = fun entry => failureOf (Job.ofValue entry) := by
      funext entry
      simp only [entryFailure?, asked]
    rw [contentFailure?_jobs asked, listed, reads]
    exact ⟨failureOf_mapM_eq_none_iff _ _, failureOf_mapM_eq_some_iff _ _⟩
  | repositories asked =>
    have reads : request.entryFailure? = fun entry => failureOf (Repository.ofValue entry) := by
      funext entry
      simp only [entryFailure?, asked]
    rw [contentFailure?_repositories asked, reads]
    exact ⟨failureOf_mapM_eq_none_iff _ _, failureOf_mapM_eq_some_iff _ _⟩

/-- Content lists entries, or it is refused for its shape. -/
theorem lists_or_rejects (request : Request) (value : Value) :
    (∃ entries, request.Lists value entries) ∨
      ∃ failure, request.Rejects value failure ∧
        request.contentFailure? value = some failure := by
  cases asked : request.status with
  | some status =>
    cases value with
    | object fields =>
      cases listed : ((Fields.get fields "jobs").orElse (.list [])).elements with
      | ok entries => exact .inl ⟨entries, .jobs asked listed⟩
      | error failure =>
        refine .inr ⟨failure, .notIterable asked listed, ?_⟩
        rw [contentFailure?_jobs asked, listed]
    | null | bool | int | real | text | list =>
      refine .inr ⟨_, .noJobs asked nofun, ?_⟩
      simp only [contentFailure?, asked, Forge.jobsOfPage, failureOf_error]
  | none =>
    cases value with
    | list entries => exact .inl ⟨entries, .repositories asked⟩
    | null | bool | int | real | text | object =>
      refine .inr ⟨_, .noRepositories asked nofun, ?_⟩
      simp only [contentFailure?, asked, Forge.repositoriesOfPage, failureOf_error]

theorem contentFailure?_eq_none_iff {request : Request} {value : Value} :
    request.contentFailure? value = none ↔
      ∃ entries,
        request.Lists value entries ∧
          ∀ entry ∈ entries, request.entryFailure? entry = none := by
  constructor
  · intro accepted
    rcases request.lists_or_rejects value with ⟨entries, lists⟩ | ⟨failure, _, refused⟩
    · exact ⟨entries, lists, (contentFailure?_of_lists lists).1.mp accepted⟩
    · rw [accepted] at refused
      cases refused
  · rintro ⟨entries, lists, readable⟩
    exact (contentFailure?_of_lists lists).1.mpr readable

theorem contentFailure?_eq_some_iff {request : Request} {value : Value} {failure : Failure} :
    request.contentFailure? value = some failure ↔ request.Rejects value failure := by
  constructor
  · intro refused
    rcases request.lists_or_rejects value with ⟨entries, lists⟩ | ⟨other, rejects, equal⟩
    · rcases (contentFailure?_of_lists lists).2 failure |>.mp refused with
        ⟨before, entry, after, rfl, readable, fault⟩
      exact .entry lists readable fault
    · rw [refused] at equal
      cases equal
      exact rejects
  · intro rejects
    cases rejects with
    | @noJobs _ value asked other =>
      cases value with
      | object fields => exact absurd rfl (other fields)
      | null | bool | int | real | text | list =>
        simp only [contentFailure?, asked, Forge.jobsOfPage, failureOf_error]
    | @noRepositories value asked other =>
      cases value with
      | list entries => exact absurd rfl (other entries)
      | null | bool | int | real | text | object =>
        simp only [contentFailure?, asked, Forge.repositoriesOfPage, failureOf_error]
    | notIterable asked unlisted => rw [contentFailure?_jobs asked, unlisted]
    | entry lists readable fault =>
      exact (contentFailure?_of_lists lists).2 failure |>.mpr
        ⟨_, _, _, rfl, readable, fault⟩

end Request

/-! ## Exchanges -/

namespace Exchange

/-- An exchange is sound: it was answered with success and with JSON that lists what was
asked for, and every entry can be read. -/
def IsSound (exchange : Exchange) : Prop :=
  ∃ value entries,
    exchange.reply.Tells exchange.nesting value ∧
      exchange.request.Lists value entries ∧
        ∀ entry ∈ entries, exchange.request.entryFailure? entry = none

/-- An exchange is to blame for a failure: of its reply, or of the content that the reply
tells. -/
def Blames (exchange : Exchange) (failure : Failure) : Prop :=
  exchange.reply.Fails exchange.nesting exchange.request.operation failure ∨
    ∃ value, exchange.reply.Tells exchange.nesting value ∧ exchange.request.Rejects value failure

theorem failure?_eq (exchange : Exchange) :
    exchange.failure? =
      match
          Forge.Reply.content exchange.nesting exchange.request.operation exchange.reply
        with
      | .error failure => some failure
      | .ok value => exchange.request.contentFailure? value := by
  simp only [failure?, Request.operation, Request.contentFailure?]
  cases exchange.request.status with
  | some status =>
    dsimp only [Forge.readJobs]
    cases Forge.Reply.content exchange.nesting Forge.fetchingJobs exchange.reply with
    | error failure => rfl
    | ok value => rfl
  | none =>
    dsimp only [Forge.readRepositories]
    cases Forge.Reply.content exchange.nesting Forge.fetchingRepositories exchange.reply with
    | error failure => rfl
    | ok value => rfl

theorem isSound_iff (exchange : Exchange) :
    exchange.IsSound ↔ exchange.failure? = none := by
  rw [failure?_eq]
  cases told :
      Forge.Reply.content exchange.nesting exchange.request.operation exchange.reply with
  | error failure =>
    constructor
    · rintro ⟨value, entries, tells, _⟩
      rw [Forge.content_eq_ok_iff.mpr tells] at told
      cases told
    · nofun
  | ok value =>
    dsimp only
    rw [Request.contentFailure?_eq_none_iff]
    constructor
    · rintro ⟨other, entries, tells, sound⟩
      rw [Forge.content_eq_ok_iff.mpr tells] at told
      cases told
      exact ⟨entries, sound⟩
    · rintro ⟨entries, sound⟩
      exact ⟨value, entries, Forge.content_eq_ok_iff.mp told, sound⟩

theorem blames_iff (exchange : Exchange) (failure : Failure) :
    exchange.Blames failure ↔ exchange.failure? = some failure := by
  rw [failure?_eq]
  cases told :
      Forge.Reply.content exchange.nesting exchange.request.operation exchange.reply with
  | error other =>
    dsimp only
    constructor
    · rintro (fails | ⟨value, tells, _⟩)
      · rw [Forge.content_eq_error_iff.mpr fails] at told
        cases told
        rfl
      · rw [Forge.content_eq_ok_iff.mpr tells] at told
        cases told
    · intro equal
      cases equal
      exact .inl (Forge.content_eq_error_iff.mp told)
  | ok value =>
    dsimp only
    rw [Request.contentFailure?_eq_some_iff]
    constructor
    · rintro (fails | ⟨other, tells, rejects⟩)
      · rw [Forge.content_eq_error_iff.mpr fails] at told
        cases told
      · rw [Forge.content_eq_ok_iff.mpr tells] at told
        cases told
        exact rejects
    · intro rejects
      exact .inr ⟨value, Forge.content_eq_ok_iff.mp told, rejects⟩

end Exchange

end RunnerFleet
