import RunnerFleet.Proofs.Completeness
import RunnerFleet.Proofs.Digits
import RunnerFleet.Proofs.Publishing
import RunnerFleet.Proofs.Selecting
import RunnerFleet.Proofs.Visiting

/-!
# What a status counts

The ids in a status were read from answers of the forge, so their integers can be written.  The
other figures are counts: of live runners, of waiting jobs, and of parts of these.  A status can
be written unless one of these two counts has too many digits, which no machine comes near.
-/

namespace RunnerFleet

/-! ## Ids of jobs -/

theorem Fields.isWritable_get
    {fields : Fields}
    (short : (Value.object fields).isWritable = true)
    (name : Text) :
    (fields.get name).isWritable = true := by
  rw [Value.isWritable, Value.fieldsAreWritable_iff] at short
  rw [Fields.get]
  cases found : fields.lookup name with
  | none => rfl
  | some value =>
    rcases List.lookup_eq_some_iff.mp found with ⟨_, _, rfl, _⟩
    exact short (name, value) List.mem_append_cons_self

theorem Value.isWritable_orElse
    {value default : Value}
    (short : value.isWritable = true)
    (alsoShort : default.isWritable = true) :
    (value.orElse default).isWritable = true := by
  rw [orElse]
  split
  · exact short
  · exact alsoShort

theorem Value.isWritable_elements
    {value : Value}
    {items : List Value}
    (short : value.isWritable = true)
    (listed : value.elements = .ok items) :
    ∀ item ∈ items, item.isWritable = true := by
  cases value with
  | list entries =>
    cases listed
    exact itemsAreWritable_iff.mp short
  | text content =>
    cases listed
    intro item member
    rcases List.mem_map.mp member with ⟨point, _, rfl⟩
    rfl
  | object fields =>
    cases listed
    intro item member
    rcases List.mem_map.mp member with ⟨field, _, rfl⟩
    rfl
  | null | bool | int | real => cases listed

theorem Job.isWritable_id
    {entry : Value}
    {job : Job}
    (short : entry.isWritable = true)
    (read : Job.ofValue entry = .ok job) :
    job.id.isWritable = true := by
  cases entry with
  | object fields =>
    have id := Fields.isWritable_get short "id"
    rw [ofValue] at read
    split at read
    · cases read
    · rcases bind_eq_ok_iff.mp read with ⟨labels, _, same⟩
      cases same
      exact id
  | null | bool | int | real | text | list => cases read

/-- What entries are read as was read from one of them. -/
theorem exists_of_mem_mapM
    {Entry Item : Type}
    {read : Entry → Except Failure Item}
    {entries : List Entry}
    {items : List Item}
    (all : entries.mapM read = .ok items) :
    ∀ item ∈ items, ∃ entry ∈ entries, read entry = .ok item := by
  induction entries generalizing items with
  | nil =>
    cases all
    exact List.forall_mem_nil _
  | cons entry rest ih =>
    rw [List.mapM_cons] at all
    rcases bind_eq_ok_iff.mp all with ⟨first, own, further⟩
    rcases bind_eq_ok_iff.mp further with ⟨others, later, same⟩
    cases same
    refine List.forall_mem_cons.mpr ⟨⟨entry, List.mem_cons_self, own⟩, ?_⟩
    intro item member
    rcases ih later item member with ⟨among, listed, read⟩
    exact ⟨among, List.mem_cons_of_mem _ listed, read⟩

namespace Forge

/-- The ids of the jobs that a reply carries can be written. -/
theorem readJobs_isWritable
    {endpoint : Text}
    {nesting : Nat}
    {reply : Reply}
    {jobs : List Job}
    (read : readJobs endpoint nesting reply = .ok jobs) :
    ∀ job ∈ jobs, job.id.isWritable = true := by
  rcases bind_eq_ok_iff.mp read with ⟨value, content, page⟩
  rcases content_eq_ok_iff.mp content with ⟨body, _, told⟩
  have short := Json.isWritable_of_read told
  cases value with
  | object fields =>
    rcases bind_eq_ok_iff.mp page with ⟨entries, listed, all⟩
    have each :=
      Value.isWritable_elements
        (Value.isWritable_orElse (Fields.isWritable_get short "jobs") rfl) listed
    intro job member
    rcases exists_of_mem_mapM all job member with ⟨entry, among, own⟩
    exact Job.isWritable_id (each entry among) own
  | null | bool | int | real | text | list => cases page

variable (forge : Forge)

/-- The ids of the jobs that a fetch yields can be written. -/
theorem fetchQueued_isWritable
    (scope : ScopeSetting)
    (organisation user repository : Text)
    (offered : List Text)
    (world : World) :
    Act.Does (forge.fetchQueued scope organisation user repository offered).run world
      fun fetched _ _ =>
        ∀ jobs, fetched = .ok jobs → ∀ job ∈ jobs, job.id.isWritable = true := by
  cases scope with
  | unknown value => exact Act.Does.pure nofun
  | known scope =>
    apply (forge.fetchQueued_fetches scope organisation user repository offered world).mono
    intro fetched calls after _ course
    cases course with
    | broken | cancelled => nofun
    | completed _ told =>
      rcases told with ⟨_, _, _, readings, _, each, rfl, _⟩
      rintro _ ⟨⟩ job member
      rcases List.mem_flatMap.mp member with ⟨reading, listed, among⟩
      rcases each reading listed with ⟨pages, paged, items⟩
      rw [items] at among
      rcases List.mem_flatten.mp (List.mem_filter.mp among).1 with ⟨page, paging, own⟩
      have told : (Except.ok page : Except Failure (List Job)) ∈ pages.map .ok :=
        List.mem_map_of_mem paging
      rw [← paged.read] at told
      rcases List.mem_map.mp told with ⟨exchange, _, read⟩
      exact readJobs_isWritable read job own

end Forge

/-! ## Decisions -/

/-- The figures of the decision with which a pass ended, if there is one. -/
def PassEnd.summary? : PassEnd → Option Summary
  | .finished decision | .startFailed _ decision => some decision.summary
  | .failed _ => none

/-- The figures of a decision that count few enough live runners, and parts of the waiting
jobs. -/
structure Summary.IsCounted (summary : Summary) : Prop where
  active : Number.isWritable summary.active = true
  slots : Number.isWritable summary.slots = true
  candidates : summary.candidates ≤ summary.queued
  started : summary.started ≤ summary.queued
  startedIds : ∀ id ∈ summary.startedIds, id.isWritable = true

theorem Number.isWritable_of_le
    {number other : Int}
    (short : isWritable other = true)
    (smaller : number.natAbs ≤ other.natAbs) :
    isWritable number = true := by
  rw [isWritable, decide_eq_true_iff] at short ⊢
  exact Nat.lt_of_le_of_lt smaller short

/-- A survey picks from its jobs. -/
theorem Survey.jobs_sublist
    (ledger : Ledger)
    (time : Float)
    (claimed : List Key)
    (jobs : List Job) :
    ((of ledger time claimed jobs).candidates.map (·.job)).Sublist jobs := by
  induction jobs generalizing claimed with
  | nil => exact List.Sublist.refl []
  | cons job rest ih =>
    cases named : job.id.key? with
    | none =>
      simp only [of, Value.key, named]
      exact List.nil_sublist _
    | some key =>
      rw [of_cons_of_key named]
      split
      · exact (ih claimed).cons _
      · split
        · exact (ih claimed).cons _
        · exact (ih (key :: claimed)).cons_cons _

namespace Provisioner

variable (provisioner : Provisioner) (pool : Pool)

/-- A pass that gets as far as a prospect has fetched jobs whose ids can be written, and its
candidates are among them. -/
theorem prospect_isCounted
    {active : Int}
    {world : World}
    {prospect : Prospect}
    (found : provisioner.prospect? pool active world = some prospect) :
    (prospect.candidates.map (·.job)).Sublist prospect.jobs ∧
      ∀ job ∈ prospect.jobs, job.id.isWritable = true := by
  have surveyed := provisioner.surveyed_of_prospect? pool found
  have reached := provisioner.run_of_prospect? pool found
  refine ⟨?_, ?_⟩
  · rw [surveyed.candidates]
    exact Survey.jobs_sublist _ _ _ _
  · have fetches (noted : World) (_ : noted.outside = world.outside)
        (_ : noted.moment = world.moment) :
        Act.Does (provisioner.fetch pool).run noted fun fetched _ _ =>
          ∀ jobs, fetched = .ok jobs → ∀ job ∈ jobs, job.id.isWritable = true :=
      provisioner.forge.fetchQueued_isWritable _ _ _ _ _ noted
    rcases provisioner.prospect_does pool fetches with ⟨_, _, fetched, short, prospecting⟩
    rw [reached] at prospecting
    cases prospecting
    exact short _ rfl

/-- The candidates that were served are among all candidates. -/
theorem candidates_sublist (candidates : List Candidate) (started : List (RunnerSpec × Float)) :
    ((List.zipWith Start.ofStarted candidates started).map (·.candidate)).Sublist
      candidates := by
  induction candidates generalizing started with
  | nil => exact List.Sublist.refl []
  | cons candidate rest ih =>
    cases started with
    | nil => exact List.nil_sublist _
    | cons first others => exact (ih others).cons_cons candidate

variable {pool}

/-- A pool's free slots can be written if its capacity can. -/
theorem isWritable_freeSlots
    {active : Nat}
    (showable : isShowable pool active = true) :
    Number.isWritable (freeSlots pool active) = true := by
  rw [isShowable, Bool.and_eq_true] at showable
  refine Number.isWritable_of_le showable.2 ?_
  rw [freeSlots]
  omega

/-- The decision of a pass over a prospect counts few enough. -/
theorem isCounted_of_course
    {outside : Outside}
    {moment : Moment}
    {active : Nat}
    {prospect : Prospect}
    {made : List Start}
    {calls : List Call}
    (showable : isShowable pool active = true)
    (among : (prospect.candidates.map (·.job)).Sublist prospect.jobs)
    (short : ∀ job ∈ prospect.jobs, job.id.isWritable = true)
    (course :
      StartsCourse outside moment pool (prospect.candidates.take (freeSlots pool active)) made
        calls) :
    (provisioner.decisionOf pool active prospect made).summary.IsCounted := by
  have serves : (made.map (·.candidate)).Sublist prospect.candidates := by
    rw [course.made]
    exact (candidates_sublist _ _).trans (List.take_sublist _ _)
  have jobs : (made.map (·.candidate.job)).Sublist prospect.jobs := by
    have served := serves.map (·.job)
    rw [List.map_map] at served
    exact served.trans among
  have candidates := among.length_le
  have started := jobs.length_le
  rw [List.length_map] at candidates started
  have shown : Number.isWritable active = true ∧ Number.isWritable pool.capacity = true := by
    rwa [isShowable, Bool.and_eq_true] at showable
  exact
    { active := shown.1
      slots := isWritable_freeSlots showable
      candidates
      started
      startedIds := by
        intro id member
        rcases List.mem_map.mp member with ⟨job, started, rfl⟩
        exact short job (jobs.subset started) }

/-- Whatever a pass decides counts few enough, if the live runners and the capacity of its pool
are few enough. -/
theorem pass_isCounted
    {active : Nat}
    (showable : isShowable pool active = true)
    (world : World) :
    (provisioner.pass pool active).Does world fun answer _ _ =>
      ∀ summary, answer.1.summary? = some summary → summary.IsCounted := by
  refine provisioner.pass_parts pool ?full ?failed ?reached
  case full =>
    rintro _ _ after _ _ ⟨⟩
    rw [isShowable, Bool.and_eq_true] at showable
    exact
      { active := showable.1
        slots := Number.isWritable_of_le showable.1 (Nat.zero_le _)
        candidates := Nat.le_refl 0
        started := Nat.le_refl 0
        startedIds := List.forall_mem_nil _ }
  case failed =>
    rintro _ _ _ _ _ _ _ ⟨⟩
  case reached =>
    intro between prospect asked found _ _ _
    rcases provisioner.prospect_isCounted pool found with ⟨among, short⟩
    apply provisioner.provide_parts pool
    apply (provisioner.startAll_does pool _ _ between).mono
    intro starts calls after _ course ending noted concludes _ _ summary decided
    have counted := provisioner.isCounted_of_course showable among short course
    generalize starts.ended = ending? at concludes
    cases concludes with
    | finished | fault =>
      cases decided
      exact counted
    | unwritable | failure => cases decided

end Provisioner

/-! ## Statuses -/

namespace PoolStatus

/-- A status that counts more live runners, or more waiting jobs, than a number with few enough
digits can tell. -/
def Overflows (status : PoolStatus) : Prop :=
  Number.isWritable status.live = false ∨
    ∃ summary, status.decision = some summary ∧ Number.isWritable summary.queued = false

/-- A status whose decision, if it has one, counts few enough. -/
def IsCounted (status : PoolStatus) : Prop :=
  ∀ summary, status.decision = some summary → summary.IsCounted

/-- A status can be written unless it counts too much. -/
theorem IsCounted.isWritable
    {status : PoolStatus}
    (counted : status.IsCounted)
    (few : ¬ status.Overflows) :
    (Value.object status.fields).isWritable = true := by
  rw [Overflows, not_or, Bool.not_eq_false] at few
  rcases few with ⟨live, jobs⟩
  have optional (content : Option Text) : (optionalText content).isWritable = true := by
    cases content with
    | none => rfl
    | some content => rfl
  have decision : (Value.object status.decisionFields).isWritable = true := by
    rw [decisionFields]
    cases decided : status.decision with
    | none => rfl
    | some summary =>
      have figures := counted summary decided
      have queued : Number.isWritable summary.queued = true := by
        simpa using fun long => jobs ⟨summary, decided, long⟩
      have part {count : Nat} (smaller : count ≤ summary.queued) :
          Number.isWritable count = true :=
        Number.isWritable_of_le queued (by simpa using smaller)
      have ids := Value.itemsAreWritable_iff.mpr figures.startedIds
      simp only [Summary.fields, Value.isWritable, Value.fieldsAreWritable, figures.active,
        figures.slots, queued, part figures.candidates, part figures.started, ids, Bool.and_self]
  rw [Value.isWritable] at decision
  simp only [fields, Value.isWritable, Value.fieldsAreWritable, live, optional, decision,
    Bool.and_self]

end PoolStatus

/-- Statuses can be written unless one of them counts too much. -/
theorem exists_overflows
    {statuses : List (Text × PoolStatus)}
    (counted : ∀ pair ∈ statuses, pair.2.IsCounted)
    (part : (Json.write (.object (statusDocument statuses))).whole = false) :
    ∃ pair ∈ statuses, pair.2.Overflows := by
  by_contra few
  have each : ∀ pair ∈ statuses, (Value.object pair.2.fields).isWritable = true :=
    fun pair member =>
      (counted pair member).isWritable fun overflows => few ⟨pair, member, overflows⟩
  have whole : (Value.object (statusDocument statuses)).isWritable = true := by
    rw [Value.isWritable, Value.fieldsAreWritable_iff]
    intro field member
    rcases List.mem_map.mp member with ⟨pair, listed, rfl⟩
    exact each pair listed
  rw [Json.whole_write, whole] at part
  cases part

namespace Provisioner

variable (provisioner : Provisioner) (pool : Pool)

/-- The count of the live runners leaves a status its decision, and goes on only with a number
that can be shown. -/
theorem observe_leaves (status : PoolStatus) (world : World) :
    let observed := ((observe pool status).run world).1
    observed.1.decision = status.decision ∧
      ∀ active, observed.2 = .ok active → isShowable pool active = true := by
  dsimp only
  rw [observe, Act.run_bind]
  split
  · exact ⟨rfl, nofun⟩
  next active _ =>
    rw [Act.run_bind]
    split
    · exact ⟨rfl, nofun⟩
    · dsimp only
      cases showable : isShowable pool active with
      | true => exact ⟨rfl, fun _ equal => Except.ok.inj equal ▸ showable⟩
      | false => exact ⟨rfl, nofun⟩

theorem report_decision (status : PoolStatus) (ended : PassEnd) (world : World) :
    ((report pool status ended).run world).1.decision =
      ended.summary?.or status.decision := by
  cases ended with
  | finished decision => rfl
  | startFailed fault decision => rfl
  | failed failure => rfl

/-- The decision that a visit leaves in a status counts few enough, apart from the waiting
jobs. -/
theorem reconcile_isCounted (status : PoolStatus) (world : World) :
    ((provisioner.reconcile pool status).run world).1.2.1.IsCounted := by
  rcases observe_leaves pool status.cleared world with ⟨cleared, shows⟩
  rw [reconcile, Act.run_bind]
  generalize (observe pool status.cleared).run world = result at cleared shows ⊢
  rcases result with ⟨⟨observed, count⟩, listed⟩
  have reported (ended : PassEnd) (between : World)
      (counted : ∀ summary, ended.summary? = some summary → summary.IsCounted) :
      ((report pool observed ended).run between).1.IsCounted := by
    intro summary decided
    rw [report_decision, cleared, PoolStatus.cleared, Option.or_none] at decided
    exact counted summary decided
  cases count with
  | error failure => exact reported (.failed failure) listed nofun
  | ok active =>
    rcases provisioner.pass_isCounted (shows active rfl) listed with ⟨_, _, counted⟩
    exact reported _ _ counted

end Provisioner

end RunnerFleet
