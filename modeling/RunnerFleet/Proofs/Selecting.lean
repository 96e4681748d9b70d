import RunnerFleet.Proofs.Starting

/-!
# What a survey picks

A survey that goes through all jobs picks exactly the jobs that are not passed over:
their ids have keys, no key is picked twice, and a key is picked if and only if some
job has it and the ledger does not say that a runner was requested recently.
-/

namespace RunnerFleet

/-- The keys of the jobs that candidates stand for. -/
def candidateKeys (candidates : List Candidate) : List Key :=
  jobKeys (candidates.map (·.job))

@[simp]
theorem jobKeys_cons_of_key {job : Job} {key : Key} (jobs : List Job)
    (named : job.id.key? = some key) :
    jobKeys (job :: jobs) = key :: jobKeys jobs := by
  simp [jobKeys, named]

/-- Candidates that are keyed by their ids have the keys of their jobs. -/
theorem candidateKeys_of_keyed
    {candidates : List Candidate}
    (keyed : ∀ candidate ∈ candidates, candidate.job.id.key? = some candidate.key) :
    candidateKeys candidates = candidates.map (·.key) := by
  induction candidates with
  | nil => rfl
  | cons candidate rest ih =>
    have first := keyed candidate List.mem_cons_self
    have later := ih fun other member => keyed other (List.mem_cons_of_mem _ member)
    rw [candidateKeys, List.map_cons, jobKeys_cons_of_key _ first, List.map_cons, ← later]
    rfl

theorem Value.key_eq_ok_iff {value : Value} {key : Key} :
    value.key = .ok key ↔ value.key? = some key := by
  unfold Value.key
  cases value.key? <;> simp

namespace Survey

variable {ledger : Ledger} {time : Float} {claimed : List Key} {job : Job} {rest : List Job}

theorem of_cons_of_key {key : Key} (named : job.id.key? = some key) :
    of ledger time claimed (job :: rest) =
      if key ∈ claimed then (of ledger time claimed rest).cons (.repeated job)
      else if ledger.verdict key time = .skip then
        (of ledger time claimed rest).cons (.recent job)
      else
        (of ledger time (key :: claimed) rest).cons
          (.picked ⟨job, key, ledger.verdict key time⟩) := by
  rw [of, Value.key_eq_ok_iff.mpr named]
  simp only [List.contains_iff_mem]
  cases ledger.verdict key time <;> simp

@[simp]
theorem failure?_cons (finding : Finding) (survey : Survey) :
    (survey.cons finding).failure? = survey.failure? :=
  rfl

@[simp]
theorem candidates_cons (finding : Finding) (survey : Survey) :
    (survey.cons finding).candidates = finding.candidate?.toList ++ survey.candidates := by
  cases finding <;> rfl

/-- A survey that gets through its jobs either passes the first one over, because its key
was picked before or a runner was requested for it recently, or picks it. -/
theorem of_cons_cases
    (through : (of ledger time claimed (job :: rest)).failure? = none) :
    ∃ key,
      job.id.key? = some key ∧
        (((key ∈ claimed ∨ ledger.verdict key time = .skip) ∧
            (of ledger time claimed rest).failure? = none ∧
              (of ledger time claimed (job :: rest)).candidates =
                (of ledger time claimed rest).candidates) ∨
          (key ∉ claimed ∧ ledger.verdict key time ≠ .skip ∧
            (of ledger time (key :: claimed) rest).failure? = none ∧
              (of ledger time claimed (job :: rest)).candidates =
                ⟨job, key, ledger.verdict key time⟩ ::
                  (of ledger time (key :: claimed) rest).candidates)) := by
  cases named : job.id.key? with
  | none => simp [of, Value.key, named] at through
  | some key =>
    refine ⟨key, rfl, ?_⟩
    rw [of_cons_of_key named] at through ⊢
    by_cases repeated : key ∈ claimed
    · simp only [if_pos repeated] at through ⊢
      exact .inl ⟨.inl repeated, through, by simp [Finding.candidate?]⟩
    · simp only [if_neg repeated] at through ⊢
      by_cases recent : ledger.verdict key time = .skip
      · simp only [if_pos recent] at through ⊢
        exact .inl ⟨.inr recent, through, by simp [Finding.candidate?]⟩
      · simp only [if_neg recent] at through ⊢
        exact .inr ⟨repeated, recent, through, by simp [Finding.candidate?]⟩

/-- A survey fails at the first job whose id has no key. -/
theorem of_failure?_eq_some
    {jobs : List Job}
    {failure : Failure}
    (failed : (of ledger time claimed jobs).failure? = some failure) :
    ∃ before job after,
      jobs = before ++ job :: after ∧
        (∀ earlier ∈ before, earlier.id.key? ≠ none) ∧
          job.id.key? = none ∧ failure = .clash (.noKey job.id) := by
  induction jobs generalizing claimed with
  | nil => cases failed
  | cons job rest ih =>
    cases named : job.id.key? with
    | none =>
      rw [of, Value.key, named] at failed
      cases failed
      exact ⟨[], job, rest, rfl, nofun, named, rfl⟩
    | some key =>
      have later : ∃ claimed, (of ledger time claimed rest).failure? = some failure := by
        rw [of_cons_of_key named] at failed
        split at failed
        · exact ⟨_, failed⟩
        · split at failed
          · exact ⟨_, failed⟩
          · exact ⟨_, failed⟩
      rcases later with ⟨claimed, failed⟩
      rcases ih failed with ⟨before, first, after, rfl, keyed, unkeyed, same⟩
      refine ⟨job :: before, first, after, rfl, ?_, unkeyed, same⟩
      rw [List.forall_mem_cons]
      exact ⟨by simp [named], keyed⟩

/-- A survey that gets through its jobs keys its candidates by their ids, and picks each
key at most once and none that was picked before. -/
theorem of_candidates_keyed
    {jobs : List Job}
    (through : (of ledger time claimed jobs).failure? = none) :
    (∀ candidate ∈ (of ledger time claimed jobs).candidates,
        candidate.job.id.key? = some candidate.key ∧ candidate.key ∉ claimed) ∧
      ((of ledger time claimed jobs).candidates.map (·.key)).Nodup := by
  induction jobs generalizing claimed with
  | nil => simp [of, candidates]
  | cons job rest ih =>
    rcases of_cons_cases through with
      ⟨key, named, ⟨_, later, same⟩ | ⟨unclaimed, _, later, picked⟩⟩
    · rw [same]
      exact ih later
    · rcases ih later with ⟨keyed, distinct⟩
      rw [picked]
      constructor
      · intro candidate member
        rcases List.mem_cons.mp member with rfl | member
        · exact ⟨named, unclaimed⟩
        · rcases keyed candidate member with ⟨own, fresh⟩
          exact ⟨own, fun known => fresh (List.mem_cons_of_mem _ known)⟩
      · rw [List.map_cons, List.nodup_cons]
        refine ⟨?_, distinct⟩
        intro member
        rcases List.mem_map.mp member with ⟨candidate, among, equal⟩
        exact (keyed candidate among).2 (equal ▸ List.mem_cons_self)

/-- A survey that gets through its jobs picks the keys of its jobs, but for those picked
before and those for which a runner was requested recently. -/
theorem of_candidates_iff
    {jobs : List Job}
    (through : (of ledger time claimed jobs).failure? = none)
    (key : Key) :
    key ∈ (of ledger time claimed jobs).candidates.map (·.key) ↔
      key ∈ jobKeys jobs ∧ key ∉ claimed ∧ ledger.verdict key time ≠ .skip := by
  induction jobs generalizing claimed with
  | nil => simp [of, candidates, jobKeys]
  | cons job rest ih =>
    rcases of_cons_cases through with
      ⟨first, named, ⟨passed, later, same⟩ | ⟨unclaimed, due, later, picked⟩⟩
    · rw [same, ih later, jobKeys_cons_of_key rest named]
      constructor
      · rintro ⟨member, rest⟩
        exact ⟨List.mem_cons_of_mem _ member, rest⟩
      · rintro ⟨member, fresh, due⟩
        rcases List.mem_cons.mp member with rfl | member
        · rcases passed with known | recent
          · exact absurd known fresh
          · exact absurd recent due
        · exact ⟨member, fresh, due⟩
    · rw [picked, List.map_cons, List.mem_cons, ih later, jobKeys_cons_of_key rest named]
      by_cases equal : key = first
      · subst equal
        simp [unclaimed, due]
      · simp [equal]

end Survey

/-! ## Prospects -/

/-- What a prospect comes to under a ledger: the survey of its jobs gets through, and the
candidates are what it picks. -/
structure Prospect.Surveyed (prospect : Prospect) (ledger : Ledger) : Prop where
  through : (ledger.survey prospect.time prospect.jobs).failure? = none
  candidates : prospect.candidates = (ledger.survey prospect.time prospect.jobs).candidates

namespace Prospect.Surveyed

variable {prospect : Prospect} {ledger : Ledger}

theorem keyed (surveyed : prospect.Surveyed ledger) :
    ∀ candidate ∈ prospect.candidates,
      candidate.job.id.key? = some candidate.key := by
  rw [surveyed.candidates]
  intro candidate member
  exact ((Survey.of_candidates_keyed surveyed.through).1 candidate member).1

theorem candidateKeys (surveyed : prospect.Surveyed ledger) :
    candidateKeys prospect.candidates = prospect.candidates.map (·.key) :=
  candidateKeys_of_keyed surveyed.keyed

theorem nodup_keys (surveyed : prospect.Surveyed ledger) :
    (prospect.candidates.map (·.key)).Nodup := by
  rw [surveyed.candidates]
  exact (Survey.of_candidates_keyed surveyed.through).2

theorem mem_keys_iff (surveyed : prospect.Surveyed ledger) (key : Key) :
    key ∈ prospect.candidates.map (·.key) ↔
      key ∈ jobKeys prospect.jobs ∧ ledger.verdict key prospect.time ≠ .skip := by
  rw [surveyed.candidates, Ledger.survey, Survey.of_candidates_iff surveyed.through]
  simp

end Prospect.Surveyed

namespace Provisioner

variable (provisioner : Provisioner) (pool : Pool)

/-- How the picking of candidates goes, given how the fetch went: it fails with the fetch or
with the survey of the fetched jobs, or it yields what the survey picks. -/
inductive Prospecting :
    Except Failure (List Job) → Except Failure Prospect → Prop where
  | unfetched (failure : Failure) : Prospecting (.error failure) (.error failure)
  | unsurveyed
      (jobs : List Job)
      (time : Float)
      (failure : Failure)
      (failed : (provisioner.ledger.survey time jobs).failure? = some failure) :
      Prospecting (.ok jobs) (.error failure)
  | surveyed
      (prospect : Prospect)
      (surveyed : prospect.Surveyed provisioner.ledger) :
      Prospecting (.ok prospect.jobs) (.ok prospect)

/-- The picking of candidates makes the calls of the fetch and goes on from what it yields. -/
theorem prospect_does
    {world : World}
    {condition : Except Failure (List Job) → List Call → Prop}
    (fetches :
      ∀ noted : World,
        noted.outside = world.outside → noted.moment = world.moment →
          Act.Does (provisioner.fetch pool).run noted fun fetched calls _ =>
            condition fetched calls) :
    Act.Does (provisioner.prospect pool).run world fun outcome calls _ =>
      ∃ fetched, condition fetched calls ∧ provisioner.Prospecting fetched outcome := by
  refine Act.Does.attempt_bind (Act.Does.attempt_lift (Act.Does.noteAll ?_))
  apply Act.Does.attempt_bind
  apply (fetches _ ?_ ?_).mono
  · intro outcome calls after _ holds
    cases outcome with
    | error failure => exact ⟨.error failure, holds, .unfetched failure⟩
    | ok jobs =>
      refine Act.Does.attempt_bind (Act.Does.attempt_lift (Act.Does.now ?_))
      refine Act.Does.attempt_bind (Act.Does.attempt_lift (Act.Does.noteAll ?_))
      have holds : condition (.ok jobs) ([] ++ (calls ++ ([] ++ ([] ++ [])))) := by
        simpa using holds
      dsimp only
      split
      next failure failed =>
        exact Act.Does.pure ⟨.ok jobs, holds, .unsurveyed jobs _ failure failed⟩
      next through =>
        refine Act.Does.pure ⟨.ok jobs, holds, .surveyed ⟨jobs, after.clock, _⟩ ⟨through, rfl⟩⟩
  · rfl
  · rfl

/-- The picking of candidates yields what a survey of the fetched jobs at the time after
the fetch picks. -/
theorem prospect_surveyed (world : World) :
    Act.Does (provisioner.prospect pool).run world fun outcome _ _ =>
      ∀ prospect, outcome = .ok prospect → prospect.Surveyed provisioner.ledger := by
  have fetches (noted : World) :
      Act.Does (provisioner.fetch pool).run noted fun _ _ _ => True := by
    rcases provisioner.fetch_asksUntil pool noted with ⟨⟨asked, follows, _⟩, _⟩
    exact ⟨asked, follows, trivial⟩
  apply (provisioner.prospect_does pool fun noted _ _ => fetches noted).mono
  rintro outcome calls after _ ⟨_, _, prospecting⟩ prospect reached
  cases prospecting with
  | unfetched failure => cases reached
  | unsurveyed jobs time failure failed => cases reached
  | surveyed other surveyed =>
    cases reached
    exact surveyed

/-- A pass that gets as far as a prospect has picked its candidates. -/
theorem run_of_prospect?
    {active : Int}
    {world : World}
    {prospect : Prospect}
    (found : provisioner.prospect? pool active world = some prospect) :
    ((provisioner.prospect pool).run.run world).1 = .ok prospect := by
  simp only [prospect?] at found
  split at found
  · cases found
  · cases outcome : ((provisioner.prospect pool).run.run world).1 with
    | error failure => simp [outcome, Except.toOption] at found
    | ok reached =>
      have same : reached = prospect := by
        simpa [outcome, Except.toOption] using found
      rw [same]

theorem surveyed_of_prospect?
    {active : Int}
    {world : World}
    {prospect : Prospect}
    (found : provisioner.prospect? pool active world = some prospect) :
    prospect.Surveyed provisioner.ledger := by
  rcases provisioner.prospect_surveyed pool world with ⟨_, _, surveyed⟩
  exact surveyed prospect (provisioner.run_of_prospect? pool found)

end Provisioner

end RunnerFleet
