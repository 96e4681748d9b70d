import Mathlib.Data.List.Forall2
import RunnerFleet.Proofs.Resuming

/-!
# Where candidates are picked

A candidate is due at a place among jobs if it is made from the job there, the ledger does
not say that a runner was requested for it recently, and no earlier job has the same key.
The candidates of a ledger are those that are due, in the order of their places.  Neither
repeats of a job nor jobs with a recent request make a difference to them.
-/

namespace RunnerFleet

/-! ## Places -/

/-- A candidate that is picked at a place among jobs. -/
structure Ledger.DueAt
    (ledger : Ledger)
    (now : Float)
    (jobs : List Job)
    (place : Nat)
    (candidate : Candidate) : Prop where
  listed : jobs[place]? = some candidate.job
  keyed : candidate.job.id.key? = some candidate.key
  verdict : candidate.verdict = ledger.verdict candidate.key now
  due : ledger.verdict candidate.key now ≠ .skip
  first : candidate.key ∉ jobKeys (jobs.take place)

/-- The places at which candidates are picked, in order, and what is picked there. -/
structure Ledger.Picks
    (ledger : Ledger)
    (now : Float)
    (jobs : List Job)
    (places : List Nat)
    (picked : List Candidate) : Prop where
  ordered : places.Pairwise (· < ·)
  due : List.Forall₂ (ledger.DueAt now jobs) places picked
  complete : ∀ place candidate, ledger.DueAt now jobs place candidate → place ∈ places

/-- Whether a runner may be requested for a job at a time. -/
def Ledger.isDue (ledger : Ledger) (now : Float) (job : Job) : Bool :=
  job.id.key?.map (ledger.verdict · now) != some .skip

/-- Fewer jobs, in which some of those are missing whose keys came earlier.  The first list
holds the keys that came before the jobs. -/
inductive DropsRepeats : List Key → List Job → List Job → Prop where
  | nil (seen : List Key) : DropsRepeats seen [] []
  | keep
      {seen : List Key}
      {job : Job}
      {key : Key}
      {jobs fewer : List Job}
      (named : job.id.key? = some key)
      (rest : DropsRepeats (key :: seen) jobs fewer) :
      DropsRepeats seen (job :: jobs) (job :: fewer)
  | drop
      {seen : List Key}
      {job : Job}
      {key : Key}
      {jobs fewer : List Job}
      (named : job.id.key? = some key)
      (repeated : key ∈ seen)
      (rest : DropsRepeats seen jobs fewer) :
      DropsRepeats seen (job :: jobs) fewer

section Places

variable
  {ledger : Ledger}
  {now : Float}
  {job : Job}
  {key : Key}
  {jobs : List Job}
  {place : Nat}
  {candidate : Candidate}

theorem Ledger.dueAt_nil : ¬ ledger.DueAt now [] place candidate := by
  intro due
  cases due.listed

/-- The first job is picked unless a runner was requested for it recently. -/
theorem Ledger.dueAt_zero (named : job.id.key? = some key) :
    ledger.DueAt now (job :: jobs) 0 candidate ↔
      candidate = ⟨job, key, ledger.verdict key now⟩ ∧ ledger.verdict key now ≠ .skip := by
  rcases candidate with ⟨own, ownKey, verdict⟩
  constructor
  · intro due
    have same : job = own := by simpa using due.listed
    subst same
    have keyed : key = ownKey := Option.some.inj (named.symm.trans due.keyed)
    subst keyed
    rw [Candidate.mk.injEq]
    exact ⟨⟨rfl, rfl, due.verdict⟩, due.due⟩
  · rintro ⟨equal, due⟩
    cases equal
    exact ⟨rfl, named, rfl, due, by simp [jobKeys]⟩

/-- A later job is picked where it is among the later ones, unless it is the first again. -/
theorem Ledger.dueAt_succ (named : job.id.key? = some key) :
    ledger.DueAt now (job :: jobs) (place + 1) candidate ↔
      ledger.DueAt now jobs place candidate ∧ candidate.key ≠ key := by
  have keys : jobKeys ((job :: jobs).take (place + 1)) = key :: jobKeys (jobs.take place) := by
    rw [List.take_succ_cons, jobKeys_cons_of_key _ named]
  constructor
  · intro due
    have first := due.first
    rw [keys, List.mem_cons, not_or] at first
    exact ⟨⟨due.listed, due.keyed, due.verdict, due.due, first.2⟩, first.1⟩
  · rintro ⟨due, differs⟩
    have first : candidate.key ∉ jobKeys ((job :: jobs).take (place + 1)) := by
      rw [keys, List.mem_cons, not_or]
      exact ⟨differs, due.first⟩
    exact ⟨due.listed, due.keyed, due.verdict, due.due, first⟩

end Places

/-! ## Surveys -/

namespace Survey

variable {ledger : Ledger} {now : Float} {claimed : List Key}

/-- The places at which candidates are picked whose keys are not claimed, in order, and what is
picked there. -/
structure PicksUnclaimed
    (ledger : Ledger)
    (now : Float)
    (claimed : List Key)
    (jobs : List Job)
    (places : List Nat)
    (picked : List Candidate) : Prop where
  ordered : places.Pairwise (· < ·)
  due :
    List.Forall₂
      (fun place candidate =>
        ledger.DueAt now jobs place candidate ∧ candidate.key ∉ claimed)
      places picked
  complete :
    ∀ place candidate,
      ledger.DueAt now jobs place candidate → candidate.key ∉ claimed → place ∈ places

namespace PicksUnclaimed

variable
  {job : Job}
  {key : Key}
  {rest : List Job}
  {places : List Nat}
  {picked : List Candidate}

/-- Nothing is picked at a first job that is passed over, and what is picked later has another
key. -/
theorem pass
    (named : job.id.key? = some key)
    (passed : key ∈ claimed ∨ ledger.verdict key now = .skip)
    (picks : PicksUnclaimed ledger now claimed rest places picked) :
    PicksUnclaimed ledger now claimed (job :: rest) (places.map (· + 1)) picked where
  ordered := picks.ordered.map _ fun _ _ less => Nat.succ_lt_succ less
  due := by
    rw [List.forall₂_map_left_iff]
    apply picks.due.imp
    rintro place candidate ⟨here, fresh⟩
    have differs : candidate.key ≠ key := by
      rintro rfl
      rcases passed with known | recent
      · exact fresh known
      · exact here.due recent
    exact ⟨(Ledger.dueAt_succ named).mpr ⟨here, differs⟩, fresh⟩
  complete := by
    intro place candidate here fresh
    cases place with
    | zero =>
      rcases (Ledger.dueAt_zero named).mp here with ⟨rfl, unskipped⟩
      rcases passed with known | recent
      · exact absurd known fresh
      · exact absurd recent unskipped
    | succ place =>
      have among := picks.complete place candidate ((Ledger.dueAt_succ named).mp here).1 fresh
      exact List.mem_map_of_mem among

/-- A first job is picked, and what is picked later has a key that neither is claimed nor is its
own. -/
theorem pick
    (named : job.id.key? = some key)
    (unclaimed : key ∉ claimed)
    (isDue : ledger.verdict key now ≠ .skip)
    (picks : PicksUnclaimed ledger now (key :: claimed) rest places picked) :
    PicksUnclaimed ledger now claimed (job :: rest) (0 :: places.map (· + 1))
      (⟨job, key, ledger.verdict key now⟩ :: picked) where
  ordered := by
    rw [List.pairwise_cons]
    constructor
    · intro place member
      rcases List.mem_map.mp member with ⟨other, _, rfl⟩
      exact Nat.succ_pos other
    · exact picks.ordered.map _ fun _ _ less => Nat.succ_lt_succ less
  due := by
    constructor
    · exact ⟨(Ledger.dueAt_zero named).mpr ⟨rfl, isDue⟩, unclaimed⟩
    · rw [List.forall₂_map_left_iff]
      apply picks.due.imp
      rintro place candidate ⟨here, fresh⟩
      rw [List.mem_cons, not_or] at fresh
      exact ⟨(Ledger.dueAt_succ named).mpr ⟨here, fresh.1⟩, fresh.2⟩
  complete := by
    intro place candidate here fresh
    cases place with
    | zero => exact List.mem_cons_self
    | succ place =>
      rcases (Ledger.dueAt_succ named).mp here with ⟨here, differs⟩
      have unpicked : candidate.key ∉ key :: claimed := by
        rw [List.mem_cons, not_or]
        exact ⟨differs, fresh⟩
      have among := picks.complete place candidate here unpicked
      exact List.mem_cons_of_mem _ (List.mem_map_of_mem among)

end PicksUnclaimed

/-- A survey picks at the places where a candidate is due that was not picked before. -/
theorem of_picks
    {jobs : List Job}
    (through : (of ledger now claimed jobs).failure? = none) :
    ∃ places,
      PicksUnclaimed ledger now claimed jobs places (of ledger now claimed jobs).candidates := by
  induction jobs generalizing claimed with
  | nil => exact ⟨[], .nil, .nil, fun _ _ due => absurd due Ledger.dueAt_nil⟩
  | cons job rest ih =>
    rcases of_cons_cases through with
      ⟨key, named, ⟨passed, later, same⟩ | ⟨unclaimed, isDue, later, picked⟩⟩
    · rcases ih later with ⟨places, picks⟩
      rw [same]
      exact ⟨_, picks.pass named passed⟩
    · rcases ih later with ⟨places, picks⟩
      rw [picked]
      exact ⟨_, picks.pick named unclaimed isDue⟩

/-- A job is passed over if its key was picked before or had a recent request. -/
theorem candidates_of_passed
    {job : Job}
    {key : Key}
    (named : job.id.key? = some key)
    (passed : key ∈ claimed ∨ ledger.verdict key now = .skip)
    (rest : List Job) :
    (of ledger now claimed (job :: rest)).candidates = (of ledger now claimed rest).candidates := by
  rw [of_cons_of_key named]
  split
  next => rw [candidates_cons]; rfl
  next unclaimed => rw [if_pos (passed.resolve_left unclaimed), candidates_cons]; rfl

/-- Any other job is picked. -/
theorem candidates_of_due
    {job : Job}
    {key : Key}
    (named : job.id.key? = some key)
    (unclaimed : key ∉ claimed)
    (due : ledger.verdict key now ≠ .skip)
    (rest : List Job) :
    (of ledger now claimed (job :: rest)).candidates =
      ⟨job, key, ledger.verdict key now⟩ ::
        (of ledger now (key :: claimed) rest).candidates := by
  rw [of_cons_of_key named, if_neg unclaimed, if_neg due, candidates_cons]
  rfl

/-- Repeats make no difference to what a survey picks, if of the keys that came before the
jobs each was picked or had a recent request. -/
theorem candidates_of_dropsRepeats
    {seen : List Key}
    {jobs fewer : List Job}
    (drops : DropsRepeats seen jobs fewer)
    (settled : ∀ key ∈ seen, key ∈ claimed ∨ ledger.verdict key now = .skip) :
    (of ledger now claimed fewer).candidates = (of ledger now claimed jobs).candidates := by
  induction drops generalizing claimed with
  | nil => rfl
  | @keep seen job key jobs fewer named _ ih =>
    by_cases passed : key ∈ claimed ∨ ledger.verdict key now = .skip
    · rw [candidates_of_passed named passed, candidates_of_passed named passed,
        ih (List.forall_mem_cons.mpr ⟨passed, settled⟩)]
    · rw [not_or] at passed
      rw [candidates_of_due named passed.1 passed.2, candidates_of_due named passed.1 passed.2, ih]
      rw [List.forall_mem_cons]
      constructor
      · exact .inl List.mem_cons_self
      · intro other member
        exact (settled other member).imp_left (List.mem_cons_of_mem _)
  | drop named repeated _ ih =>
    rw [ih settled, candidates_of_passed named (settled _ repeated)]

/-- Jobs with a recent request make no difference to what a survey picks. -/
theorem candidates_of_filter_isDue
    {jobs : List Job}
    (named : ∀ job ∈ jobs, ∃ key, job.id.key? = some key) :
    (of ledger now claimed (jobs.filter (ledger.isDue now))).candidates =
      (of ledger now claimed jobs).candidates := by
  induction jobs generalizing claimed with
  | nil => rfl
  | cons job rest ih =>
    rcases List.forall_mem_cons.mp named with ⟨⟨key, own⟩, later⟩
    by_cases recent : ledger.verdict key now = .skip
    · have dropped : ¬ ledger.isDue now job = true := by simp [Ledger.isDue, own, recent]
      rw [List.filter_cons_of_neg dropped, ih later, candidates_of_passed own (.inr recent)]
    · have kept : ledger.isDue now job = true := by simp [Ledger.isDue, own, recent]
      rw [List.filter_cons_of_pos kept]
      by_cases known : key ∈ claimed
      · rw [candidates_of_passed own (.inl known), candidates_of_passed own (.inl known), ih later]
      · rw [candidates_of_due own known recent, candidates_of_due own known recent, ih later]

end Survey

/-! ## Ledgers -/

namespace Ledger

variable (ledger : Ledger) (now : Float)

theorem candidates_eq_ok
    {jobs : List Job}
    (named : ∀ job ∈ jobs, ∃ key, job.id.key? = some key) :
    ledger.candidates now jobs = .ok (ledger.survey now jobs).candidates := by
  have through : (ledger.survey now jobs).failure? = none :=
    Survey.failure?_of_eq_none named []
  simp only [candidates, through]

/-- A survey that gets through its jobs picks each candidate at its place. -/
theorem survey_picks
    {jobs : List Job}
    (through : (ledger.survey now jobs).failure? = none) :
    ∃ places, ledger.Picks now jobs places (ledger.survey now jobs).candidates := by
  rcases Survey.of_picks through with ⟨places, picks⟩
  refine ⟨places, picks.ordered, ?_, ?_⟩
  · exact picks.due.imp fun _ _ here => here.1
  · intro place candidate here
    exact picks.complete place candidate here List.not_mem_nil

end Ledger

/-- The candidates of a prospect are picked from its jobs. -/
theorem Prospect.Surveyed.picks
    {prospect : Prospect}
    {ledger : Ledger}
    (surveyed : prospect.Surveyed ledger) :
    ∃ places, ledger.Picks prospect.time prospect.jobs places prospect.candidates := by
  rw [surveyed.candidates]
  exact ledger.survey_picks prospect.time surveyed.through

theorem DropsRepeats.sublist
    {seen : List Key}
    {jobs fewer : List Job}
    (drops : DropsRepeats seen jobs fewer) :
    fewer.Sublist jobs := by
  induction drops with
  | nil => exact List.Sublist.refl []
  | keep _ _ ih => exact ih.cons_cons _
  | drop _ _ _ ih => exact ih.cons _

/-- Each eligible job is picked once, where it comes first, and in order.

If the ids of jobs have keys, the candidates are those that are due at some place, one for
each such place and in the order of the places; their keys are different.  A list without
some later repeats of ids, and one without the jobs that had a recent request, have the same
candidates. -/
theorem Ledger.candidates_of_named
    (ledger : Ledger)
    (now : Float)
    (jobs : List Job)
    (named : ∀ job ∈ jobs, ∃ key, job.id.key? = some key) :
    ∃ picked,
      ledger.candidates now jobs = .ok picked ∧
        (∃ places, ledger.Picks now jobs places picked) ∧
        (picked.map (·.key)).Nodup ∧
        (∀ fewer, DropsRepeats [] jobs fewer → ledger.candidates now fewer = .ok picked) ∧
        ledger.candidates now (jobs.filter (ledger.isDue now)) = .ok picked := by
  have through : (ledger.survey now jobs).failure? = none :=
    Survey.failure?_of_eq_none named []
  refine ⟨(ledger.survey now jobs).candidates, ledger.candidates_eq_ok now named,
    ledger.survey_picks now through, (Survey.of_candidates_keyed through).2, ?_, ?_⟩
  · intro fewer drops
    have fewerNamed : ∀ job ∈ fewer, ∃ key, job.id.key? = some key :=
      fun job member => named job (drops.sublist.subset member)
    have same : (ledger.survey now fewer).candidates = (ledger.survey now jobs).candidates :=
      Survey.candidates_of_dropsRepeats drops (by simp)
    rw [ledger.candidates_eq_ok now fewerNamed, same]
  · have dueNamed : ∀ job ∈ jobs.filter (ledger.isDue now), ∃ key, job.id.key? = some key :=
      fun job member => named job (List.mem_filter.mp member).1
    have same :
        (ledger.survey now (jobs.filter (ledger.isDue now))).candidates =
          (ledger.survey now jobs).candidates :=
      Survey.candidates_of_filter_isDue named
    rw [ledger.candidates_eq_ok now dueNamed, same]

/-- Jobs whose ids are numbers of several kinds and a text: the integer seven occurs again
as a real, and the truth value as an integer. -/
def Job.mixed : List Job :=
  [.int 7, .int 5, .real 7.0, .bool true, .text "1", .int 1, .int 8].map fun id =>
    { Job.numbered 0 with id }

/-- A job with a recent request and two repeats are passed over. -/
theorem Ledger.candidates_of_named_mixed :
    (∀ job ∈ Job.mixed, ∃ key, job.id.key? = some key) ∧
      ∃ picked,
        Provisioner.used.ledger.candidates 1000.0 Job.mixed = .ok picked ∧
          (∃ places, Provisioner.used.ledger.Picks 1000.0 Job.mixed places picked) ∧
            picked.map (fun candidate => (candidate.key, candidate.verdict)) =
              [(.number 7 0, .fresh), (.number 1 0, .fresh), (.text "1", .fresh),
                (.number 8 0, .retry)] ∧
              (∀ fewer, DropsRepeats [] Job.mixed fewer →
                Provisioner.used.ledger.candidates 1000.0 fewer = .ok picked) ∧
                Provisioner.used.ledger.candidates 1000.0
                  (Job.mixed.filter (Provisioner.used.ledger.isDue 1000.0)) = .ok picked := by
  have named : ∀ job ∈ Job.mixed, ∃ key, job.id.key? = some key := by
    have keyed : ∀ job ∈ Job.mixed, job.id.key?.isSome := by decide +kernel
    intro job member
    exact Option.isSome_iff_exists.mp (keyed job member)
  rcases Ledger.candidates_of_named Provisioner.used.ledger 1000.0 Job.mixed named with
    ⟨picked, selected, places, _, fewer, due⟩
  refine ⟨named, picked, selected, places, ?_, fewer, due⟩
  cases selected
  decide +kernel

end RunnerFleet
