import Mathlib.Data.List.Induction
import RunnerFleet.Proofs.Deduplication
import RunnerFleet.Value.Equality

/-!
# Passes resume where the last one stopped

As long as the same jobs are fetched and no request grows too old, the passes of a
provisioner work off one list: the candidates that were there at first.  Each pass finds
the rest of that list, and whatever ends its starting, the next pass goes on with the
first candidate for which no runner was started.

The invariant is that the candidates at first are those for which runners were started so
far followed by those that the next pass finds.
-/

namespace RunnerFleet

/-! ## Surveys of the same jobs -/

namespace Survey

theorem failure?_of_eq_none
    {ledger : Ledger}
    {time : Float}
    {jobs : List Job}
    (named : ∀ job ∈ jobs, ∃ key, job.id.key? = some key)
    (claimed : List Key) :
    (of ledger time claimed jobs).failure? = none := by
  induction jobs generalizing claimed with
  | nil => rfl
  | cons job rest ih =>
    rcases List.forall_mem_cons.mp named with ⟨⟨key, own⟩, later⟩
    rw [of_cons_of_key own]
    split
    · exact ih later claimed
    · split
      · exact ih later claimed
      · exact ih later (key :: claimed)

/-- A ledger that says of some more keys that runners were requested recently, and of all
others what it said before, leaves the other candidates as they were. -/
theorem candidates_of_done
    {earlier later : Ledger}
    {first time : Float}
    {done claimed reclaimed : List Key}
    {jobs : List Job}
    (named : ∀ job ∈ jobs, ∃ key, job.id.key? = some key)
    (recent : ∀ key ∈ jobKeys jobs, key ∈ done → later.verdict key time = .skip)
    (alike :
      ∀ key ∈ jobKeys jobs, key ∉ done → later.verdict key time = earlier.verdict key first)
    (claims : ∀ key, key ∉ done → (key ∈ reclaimed ↔ key ∈ claimed)) :
    (of later time reclaimed jobs).candidates =
      (of earlier first claimed jobs).candidates.filter (·.key ∉ done) := by
  induction jobs generalizing claimed reclaimed with
  | nil => rfl
  | cons job rest ih =>
    rcases List.forall_mem_cons.mp named with ⟨⟨key, own⟩, others⟩
    rw [jobKeys_cons_of_key rest own, List.forall_mem_cons] at recent alike
    rcases recent with ⟨recent, recents⟩
    rcases alike with ⟨alike, alikes⟩
    rw [of_cons_of_key own, of_cons_of_key own]
    by_cases started : key ∈ done
    · have passed :
          (if key ∈ reclaimed then (of later time reclaimed rest).cons (.repeated job)
            else if later.verdict key time = .skip then
              (of later time reclaimed rest).cons (.recent job)
            else
              (of later time (key :: reclaimed) rest).cons
                (.picked ⟨job, key, later.verdict key time⟩)).candidates =
            (of later time reclaimed rest).candidates := by
        rw [if_pos (recent started)]
        split
        · exact candidates_cons _ _
        · exact candidates_cons _ _
      rw [passed]
      split
      · rw [candidates_cons]
        exact ih others recents alikes claims
      · split
        · rw [candidates_cons]
          exact ih others recents alikes claims
        · have claimsAfter :
              ∀ other, other ∉ done → (other ∈ reclaimed ↔ other ∈ key :: claimed) := by
            intro other unstarted
            have differs : other ≠ key := fun equal => unstarted (equal ▸ started)
            rw [claims other unstarted, List.mem_cons, or_iff_right differs]
          rw [candidates_cons, ih others recents alikes claimsAfter]
          simp [Finding.candidate?, started]
    · rw [alike started]
      by_cases known : key ∈ claimed
      · rw [if_pos ((claims key started).mpr known), if_pos known, candidates_cons,
          candidates_cons]
        exact ih others recents alikes claims
      · rw [if_neg fun also => known ((claims key started).mp also), if_neg known]
        split
        · rw [candidates_cons, candidates_cons]
          exact ih others recents alikes claims
        · have claimsAfter :
              ∀ other, other ∉ done → (other ∈ key :: reclaimed ↔ other ∈ key :: claimed) := by
            intro other unstarted
            rw [List.mem_cons, List.mem_cons, claims other unstarted]
          rw [candidates_cons, candidates_cons, ih others recents alikes claimsAfter]
          simp [Finding.candidate?, started]

end Survey

/-! ## What was launched -/

namespace Episode

/-- The candidates for which episodes started runners, in order. -/
def launched (episodes : List Episode) : List Candidate :=
  episodes.flatMap fun episode => episode.starts.map (·.candidate)

@[simp]
theorem launched_nil : launched [] = [] :=
  rfl

@[simp]
theorem launched_append (first second : List Episode) :
    launched (first ++ second) = launched first ++ launched second :=
  List.flatMap_append

theorem mem_launched_iff {episodes : List Episode} {key : Key} :
    key ∈ (launched episodes).map (·.key) ↔
      ∃ episode ∈ episodes, key ∈ episode.starts.map (·.candidate.key) := by
  simp only [launched, List.map_flatMap, List.mem_flatMap, List.map_map, Function.comp_def]

/-- Runners are started for the first candidates of a prospect. -/
theorem launched_of_prospect
    {episode : Episode}
    {prospect : Prospect}
    (found : episode.prospect? = some prospect) :
    launched [episode] = prospect.candidates.take episode.started.length := by
  simp [launched, starts, found, prospect.candidates_starts]

theorem launched_of_no_prospect {episode : Episode} (none : episode.prospect? = none) :
    launched [episode] = [] := by
  simp [launched, starts, none]

/-- The time by which a job is known through episodes that all find it queued: that of one
of its starts, if there are any. -/
theorem foldl_carry_of_queued
    {episodes : List Episode}
    {key : Key}
    (queued : ∀ episode ∈ episodes, episode.misses key = false)
    (before : Option Float) :
    (key ∉ (launched episodes).map (·.key) → episodes.foldl (carry key) before = before) ∧
      (key ∈ (launched episodes).map (·.key) →
        ∃ episode ∈ episodes, ∃ start ∈ episode.starts,
          episodes.foldl (carry key) before = some start.time) := by
  have kept (later : List Episode) (part : ∀ episode ∈ later, episode ∈ episodes) :
      later.any (·.misses key) = false := by
    rw [List.any_eq_false]
    intro episode member
    rw [queued episode (part episode member)]
    exact Bool.false_ne_true
  constructor
  · intro unlaunched
    have unstarted : ∀ episode ∈ episodes, episode.startTime? key = none := by
      intro episode member
      rw [startTime?, startTime?_eq_none_iff]
      intro among
      exact unlaunched (mem_launched_iff.mpr ⟨episode, member, among⟩)
    rw [foldl_carry_of_unstarted unstarted, kept episodes fun _ member => member]
    rfl
  · intro launched
    rcases unstarted_or_last episodes key with
      unstarted | ⟨before, last, after, time, rfl, starts, unstarted⟩
    · rcases mem_launched_iff.mp launched with ⟨episode, member, among⟩
      exact absurd among (startTime?_eq_none_iff.mp (unstarted episode member))
    · rw [foldl_carry_of_last starts unstarted, kept after (by simp +contextual)]
      rcases Option.map_eq_some_iff.mp starts with ⟨start, found, rfl⟩
      exact ⟨last, by simp, start, List.mem_of_find?_eq_some found, rfl⟩

end Episode

/-- Without the first candidates of a list the rest is left, if no key is repeated. -/
theorem filter_unlaunched
    {done rest : List Candidate}
    (distinct : ((done ++ rest).map (·.key)).Nodup) :
    (done ++ rest).filter (·.key ∉ done.map (·.key)) = rest := by
  rw [List.map_append, List.nodup_append] at distinct
  rcases distinct with ⟨_, _, disjoint⟩
  have gone : done.filter (·.key ∉ done.map (·.key)) = [] := by
    rw [List.filter_eq_nil_iff]
    intro candidate member
    simpa using ⟨candidate, member, rfl⟩
  have kept : rest.filter (·.key ∉ done.map (·.key)) = rest := by
    rw [List.filter_eq_self]
    intro candidate member
    rw [decide_eq_true_iff]
    intro among
    exact disjoint _ among _ (List.mem_map_of_mem member) rfl
  rw [List.filter_append, gone, kept, List.nil_append]

/-! ## Passes over one queue -/

namespace Provisioner

variable (provisioner : Provisioner)

theorem episodes_append (first second : List Occasion) :
    provisioner.episodes (first ++ second) =
      provisioner.episodes first ++ (provisioner.afterPasses first).episodes second := by
  induction first generalizing provisioner with
  | nil => rfl
  | cons occasion rest ih =>
    rw [List.cons_append, episodes, episodes, List.cons_append, ih]
    rfl

/-- Passes over one queue, from the time of a first reading on: whoever gets that far
fetches the same jobs, the requests on record at the start count or not as they did at the
first reading, and the requests made since then all count. -/
structure Steady (occasions : List Occasion) (jobs : List Job) (first : Float) : Prop where
  fetched :
    ∀ episode ∈ provisioner.episodes occasions, ∀ prospect,
      episode.prospect? = some prospect → prospect.jobs = jobs
  unaged :
    ∀ episode ∈ provisioner.episodes occasions, ∀ prospect,
      episode.prospect? = some prospect →
        ∀ key time, provisioner.ledger.time? key = some time →
          (prospect.time - time < provisioner.ledger.lifetime ↔
            first - time < provisioner.ledger.lifetime)
  counting :
    ∀ before episode after,
      provisioner.episodes occasions = before ++ episode :: after →
        ∀ prospect, episode.prospect? = some prospect →
          ∀ earlier ∈ before, ∀ start ∈ earlier.starts,
            prospect.time - start.time < provisioner.ledger.lifetime

namespace Steady

variable
  {provisioner : Provisioner}
  {occasions : List Occasion}
  {jobs : List Job}
  {first : Float}
  (steady : provisioner.Steady occasions jobs first)

section

variable
  {before after : List Occasion}
  {occasion : Occasion}
  (split : occasions = before ++ occasion :: after)
  {prospect : Prospect}
  (found :
    ((provisioner.afterPasses before).episode occasion).prospect? = some prospect)

include steady split found

/-- When a pass picks its candidates, the jobs that were launched are passed over, and the
ledger says of every other job what it said at first. -/
theorem verdict {key : Key} (queued : key ∈ jobKeys jobs) :
    let launched := (Episode.launched (provisioner.episodes before)).map (·.key)
    let verdict := (provisioner.afterPasses before).ledger.verdict key prospect.time
    (key ∈ launched → verdict = .skip) ∧
      (key ∉ launched → verdict = provisioner.ledger.verdict key first) := by
  have parts :
      provisioner.episodes occasions =
        provisioner.episodes before ++
          (provisioner.afterPasses before).episode occasion ::
            ((provisioner.afterPasses before).afterPass occasion).episodes after := by
    rw [split, episodes_append]
    rfl
  have stillQueued : ∀ episode ∈ provisioner.episodes before, episode.misses key = false := by
    intro episode member
    cases reached : episode.prospect? with
    | none => simp [Episode.misses, reached]
    | some other =>
      have same := steady.fetched episode (by simp [parts, member]) other reached
      simp [Episode.misses, reached, same, queued]
  rcases Episode.foldl_carry_of_queued stillQueued (provisioner.ledger.time? key) with
    ⟨unlaunched, launched⟩
  simp only [Ledger.verdict, time?_afterPasses, lifetime_afterPasses]
  constructor
  · intro among
    rcases launched among with ⟨episode, member, start, made, known⟩
    have counts := steady.counting _ _ _ parts prospect found episode member start made
    simp only [known, if_pos counts]
  · intro free
    rw [unlaunched free]
    cases known : provisioner.ledger.time? key with
    | none => rfl
    | some time =>
      have alike :=
        steady.unaged _ (by simp [parts]) prospect found key time known
      simp only [alike]

theorem candidates_eq_filter
    (named : ∀ job ∈ jobs, ∃ key, job.id.key? = some key) :
    prospect.candidates =
      (provisioner.ledger.survey first jobs).candidates.filter
        (·.key ∉ (Episode.launched (provisioner.episodes before)).map (·.key)) := by
  have surveyed := (provisioner.afterPasses before).surveyed_of_prospect? occasion.pool found
  have same : prospect.jobs = jobs :=
    steady.fetched _ (by simp [split, episodes_append, episodes]) prospect found
  rw [surveyed.candidates, same]
  exact Survey.candidates_of_done named
    (fun key queued => (steady.verdict split found queued).1)
    (fun key queued => (steady.verdict split found queued).2)
    (fun _ _ => Iff.rfl)

end

variable (named : ∀ job ∈ jobs, ∃ key, job.id.key? = some key)

include steady named

/-- What was launched so far, followed by what the next pass finds, is what was there at
first. -/
theorem launched_append_candidates
    {before after : List Occasion}
    {occasion : Occasion}
    (split : occasions = before ++ occasion :: after)
    (resumed :
      Episode.launched (provisioner.episodes before) <+:
        (provisioner.ledger.survey first jobs).candidates)
    {prospect : Prospect}
    (found :
      ((provisioner.afterPasses before).episode occasion).prospect? = some prospect) :
    Episode.launched (provisioner.episodes before) ++ prospect.candidates =
      (provisioner.ledger.survey first jobs).candidates := by
  have distinct : ((provisioner.ledger.survey first jobs).candidates.map (·.key)).Nodup :=
    (Survey.of_candidates_keyed (Survey.failure?_of_eq_none named [])).2
  rcases resumed with ⟨rest, whole⟩
  rw [← whole] at distinct
  rw [steady.candidates_eq_filter split found named, ← whole, filter_unlaunched distinct]

/-- However the passes end, what they launch is a first part of what was there at first. -/
theorem launched_isPrefix
    {before after : List Occasion}
    (split : occasions = before ++ after) :
    Episode.launched (provisioner.episodes before) <+:
      (provisioner.ledger.survey first jobs).candidates := by
  induction before using List.reverseRecOn generalizing after with
  | nil => exact List.nil_prefix
  | append_singleton before occasion ih =>
    rw [List.append_assoc] at split
    have resumed := ih split
    have launched :
        Episode.launched (provisioner.episodes (before ++ [occasion])) =
          Episode.launched (provisioner.episodes before) ++
            Episode.launched [(provisioner.afterPasses before).episode occasion] := by
      rw [episodes_append, Episode.launched_append]
      rfl
    rw [launched]
    cases found : ((provisioner.afterPasses before).episode occasion).prospect? with
    | none =>
      rw [Episode.launched_of_no_prospect found, List.append_nil]
      exact resumed
    | some prospect =>
      rw [Episode.launched_of_prospect found,
        ← steady.launched_append_candidates named split resumed found]
      exact List.prefix_append_right_inj _ |>.mpr (List.take_prefix _ _)

end Steady

end Provisioner

/-- Passes over one queue work off the candidates that were there at first.  What they
launch, in order, is a first part of those candidates and has no key twice, whatever ends
each of the passes; and each pass that picks candidates finds the rest of them. -/
theorem launched_resumes
    (provisioner : Provisioner)
    (occasions : List Occasion)
    (jobs : List Job)
    (first : Float)
    (named : ∀ job ∈ jobs, ∃ key, job.id.key? = some key)
    (steady : provisioner.Steady occasions jobs first) :
    ∃ all,
      provisioner.ledger.candidates first jobs = .ok all ∧
        (∀ episode ∈ provisioner.episodes occasions,
          episode.started.length = episode.starts.length) ∧
          Episode.launched (provisioner.episodes occasions) <+: all ∧
            (candidateKeys (Episode.launched (provisioner.episodes occasions))).Nodup ∧
              ∀ before occasion after prospect,
                occasions = before ++ occasion :: after →
                  (provisioner.afterPasses before).prospect? occasion.pool occasion.active
                      occasion.world = some prospect →
                    Episode.launched (provisioner.episodes before) ++ prospect.candidates =
                      all := by
  have through : (provisioner.ledger.survey first jobs).failure? = none :=
    Survey.failure?_of_eq_none named []
  rcases Survey.of_candidates_keyed through with ⟨keyed, distinct⟩
  have resumed := steady.launched_isPrefix named (List.append_nil occasions).symm
  refine ⟨(provisioner.ledger.survey first jobs).candidates, ?_,
    provisioner.length_started_of_mem_episodes occasions, resumed, ?_, ?_⟩
  · simp only [Ledger.candidates, through]
  · rw [candidateKeys_of_keyed fun candidate member =>
      (keyed candidate (resumed.subset member)).1]
    exact distinct.sublist (resumed.sublist.map _)
  · intro before occasion after prospect split found
    exact steady.launched_append_candidates named split
      (steady.launched_isPrefix named split) found

/-! ## A queue worked off with interruptions -/

deriving instance DecidableEq for Job

/-- A job of which only the number is known. -/
def Job.numbered (number : Int) : Job where
  id := .int number
  status := .text ""
  name := .text ""
  labels := []
  runId := .null
  runnerId := .null
  runnerName := .text ""

/-- A pool for two runners that serves the whole forge. -/
def Pool.double (name : Text) : Pool where
  name
  scope := .known .global
  url := "http://forge"
  capacity := 2

/-- A script by which the forge always tells of the same five queued jobs. -/
def Script.five : Script where
  routes :=
    [⟨none, some (.text "queued"), none,
      .answer 200 "\x7b\"jobs\": [\x7b\"id\": 7\x7d, \x7b\"id\": 8\x7d, \x7b\"id\": 7\x7d, \x7b\"id\": 5\x7d, \x7b\"id\": 9\x7d]\x7d"⟩]

def World.five (script : Script) : World :=
  { World.waiting 1000.0 with outside := script.outside }

/-- Passes that are ended by a failing start, a full pool, a failing fetch, the stop signal
and a missing credential, and one that is not. -/
def Occasion.interrupted : List Occasion :=
  let pool := Pool.double "builders"
  let busy : Fault := ⟨.engine, "busy", "no more room"⟩
  [⟨pool, 0, World.five { Script.five with runFaults := [(2, busy)] }⟩,
    ⟨pool, 2, World.five Script.five⟩,
    ⟨pool, 0, { World.five Script.five with requestsLeft := 2 }⟩,
    ⟨pool, 0, World.five { Script.five with triggers := [⟨.run, 1⟩] }⟩,
    ⟨pool, 0, { World.five Script.five with environment := [] }⟩,
    ⟨pool, 0, World.five Script.five⟩]

/-- A provisioner that requested a runner for one job lately and for another long ago. -/
def Provisioner.used : Provisioner where
  forge := { baseUrl := "http://forge", token := "secret" }
  launcher := {}
  ledger :=
    ⟨Ledger.standardLifetime, [⟨.number 8 0, .int 8, 600.0⟩, ⟨.number 5 0, .int 5, 900.0⟩]⟩

/-- All of these passes fall into one moment. -/
theorem Provisioner.used_steady :
    Provisioner.used.Steady Occasion.interrupted ([7, 8, 7, 5, 9].map Job.numbered) 1000.0 := by
  have fetches :
      ∀ episode ∈ Provisioner.used.episodes Occasion.interrupted,
        ∀ prospect ∈ episode.prospect?,
          prospect.jobs = [7, 8, 7, 5, 9].map Job.numbered ∧ prospect.time = 1000.0 := by
    decide +kernel
  have starts :
      ∀ episode ∈ Provisioner.used.episodes Occasion.interrupted,
        ∀ start ∈ episode.starts, start.time = 1000.0 := by
    decide +kernel
  constructor
  · intro episode member prospect found
    exact (fetches episode member prospect found).1
  · intro episode member prospect found key time _
    rw [(fetches episode member prospect found).2]
  · intro before episode after split prospect found earlier member start made
    rw [split] at fetches starts
    rw [(fetches episode (by simp) prospect found).2, starts earlier (by simp [member]) start made]
    decide +kernel

/-- The job with number 5 was requested lately, and the other three are launched by the
passes that start any, one by each. -/
theorem launched_resumes_interrupted :
    let jobs := [7, 8, 7, 5, 9].map Job.numbered
    (∀ job ∈ jobs, ∃ key, job.id.key? = some key) ∧
      Provisioner.used.Steady Occasion.interrupted jobs 1000.0 ∧
        ((Provisioner.used.episodes Occasion.interrupted).map fun episode =>
            episode.starts.length) = [1, 0, 0, 1, 0, 1] ∧
          ∃ all,
            Provisioner.used.ledger.candidates 1000.0 jobs = .ok all ∧
              candidateKeys all = [.number 7 0, .number 8 0, .number 9 0] ∧
                Episode.launched (Provisioner.used.episodes Occasion.interrupted) <+: all ∧
                  candidateKeys
                      (Episode.launched (Provisioner.used.episodes Occasion.interrupted)) =
                    [.number 7 0, .number 8 0, .number 9 0] := by
  intro jobs
  have named : ∀ job ∈ jobs, ∃ key, job.id.key? = some key := by
    intro job member
    rcases List.mem_map.mp member with ⟨number, _, rfl⟩
    exact ⟨.number number 0, rfl⟩
  rcases launched_resumes Provisioner.used Occasion.interrupted jobs 1000.0 named
      Provisioner.used_steady with
    ⟨all, picked, _, resumed, _, _⟩
  refine ⟨named, Provisioner.used_steady, by decide +kernel, all, picked, ?_, resumed,
    by decide +kernel⟩
  cases picked
  decide +kernel

end RunnerFleet
