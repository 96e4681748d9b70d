import RunnerFleet.Proofs.Recording
import RunnerFleet.Script

/-!
# Which jobs need a runner after many passes

A provisioner passes again and again, each time over a pool with some number of live
runners and in a world of its own.  Of every pass only two things matter for later
ones: which jobs it fetched, if it got as far as turning to starting runners, and
which runners it started.

The invariant is about one job: the ledger knows it by the time of its last start,
unless a later pass found it gone from the queue.  Every pass preserves this,
whatever ends it, and so a later pass picks a job exactly if its last start no longer
counts.
-/

namespace RunnerFleet

/-! ## Many passes -/

/-- The circumstances of a pass: the pool, how many of its runners are live, and the
world. -/
structure Occasion where
  pool : Pool
  active : Int
  world : World

/-- What a pass came to: its prospect, if it got that far, and the containers that it
started, each with the time right after. -/
structure Episode where
  prospect? : Option Prospect
  started : List (RunnerSpec × Float)

namespace Episode

/-- The starts of an episode. -/
def starts (episode : Episode) : List Start :=
  match episode.prospect? with
  | none => []
  | some prospect => prospect.starts episode.started

/-- The time right after the start for a job, if the episode has one. -/
def startTime? (episode : Episode) (key : Key) : Option Float :=
  RunnerFleet.startTime? episode.starts key

/-- Whether an episode finds a job gone: it has a prospect, and the job was not
fetched. -/
def misses (episode : Episode) (key : Key) : Bool :=
  episode.prospect?.any fun prospect => !(jobKeys prospect.jobs).contains key

/-- The time by which a job is known after an episode, given the one before. -/
def carry (key : Key) (before : Option Float) (episode : Episode) : Option Float :=
  match episode.startTime? key with
  | some time => some time
  | none => if episode.misses key then none else before

end Episode

namespace Provisioner

/-- A provisioner after a pass: it has the ledger that the pass leaves. -/
def afterPass (provisioner : Provisioner) (occasion : Occasion) : Provisioner :=
  { provisioner with
    ledger := ((provisioner.pass occasion.pool occasion.active).run occasion.world).1.2 }

/-- A provisioner after passes one after another. -/
def afterPasses (provisioner : Provisioner) (occasions : List Occasion) : Provisioner :=
  occasions.foldl afterPass provisioner

/-- What a pass comes to, as read off the calls that it makes. -/
def episode (provisioner : Provisioner) (occasion : Occasion) : Episode :=
  let world := occasion.world
  let after := ((provisioner.pass occasion.pool occasion.active).run world).2
  { prospect? := provisioner.prospect? occasion.pool occasion.active world
    started := world.outside.started world.moment (after.callsSince world) }

/-- What passes one after another come to. -/
def episodes (provisioner : Provisioner) : List Occasion → List Episode
  | [] => []
  | occasion :: rest =>
    provisioner.episode occasion :: (provisioner.afterPass occasion).episodes rest

/-! ## One pass -/

variable (provisioner : Provisioner) (occasion : Occasion)

/-- The ledger that a pass leaves is told by its episode, and every container that the
pass starts is for one of its candidates. -/
theorem ledger_afterPass :
    (provisioner.episode occasion).started.length =
        (provisioner.episode occasion).starts.length ∧
      (provisioner.afterPass occasion).ledger =
        match (provisioner.episode occasion).prospect? with
        | none => provisioner.ledger
        | some prospect =>
          provisioner.ledgerAfter prospect (provisioner.episode occasion).starts := by
  rcases provisioner.pass_does occasion.pool occasion.active occasion.world with
    ⟨calls, follows, holds⟩
  simp only [episode, afterPass, Episode.starts, follows.callsSince]
  cases found : provisioner.prospect? occasion.pool occasion.active occasion.world with
  | none =>
    simp only [found] at holds
    rcases holds with ⟨same, asks, _⟩
    exact ⟨congrArg List.length (Outside.started_eq_nil asks.no_run), same⟩
  | some prospect =>
    simp only [found] at holds
    rcases holds with ⟨_, few, ledger⟩
    refine ⟨?_, ledger⟩
    have fits :
        (occasion.world.outside.started occasion.world.moment calls).length ≤
          prospect.candidates.length :=
      calc
        (occasion.world.outside.started occasion.world.moment calls).length
            ≤ calls.countP Call.isRun := Outside.length_started_le calls
        _ ≤ (prospect.candidates.take (freeSlots occasion.pool occasion.active)).length := few
        _ ≤ prospect.candidates.length := List.length_take_le' _ _
    simp only [Prospect.starts, List.length_zipWith]
    exact (Nat.min_eq_right fits).symm

/-- A pass changes the time by which a job is known as its episode says. -/
theorem time?_afterPass (key : Key) :
    (provisioner.afterPass occasion).ledger.time? key =
      (provisioner.episode occasion).carry key (provisioner.ledger.time? key) := by
  have told := (provisioner.ledger_afterPass occasion).2
  cases found : (provisioner.episode occasion).prospect? with
  | none =>
    simp only [found] at told
    simp [told, Episode.carry, Episode.startTime?, Episode.misses, Episode.starts, found]
  | some prospect =>
    simp only [found] at told
    have surveyed := provisioner.surveyed_of_prospect? occasion.pool found
    have starts :
        (provisioner.episode occasion).starts =
          prospect.starts (provisioner.episode occasion).started := by
      simp [Episode.starts, found]
    rw [told, starts, provisioner.time?_ledgerAfter surveyed, Episode.carry,
      Episode.startTime?, starts]
    cases startTime? (prospect.starts (provisioner.episode occasion).started) key with
    | some time => rfl
    | none =>
      by_cases queued : key ∈ jobKeys prospect.jobs
      · simp [Episode.misses, found, queued]
      · simp [Episode.misses, found, queued]

theorem lifetime_afterPass :
    (provisioner.afterPass occasion).ledger.lifetime = provisioner.ledger.lifetime := by
  rw [(provisioner.ledger_afterPass occasion).2]
  split
  · rfl
  · rw [ledgerAfter, Ledger.lifetime_retain, Ledger.lifetime_enterStarts]

/-! ## All passes -/

variable (occasions : List Occasion)

theorem time?_afterPasses (key : Key) :
    (provisioner.afterPasses occasions).ledger.time? key =
      (provisioner.episodes occasions).foldl (Episode.carry key)
        (provisioner.ledger.time? key) := by
  induction occasions generalizing provisioner with
  | nil => rfl
  | cons occasion rest ih =>
    rw [episodes, List.foldl_cons, ← time?_afterPass]
    exact ih (provisioner.afterPass occasion)

theorem lifetime_afterPasses :
    (provisioner.afterPasses occasions).ledger.lifetime = provisioner.ledger.lifetime := by
  induction occasions generalizing provisioner with
  | nil => rfl
  | cons occasion rest ih =>
    calc
      ((provisioner.afterPass occasion).afterPasses rest).ledger.lifetime
          = (provisioner.afterPass occasion).ledger.lifetime := ih _
      _ = provisioner.ledger.lifetime := provisioner.lifetime_afterPass occasion

theorem length_started_of_mem_episodes :
    ∀ episode ∈ provisioner.episodes occasions,
      episode.started.length = episode.starts.length := by
  induction occasions generalizing provisioner with
  | nil =>
    intro episode member
    cases member
  | cons occasion rest ih =>
    intro episode member
    rcases List.mem_cons.mp member with rfl | later
    · exact (provisioner.ledger_afterPass occasion).1
    · exact ih _ episode later

end Provisioner

/-! ## The last start of a job -/

namespace Episode

variable {key : Key} {time : Float}

/-- Through episodes that do not start a runner for a job, the job stays known as it was
unless one of them finds it gone. -/
theorem foldl_carry_of_unstarted
    {episodes : List Episode}
    (unstarted : ∀ episode ∈ episodes, episode.startTime? key = none)
    (before : Option Float) :
    episodes.foldl (carry key) before =
      if episodes.any (·.misses key) then none else before := by
  induction episodes generalizing before with
  | nil => rfl
  | cons episode rest ih =>
    have first : episode.startTime? key = none := unstarted _ List.mem_cons_self
    have later := fun other member => unstarted other (List.mem_cons_of_mem episode member)
    rw [List.foldl_cons, ih later, List.any_cons]
    simp only [carry, first]
    cases episode.misses key <;> simp

/-- From the last start of a job on, the job is known by the time of that start unless a
later episode finds it gone. -/
theorem foldl_carry_of_last
    {before after : List Episode}
    {last : Episode}
    (starts : last.startTime? key = some time)
    (unstarted : ∀ episode ∈ after, episode.startTime? key = none)
    (first : Option Float) :
    (before ++ last :: after).foldl (carry key) first =
      if after.any (·.misses key) then none else some time := by
  rw [List.foldl_append, List.foldl_cons, foldl_carry_of_unstarted unstarted]
  simp only [carry, starts]

/-- A job without a start has a last one otherwise. -/
theorem unstarted_or_last (episodes : List Episode) (key : Key) :
    (∀ episode ∈ episodes, episode.startTime? key = none) ∨
      ∃ before last after time,
        episodes = before ++ last :: after ∧
          last.startTime? key = some time ∧
            ∀ episode ∈ after, episode.startTime? key = none := by
  induction episodes with
  | nil => exact .inl nofun
  | cons episode rest ih =>
    rcases ih with unstarted | ⟨before, last, after, time, rfl, starts, unstarted⟩
    · cases first : episode.startTime? key with
      | none => exact .inl (List.forall_mem_cons.mpr ⟨first, unstarted⟩)
      | some time => exact .inr ⟨[], episode, rest, time, rfl, first, unstarted⟩
    · exact .inr ⟨episode :: before, last, after, time, rfl, starts, unstarted⟩

end Episode

/-- A job is passed over exactly if it is known by a time that still counts. -/
theorem Ledger.verdict_ne_skip_iff (ledger : Ledger) (key : Key) (now : Float) :
    ledger.verdict key now ≠ .skip ↔
      ∀ time, ledger.time? key = some time → ¬ now - time < ledger.lifetime := by
  simp only [verdict]
  cases ledger.time? key with
  | none => simp
  | some time => by_cases counts : now - time < ledger.lifetime <;> simp [counts]

/-- Of the jobs that a pass fetches it picks each one once or not at all, and exactly
those whose last start no longer counts: no earlier pass started a runner for the job,
or a later one found the job gone, or the time since the start is not below the
lifetime. -/
theorem candidates_after_passes
    (provisioner : Provisioner)
    (empty : provisioner.ledger.entries = [])
    (earlier : List Occasion)
    (pool : Pool)
    (active : Int)
    (world : World)
    (prospect : Prospect)
    (reached :
      (provisioner.afterPasses earlier).prospect? pool active world = some prospect) :
    let episodes := provisioner.episodes earlier
    (∀ episode ∈ episodes, episode.started.length = episode.starts.length) ∧
      (candidateKeys prospect.candidates).Nodup ∧
        ∀ key,
          key ∈ candidateKeys prospect.candidates ↔
            key ∈ jobKeys prospect.jobs ∧
              ((∀ episode ∈ episodes, episode.startTime? key = none) ∨
                ∃ before last after time,
                  episodes = before ++ last :: after ∧
                    last.startTime? key = some time ∧
                      (∀ episode ∈ after, episode.startTime? key = none) ∧
                        ((∃ episode ∈ after, episode.misses key = true) ∨
                          ¬ prospect.time - time < provisioner.ledger.lifetime)) := by
  have surveyed := (provisioner.afterPasses earlier).surveyed_of_prospect? pool reached
  have unknown (key : Key) : provisioner.ledger.time? key = none := by
    simp [Ledger.time?, Ledger.find?, empty]
  refine ⟨provisioner.length_started_of_mem_episodes earlier, ?_, ?_⟩
  · rw [surveyed.candidateKeys]
    exact surveyed.nodup_keys
  · intro key
    rw [surveyed.candidateKeys, surveyed.mem_keys_iff, Ledger.verdict_ne_skip_iff,
      provisioner.time?_afterPasses, unknown, provisioner.lifetime_afterPasses]
    apply and_congr_right
    intro _
    constructor
    · intro due
      rcases Episode.unstarted_or_last (provisioner.episodes earlier) key with
        unstarted | ⟨before, last, after, time, split, starts, unstarted⟩
      · exact .inl unstarted
      · refine .inr ⟨before, last, after, time, split, starts, unstarted, ?_⟩
        rw [split, Episode.foldl_carry_of_last starts unstarted] at due
        cases missed : after.any (·.misses key) with
        | true => exact .inl (List.any_eq_true.mp missed)
        | false => exact .inr (due time (by simp [missed]))
    · rintro (unstarted | ⟨before, last, after, time, split, starts, unstarted, due⟩)
      · rw [Episode.foldl_carry_of_unstarted unstarted]
        simp
      · rw [split, Episode.foldl_carry_of_last starts unstarted]
        rcases due with missed | expired
        · rw [List.any_eq_true.mpr missed]
          simp
        · intro known found
          split at found
          · cases found
          · cases found
            exact expired

/-! ## A job that keeps waiting -/

/-- A pool for one runner that serves the whole forge. -/
def Pool.single (name : Text) : Pool where
  name
  scope := .known .global
  url := "http://forge"
  capacity := 1

/-- A world at some time in which the forge always tells of the same queued job. -/
def World.waiting (clock : Float) : World where
  outside :=
    Script.outside
      { routes :=
          [⟨none, some (.text "queued"), none,
            .answer 200 "\x7b\"jobs\": [\x7b\"id\": 7\x7d]\x7d"⟩] }
  environment := [("GITEA_RUNNER_REGISTRATION_TOKEN", "secret")]
  clock
  containers := []
  directory := ⟨[]⟩
  requestsLeft := 60
  waitsLeft := 20

/-- A provisioner without passes so far, under the standard lifetime. -/
def Provisioner.unused : Provisioner where
  forge := { baseUrl := "http://forge", token := "secret" }
  launcher := {}
  ledger := ⟨Ledger.standardLifetime, []⟩

/-- A job that keeps waiting is left alone while its runner's time runs, and is picked
once more when that time is up. -/
theorem candidates_after_passes_waiting :
    let pool := Pool.single "builders"
    let earlier : List Occasion :=
      [⟨pool, 0, World.waiting 1000.0⟩, ⟨pool, 0, World.waiting 1200.0⟩]
    Provisioner.unused.ledger.entries = [] ∧
      ((Provisioner.unused.episodes earlier).map fun episode => episode.starts.length) =
          [1, 0] ∧
        ∃ prospect,
          (Provisioner.unused.afterPasses earlier).prospect? pool 0 (World.waiting 1400.0) =
              some prospect ∧
            (candidateKeys prospect.candidates).Nodup ∧
              candidateKeys prospect.candidates = [.number 7 0] := by
  intro pool earlier
  have picked :
      ((Provisioner.unused.afterPasses earlier).prospect? pool 0 (World.waiting 1400.0)).map
          (candidateKeys ·.candidates) =
        some [.number 7 0] := by
    decide +kernel
  rcases Option.map_eq_some_iff.mp picked with ⟨prospect, found, keys⟩
  have distinct :=
    (candidates_after_passes Provisioner.unused rfl earlier pool 0 _ prospect found).2.1
  exact ⟨rfl, by decide +kernel, prospect, found, distinct, keys⟩

end RunnerFleet
