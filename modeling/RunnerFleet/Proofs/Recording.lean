import RunnerFleet.Proofs.Selecting

/-!
# What a pass leaves in the ledger

A ledger answers with times and lists its entries in an order.  Both are told here
for a ledger in which starts were entered and from which departed jobs were struck,
and then for a whole pass: whatever ends it, the ledger afterwards depends on the
trace of the pass alone.
-/

namespace RunnerFleet

/-! ## Times and spellings -/

/-- The time of the start that was made for a key. -/
def startTime? (starts : List Start) (key : Key) : Option Float :=
  (starts.find? (·.candidate.key == key)).map (·.time)

@[simp]
theorem startTime?_nil (key : Key) : startTime? [] key = none :=
  rfl

theorem startTime?_cons (start : Start) (starts : List Start) (key : Key) :
    startTime? (start :: starts) key =
      if start.candidate.key = key then some start.time else startTime? starts key := by
  by_cases same : start.candidate.key = key
  · simp [startTime?, same]
  · simp [startTime?, same]

theorem startTime?_eq_none_iff {starts : List Start} {key : Key} :
    startTime? starts key = none ↔ key ∉ starts.map (·.candidate.key) := by
  simp [startTime?]

/-- A start that was made, as a ledger lists it: under its key and the id of its job. -/
def Start.spelling (start : Start) : Key × Value :=
  (start.candidate.key, start.candidate.job.id)

/-- An entry as a ledger lists it: under its key and the id under which it was made. -/
def Entry.spelling (entry : Entry) : Key × Value :=
  (entry.key, entry.id)

namespace Ledger

/-- The jobs of a ledger in order, each with the id under which it was first entered. -/
def spellings (ledger : Ledger) : List (Key × Value) :=
  ledger.entries.map Entry.spelling

variable (ledger : Ledger)

theorem contains_iff {key : Key} :
    ledger.contains key = true ↔ key ∈ ledger.entries.map (·.key) := by
  simp [contains]

/-! ## Entering a start -/

theorem enter_cons_of_eq
    {entry other : Entry}
    (same : other.key = entry.key)
    (rest : List Entry) :
    enter entry (other :: rest) = { other with time := entry.time } :: rest := by
  simp [enter, same]

theorem enter_cons_of_ne
    {entry other : Entry}
    (differs : other.key ≠ entry.key)
    (rest : List Entry) :
    enter entry (other :: rest) = other :: enter entry rest := by
  simp [enter, differs]

theorem time?_record (key query : Key) (id : Value) (time : Float) :
    (ledger.record key id time).time? query =
      if key = query then some time else ledger.time? query := by
  rcases ledger with ⟨lifetime, entries⟩
  simp only [record, time?, find?]
  induction entries with
  | nil =>
    by_cases same : key = query <;> simp [enter, same]
  | cons entry rest ih =>
    by_cases known : entry.key = key
    · rw [enter_cons_of_eq known]
      by_cases same : key = query
      · simp [known, same]
      · simp [known, same]
    · rw [enter_cons_of_ne known, List.find?_cons, List.find?_cons]
      cases found : entry.key == query with
      | true =>
        have other : key ≠ query := fun equal => known ((beq_iff_eq.mp found).trans equal.symm)
        simp [other]
      | false => exact ih

/-- A job that is known keeps its spelling, and any other has that of its entry. -/
theorem spellings_enter (entry : Entry) (entries : List Entry) :
    (enter entry entries).map Entry.spelling =
      if entry.key ∈ entries.map (·.key) then entries.map Entry.spelling
      else entries.map Entry.spelling ++ [entry.spelling] := by
  induction entries with
  | nil => simp [enter]
  | cons other rest ih =>
    by_cases known : other.key = entry.key
    · rw [enter_cons_of_eq known]
      simp [known, Entry.spelling]
    · rw [enter_cons_of_ne known, List.map_cons, ih]
      have differs : entry.key ≠ other.key := fun equal => known equal.symm
      simp only [List.map_cons, List.mem_cons, differs, false_or]
      split <;> simp

/-- A job that is known keeps its place, and any other comes last. -/
theorem keys_enter (entry : Entry) (entries : List Entry) :
    (enter entry entries).map (·.key) =
      if entry.key ∈ entries.map (·.key) then entries.map (·.key)
      else entries.map (·.key) ++ [entry.key] := by
  have keysOf (list : List Entry) : (list.map Entry.spelling).map Prod.fst = list.map (·.key) :=
    List.map_map
  rw [← keysOf (enter entry entries), spellings_enter]
  split
  · exact keysOf entries
  · rw [List.map_append, keysOf]
    rfl

theorem contains_record (key query : Key) (id : Value) (time : Float) :
    (ledger.record key id time).contains query =
      (query == key || ledger.contains query) := by
  rw [Bool.eq_iff_iff, Bool.or_eq_true, contains_iff, contains_iff, record, keys_enter,
    beq_iff_eq]
  split
  next known =>
    constructor
    · exact Or.inr
    · rintro (rfl | old)
      · exact known
      · exact old
  next => rw [List.mem_append, List.mem_singleton, or_comm]

/-! ## Entering starts -/

@[simp]
theorem enterStarts_nil : ledger.enterStarts [] = ledger :=
  rfl

@[simp]
theorem enterStarts_cons (start : Start) (rest : List Start) :
    ledger.enterStarts (start :: rest) =
      (ledger.record start.candidate.key start.candidate.job.id start.time).enterStarts
        rest :=
  rfl

/-- After starts for different jobs, each of them is known by the time of its start. -/
theorem time?_enterStarts
    {starts : List Start}
    (distinct : (starts.map (·.candidate.key)).Nodup)
    (key : Key) :
    (ledger.enterStarts starts).time? key =
      (startTime? starts key).or (ledger.time? key) := by
  induction starts generalizing ledger with
  | nil => rfl
  | cons start rest ih =>
    rcases List.nodup_cons.mp distinct with ⟨fresh, distinct⟩
    rw [enterStarts_cons, ih _ distinct, time?_record, startTime?_cons]
    by_cases same : start.candidate.key = key
    · have none : startTime? rest key = none :=
        startTime?_eq_none_iff.mpr (same ▸ fresh)
      simp [same, none]
    · simp [same]

/-- Starts for different jobs come after the jobs that were known, in the order in which
they were made. -/
theorem spellings_enterStarts
    {starts : List Start}
    (distinct : (starts.map (·.candidate.key)).Nodup) :
    (ledger.enterStarts starts).spellings =
      ledger.spellings ++
        (starts.filter fun start => !ledger.contains start.candidate.key).map
          Start.spelling := by
  induction starts generalizing ledger with
  | nil => simp
  | cons start rest ih =>
    rcases List.nodup_cons.mp distinct with ⟨fresh, distinct⟩
    replace fresh : start.candidate.key ∉ rest.map (·.candidate.key) := fresh
    have unaffected :
        (rest.filter fun other =>
            !(ledger.record start.candidate.key start.candidate.job.id start.time).contains
              other.candidate.key) =
          rest.filter fun other => !ledger.contains other.candidate.key := by
      apply List.filter_congr
      intro other member
      have among : other.candidate.key ∈ rest.map (·.candidate.key) :=
        List.mem_map_of_mem member
      have differs : (other.candidate.key == start.candidate.key) = false :=
        beq_false_of_ne fun equal => fresh (equal ▸ among)
      rw [contains_record, differs, Bool.false_or]
    rw [enterStarts_cons, ih _ distinct, unaffected, spellings, record, spellings_enter,
      List.filter_cons]
    by_cases known : start.candidate.key ∈ ledger.entries.map (·.key)
    · have contained := ledger.contains_iff.mpr known
      simp only [if_pos known, contained, Bool.not_true, Bool.false_eq_true, if_false]
      rfl
    · have missing : ledger.contains start.candidate.key = false := by
        simpa using mt ledger.contains_iff.mp known
      simp only [if_neg known, missing, Bool.not_false, if_true, List.map_cons,
        List.append_assoc, List.singleton_append]
      rfl

/-! ## Striking departed jobs -/

theorem time?_retain (queued : List Key) (key : Key) :
    (ledger.retain queued).time? key =
      if key ∈ queued then ledger.time? key else none := by
  rcases ledger with ⟨lifetime, entries⟩
  simp only [retain, time?, find?]
  induction entries with
  | nil => simp
  | cons entry rest ih =>
    cases found : entry.key == key with
    | true =>
      have same : entry.key = key := beq_iff_eq.mp found
      by_cases member : key ∈ queued
      · simp [same, member]
      · have kept : queued.contains entry.key = false := by simpa [same] using member
        rw [List.filter_cons, kept]
        simpa [member] using ih
    | false =>
      rw [List.filter_cons, List.find?_cons, found]
      split
      · rw [List.find?_cons, found]
        exact ih
      · exact ih

theorem spellings_retain (queued : List Key) :
    (ledger.retain queued).spellings =
      ledger.spellings.filter fun spelling => queued.contains spelling.1 := by
  simp only [retain, spellings, List.filter_map]
  rfl

theorem lifetime_enterStarts (starts : List Start) :
    (ledger.enterStarts starts).lifetime = ledger.lifetime := by
  induction starts generalizing ledger with
  | nil => rfl
  | cons start rest ih => exact ih _

end Ledger

/-! ## Passes -/

/-- The starts that a trace makes of a prospect are for the first of its candidates. -/
theorem Prospect.candidates_starts
    (prospect : Prospect)
    (started : List (RunnerSpec × Float)) :
    (prospect.starts started).map (·.candidate) = prospect.candidates.take started.length := by
  simp only [starts]
  induction prospect.candidates generalizing started with
  | nil => simp
  | cons candidate rest ih =>
    cases started with
    | nil => rfl
    | cons first others => simpa [Start.ofStarted] using ih others

theorem Prospect.keys_starts (prospect : Prospect) (started : List (RunnerSpec × Float)) :
    (prospect.starts started).map (·.candidate.key) =
      (prospect.candidates.map (·.key)).take started.length := by
  rw [← List.map_take, ← prospect.candidates_starts, List.map_map]
  rfl

namespace Prospect.Surveyed

variable
  {prospect : Prospect}
  {ledger : Ledger}
  (surveyed : prospect.Surveyed ledger)
  (started : List (RunnerSpec × Float))

include surveyed

theorem nodup_starts :
    ((prospect.starts started).map (·.candidate.key)).Nodup := by
  rw [prospect.keys_starts]
  exact surveyed.nodup_keys.sublist (List.take_sublist _ _)

/-- Runners are only started for jobs that were fetched. -/
theorem queued_of_start
    {start : Start}
    (member : start ∈ prospect.starts started) :
    start.candidate.key ∈ jobKeys prospect.jobs := by
  have among : start.candidate.key ∈ (prospect.starts started).map (·.candidate.key) :=
    List.mem_map_of_mem member
  rw [prospect.keys_starts] at among
  exact ((surveyed.mem_keys_iff _).mp (List.mem_of_mem_take among)).1

end Prospect.Surveyed

namespace Provisioner

variable
  (provisioner : Provisioner)
  {prospect : Prospect}
  (surveyed : prospect.Surveyed provisioner.ledger)
  (started : List (RunnerSpec × Float))

include surveyed

/-- A start that was made counts; a job without one keeps its time as long as it is
queued. -/
theorem time?_ledgerAfter (key : Key) :
    (provisioner.ledgerAfter prospect (prospect.starts started)).time? key =
      match startTime? (prospect.starts started) key with
      | some time => some time
      | none =>
        if key ∈ jobKeys prospect.jobs then provisioner.ledger.time? key else none := by
  rw [ledgerAfter, Ledger.time?_retain,
    Ledger.time?_enterStarts _ (surveyed.nodup_starts started)]
  cases found : startTime? (prospect.starts started) key with
  | none => rw [Option.none_or]
  | some time =>
    have member : key ∈ (prospect.starts started).map (·.candidate.key) := by
      apply Decidable.byContradiction
      intro missing
      rw [startTime?_eq_none_iff.mpr missing] at found
      cases found
    rcases List.mem_map.mp member with ⟨start, made, rfl⟩
    rw [if_pos (surveyed.queued_of_start started made), Option.some_or]

/-- The queued jobs that were known keep their places and spellings, and the starts for
other jobs come last. -/
theorem spellings_ledgerAfter :
    (provisioner.ledgerAfter prospect (prospect.starts started)).spellings =
      (provisioner.ledger.spellings.filter fun spelling =>
          (jobKeys prospect.jobs).contains spelling.1) ++
        ((prospect.starts started).filter fun start =>
            !provisioner.ledger.contains start.candidate.key).map Start.spelling := by
  have queued :
      ∀ spelling ∈
        ((prospect.starts started).filter fun start =>
            !provisioner.ledger.contains start.candidate.key).map Start.spelling,
        (jobKeys prospect.jobs).contains spelling.1 = true := by
    intro spelling member
    rcases List.mem_map.mp member with ⟨start, made, rfl⟩
    exact List.contains_iff_mem.mpr
      (surveyed.queued_of_start started (List.mem_filter.mp made).1)
  rw [ledgerAfter, Ledger.spellings_retain,
    Ledger.spellings_enterStarts _ (surveyed.nodup_starts started), List.filter_append,
    List.filter_eq_self.mpr queued]

end Provisioner

/-- Whatever ends a pass, its effect on the ledger is told by its trace.

A pass that ends before it turns to starting runners starts none, not even in vain, and
leaves the ledger as it was.  After any other pass a job is known by the time right after
its start, if a runner was started for it; any other job keeps its time if it was fetched
and is not known otherwise.  What was known keeps its order and spelling, and the new jobs
follow in the order of their starts. -/
theorem ledger_after_pass
    (provisioner : Provisioner)
    (pool : Pool)
    (active : Int)
    (world : World) :
    let after := (provisioner.pass pool active).run world
    let calls := after.2.callsSince world
    after.2.history = world.history ++ calls ∧
      match provisioner.prospect? pool active world with
      | none =>
        after.1.2 = provisioner.ledger ∧
          (∀ made ∈ calls, made.isRun = false) ∧ after.2.choices = world.choices
      | some prospect =>
        let started := world.outside.started world.moment calls
        let starts := prospect.starts started
        started.length ≤
            (prospect.candidates.take (Provisioner.freeSlots pool active)).length ∧
          (∀ candidate ∈ prospect.candidates,
            candidate.job.id.key? = some candidate.key) ∧
          (∀ key,
            after.1.2.time? key =
              match startTime? starts key with
              | some time => some time
              | none =>
                if key ∈ jobKeys prospect.jobs then provisioner.ledger.time? key
                else none) ∧
          after.1.2.spellings =
            (provisioner.ledger.spellings.filter fun spelling =>
                (jobKeys prospect.jobs).contains spelling.1) ++
              (starts.filter fun start =>
                  !provisioner.ledger.contains start.candidate.key).map Start.spelling := by
  rcases provisioner.pass_does pool active world with ⟨calls, follows, holds⟩
  dsimp only
  rw [follows.callsSince]
  refine ⟨follows.history, ?_⟩
  cases found : provisioner.prospect? pool active world with
  | none =>
    simp only [found] at holds
    rcases holds with ⟨same, asks, choices⟩
    exact ⟨same, asks.no_run, choices⟩
  | some prospect =>
    simp only [found] at holds
    rcases holds with ⟨_, few, ledger⟩
    have surveyed := provisioner.surveyed_of_prospect? pool found
    dsimp only
    rw [ledger]
    exact ⟨Nat.le_trans (Outside.length_started_le calls) few, surveyed.keyed,
      provisioner.time?_ledgerAfter surveyed _, provisioner.spellings_ledgerAfter surveyed _⟩

end RunnerFleet
