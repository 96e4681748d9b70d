import Mathlib.Data.Finset.Card
import Mathlib.Data.List.Induction
import RunnerFleet.Proofs.Recording

/-!
# Ledgers and their histories

Whatever is done with a ledger, in whichever order and with whatever times, its answers are
told by the history of what was done.  A key is live if a request for it was recorded and
no strike passed it over since; its time is that of the latest record, and its place in the
ledger, like the spelling of its id, is owed to the record that made it live.

All three are facts that a record began and that nothing since then ended, so one operator
on histories serves for them.
-/

namespace RunnerFleet

/-- An id that can be a key of a ledger. -/
structure JobId where
  value : Value
  key : Key
  keyed : value.key? = some key

/-- The keys of ids. -/
def JobId.keys (ids : List JobId) : List Key :=
  ids.map (·.key)

namespace Ledger

/-! ## Operations -/

/-- What can be done with a ledger. -/
inductive Operation where
  | record (id : JobId) (time : Float)
  | verdict (id : JobId) (now : Float)
  | time (id : JobId)
  | contains (id : JobId)
  | size
  | retain (queued : List JobId)

/-- What a ledger answers.  Where jobs are struck, it says how many of them were. -/
inductive Answer where
  | recorded
  | verdict (verdict : Verdict)
  | time (time? : Option Float)
  | contains (known : Bool)
  | size (count : Nat)
  | departed (count : Nat)

/-- Do something with a ledger. -/
def perform (ledger : Ledger) : Operation → Answer × Ledger
  | .record id time => (.recorded, ledger.record id.key id.value time)
  | .verdict id now => (.verdict (ledger.verdict id.key now), ledger)
  | .time id => (.time (ledger.time? id.key), ledger)
  | .contains id => (.contains (ledger.contains id.key), ledger)
  | .size => (.size ledger.size, ledger)
  | .retain queued =>
    (.departed (ledger.departed (JobId.keys queued)).length, ledger.retain (JobId.keys queued))

/-- A ledger after a history of operations. -/
def after (ledger : Ledger) (history : List Operation) : Ledger :=
  history.foldl (fun ledger operation => (ledger.perform operation).2) ledger

namespace Operation

/-- Whether an operation only asks. -/
def IsReading : Operation → Prop
  | .record _ _ => False
  | .retain _ => False
  | _ => True

/-- Whether a key that was live before an operation is so afterwards. -/
def Keeps (key : Key) : Operation → Prop
  | .retain queued => key ∈ JobId.keys queued
  | _ => True

/-- Whether an operation records a request for a key. -/
def Records (key : Key) : Operation → Prop
  | .record id _ => id.key = key
  | _ => False

end Operation

/-! ## Histories -/

/-- A record began something, given the history before it, and each operation since then
has kept it. -/
def Since
    (begins : List Operation → JobId → Float → Prop)
    (keeps : Operation → Prop)
    (history : List Operation) : Prop :=
  ∃ before id time since,
    history = before ++ .record id time :: since ∧ begins before id time ∧
      ∀ operation ∈ since, keeps operation

/-- What is so after an operation either began with it or was so before and is kept. -/
theorem since_append_iff
    {begins : List Operation → JobId → Float → Prop}
    {keeps : Operation → Prop}
    {history : List Operation}
    {operation : Operation} :
    Since begins keeps (history ++ [operation]) ↔
      (∃ id time, operation = .record id time ∧ begins history id time) ∨
        (Since begins keeps history ∧ keeps operation) := by
  constructor
  · rintro ⟨before, id, time, since, split, begun, kept⟩
    rcases List.eq_nil_or_concat since with rfl | ⟨earlier, last, rfl⟩
    · rcases List.append_inj' split rfl with ⟨rfl, same⟩
      exact .inl ⟨id, time, List.head_eq_of_cons_eq same, begun⟩
    · rw [List.concat_eq_append, ← List.cons_append, ← List.append_assoc] at split
      rcases List.append_inj' split rfl with ⟨rfl, same⟩
      cases List.head_eq_of_cons_eq same
      rw [List.concat_eq_append] at kept
      refine .inr ⟨⟨before, id, time, earlier, rfl, begun, ?_⟩, kept operation (by simp)⟩
      exact fun other member => kept other (List.mem_append_left _ member)
  · rintro (⟨id, time, rfl, begun⟩ | ⟨⟨before, id, time, since, rfl, begun, kept⟩, last⟩)
    · exact ⟨history, id, time, [], rfl, begun, by simp⟩
    · refine ⟨before, id, time, since ++ [operation], by simp, begun, ?_⟩
      intro other member
      rcases List.mem_append.mp member with earlier | same
      · exact kept other earlier
      · rw [List.mem_singleton.mp same]
        exact last

@[simp]
theorem not_since_nil
    {begins : List Operation → JobId → Float → Prop}
    {keeps : Operation → Prop} :
    ¬ Since begins keeps [] := by
  rintro ⟨before, _, _, _, split, _⟩
  simp at split

/-- A request for the key was recorded, and no strike passed it over since. -/
def Live (history : List Operation) (key : Key) : Prop :=
  Since (fun _ id _ => id.key = key) (Operation.Keeps key) history

/-- The latest request for the key was recorded at the time. -/
def LastRecorded (history : List Operation) (key : Key) (time : Float) : Prop :=
  Since (fun _ id recorded => id.key = key ∧ recorded = time) (¬ Operation.Records key ·) history

/-- The record at the place made its id live, and the id has been so ever since. -/
def Born (history : List Operation) (place : Nat) (id : JobId) : Prop :=
  Since (fun before first _ => before.length = place ∧ first = id ∧ ¬ Live before id.key)
    (Operation.Keeps id.key) history

/-- What a ledger answers after a history. -/
inductive Answers (lifetime : Float) (history : List Operation) : Operation → Answer → Prop where
  | recorded (id : JobId) (time : Float) : Answers lifetime history (.record id time) .recorded
  | fresh
      (id : JobId)
      (now : Float)
      (gone : ¬ Live history id.key) :
      Answers lifetime history (.verdict id now) (.verdict .fresh)
  | skip
      (id : JobId)
      (now time : Float)
      (live : Live history id.key)
      (last : LastRecorded history id.key time)
      (recent : now - time < lifetime) :
      Answers lifetime history (.verdict id now) (.verdict .skip)
  | retry
      (id : JobId)
      (now time : Float)
      (live : Live history id.key)
      (last : LastRecorded history id.key time)
      (due : ¬ now - time < lifetime) :
      Answers lifetime history (.verdict id now) (.verdict .retry)
  | timed
      (id : JobId)
      (time : Float)
      (live : Live history id.key)
      (last : LastRecorded history id.key time) :
      Answers lifetime history (.time id) (.time (some time))
  | untimed
      (id : JobId)
      (gone : ¬ Live history id.key) :
      Answers lifetime history (.time id) (.time none)
  | contained
      (id : JobId)
      (live : Live history id.key) :
      Answers lifetime history (.contains id) (.contains true)
  | missing
      (id : JobId)
      (gone : ¬ Live history id.key) :
      Answers lifetime history (.contains id) (.contains false)
  | size
      (keys : Finset Key)
      (live : ∀ key, key ∈ keys ↔ Live history key) :
      Answers lifetime history .size (.size keys.card)
  | departed
      (queued : List JobId)
      (keys : Finset Key)
      (struck :
        ∀ key, key ∈ keys ↔ Live history key ∧ ¬ Live (history ++ [.retain queued]) key) :
      Answers lifetime history (.retain queued) (.departed keys.card)

/-! ## Steps of a history -/

section Steps

variable
  {history : List Operation}
  {id other : JobId}
  {key : Key}
  {time recorded : Float}
  {queued : List JobId}
  {place : Nat}

/-- What a record does not begin it keeps, or not, as any operation does. -/
theorem since_record_iff
    {begins : List Operation → JobId → Float → Prop}
    {keeps : Operation → Prop} :
    Since begins keeps (history ++ [.record id time]) ↔
      begins history id time ∨ (Since begins keeps history ∧ keeps (.record id time)) := by
  rw [since_append_iff]
  constructor
  · rintro (⟨_, _, same, begun⟩ | earlier)
    · cases same
      exact .inl begun
    · exact .inr earlier
  · rintro (begun | earlier)
    · exact .inl ⟨id, time, rfl, begun⟩
    · exact .inr earlier

/-- Nothing begins with a strike. -/
theorem since_retain_iff
    {begins : List Operation → JobId → Float → Prop}
    {keeps : Operation → Prop} :
    Since begins keeps (history ++ [.retain queued]) ↔
      Since begins keeps history ∧ keeps (.retain queued) := by
  rw [since_append_iff]
  constructor
  · rintro (⟨_, _, same, _⟩ | earlier)
    · cases same
    · exact earlier
  · exact .inr

/-- Nothing begins with a question. -/
theorem since_reading_iff
    {begins : List Operation → JobId → Float → Prop}
    {keeps : Operation → Prop}
    {operation : Operation}
    (reading : operation.IsReading)
    (kept : keeps operation) :
    Since begins keeps (history ++ [operation]) ↔ Since begins keeps history := by
  rw [since_append_iff]
  constructor
  · rintro (⟨_, _, rfl, _⟩ | ⟨earlier, _⟩)
    · exact reading.elim
    · exact earlier
  · exact fun earlier => .inr ⟨earlier, kept⟩

theorem live_record_iff :
    Live (history ++ [.record id time]) key ↔ id.key = key ∨ Live history key := by
  rw [Live, since_record_iff, ← Live]
  simp [Operation.Keeps]

theorem live_retain_iff :
    Live (history ++ [.retain queued]) key ↔ Live history key ∧ key ∈ JobId.keys queued :=
  since_retain_iff

theorem lastRecorded_record_iff :
    LastRecorded (history ++ [.record id time]) key recorded ↔
      if id.key = key then time = recorded else LastRecorded history key recorded := by
  rw [LastRecorded, since_record_iff, ← LastRecorded]
  by_cases same : id.key = key <;> simp [Operation.Records, same]

theorem lastRecorded_retain_iff :
    LastRecorded (history ++ [.retain queued]) key recorded ↔
      LastRecorded history key recorded := by
  rw [LastRecorded, since_retain_iff, ← LastRecorded]
  simp [Operation.Records]

theorem born_record_iff :
    Born (history ++ [.record id time]) place other ↔
      (history.length = place ∧ id = other ∧ ¬ Live history id.key) ∨
        Born history place other := by
  rw [Born, since_record_iff, ← Born]
  simp only [Operation.Keeps, and_true]
  constructor
  · rintro (⟨here, rfl, gone⟩ | earlier)
    · exact .inl ⟨here, rfl, gone⟩
    · exact .inr earlier
  · rintro (⟨here, rfl, gone⟩ | earlier)
    · exact .inl ⟨here, rfl, gone⟩
    · exact .inr earlier

theorem born_retain_iff :
    Born (history ++ [.retain queued]) place id ↔
      Born history place id ∧ id.key ∈ JobId.keys queued :=
  since_retain_iff

/-- An id is born within the history. -/
theorem Born.lt_length (born : Born history place id) : place < history.length := by
  rcases born with ⟨before, first, time, since, rfl, ⟨rfl, _⟩, _⟩
  simp

/-- An id that was born is live. -/
theorem Born.live (born : Born history place id) : Live history id.key := by
  rcases born with ⟨before, first, time, since, rfl, ⟨rfl, rfl, _⟩, kept⟩
  exact ⟨before, first, time, since, rfl, rfl, kept⟩

end Steps

/-! ## Ledgers that reflect a history -/

variable {ledger : Ledger} {history : List Operation}

theorem time?_eq_none_iff {key : Key} :
    ledger.time? key = none ↔ key ∉ ledger.entries.map (·.key) := by
  simp [time?, find?]

theorem keys_retain (queued : List Key) :
    (ledger.retain queued).entries.map (·.key) =
      (ledger.entries.map (·.key)).filter (queued.contains ·) := by
  rw [List.filter_map]
  rfl

theorem keys_departed (queued : List Key) :
    (ledger.departed queued).map (·.key) =
      (ledger.entries.map (·.key)).filter (!queued.contains ·) := by
  rw [List.filter_map]
  rfl

/-- The ids that became live and still are, each with its place in the history, in order. -/
structure Births (history : List Operation) (births : List (Nat × JobId)) : Prop where
  ordered : births.Pairwise (·.1 < ·.1)
  complete : ∀ place id, (place, id) ∈ births ↔ Born history place id

/-- A ledger knows the live keys, each once and by the time of its latest record, and lists
them in the order of their births. -/
structure Reflects (history : List Operation) (ledger : Ledger) : Prop where
  live : ∀ key, key ∈ ledger.entries.map (·.key) ↔ Live history key
  distinct : (ledger.entries.map (·.key)).Nodup
  last :
    ∀ key time,
      ledger.time? key = some time ↔ Live history key ∧ LastRecorded history key time
  births :
    ∃ births,
      Births history births ∧
        ledger.spellings = births.map fun birth => (birth.2.key, birth.2.value)

theorem reflects_nil (lifetime : Float) : Reflects [] ⟨lifetime, []⟩ where
  live key := by simp [Live]
  distinct := List.nodup_nil
  last key time := by simp [time?, find?, Live]
  births := ⟨[], ⟨List.Pairwise.nil, by simp [Born]⟩, rfl⟩

namespace Reflects

variable (reflects : Reflects history ledger)

include reflects

/-- The births after a record: one more if the id was not live. -/
theorem births_record (id : JobId) (time : Float) :
    ∃ births,
      Births (history ++ [.record id time]) births ∧
        (ledger.record id.key id.value time).spellings =
          births.map fun birth => (birth.2.key, birth.2.value) := by
  rcases reflects.births with ⟨births, ⟨ordered, complete⟩, spelled⟩
  rw [spellings, record, spellings_enter]
  by_cases live : Live history id.key
  · rw [if_pos ((reflects.live id.key).mpr live)]
    refine ⟨births, ⟨ordered, ?_⟩, spelled⟩
    intro place other
    rw [complete, born_record_iff]
    simp [live]
  · rw [if_neg (mt (reflects.live id.key).mp live)]
    refine ⟨births ++ [(history.length, id)], ⟨?_, ?_⟩, ?_⟩
    · rw [List.pairwise_append]
      refine ⟨ordered, List.pairwise_singleton _ _, ?_⟩
      rintro ⟨place, other⟩ member last among
      rw [List.mem_singleton.mp among]
      exact ((complete place other).mp member).lt_length
    · intro place other
      rw [List.mem_append, complete, born_record_iff, List.mem_singleton, or_comm, Prod.mk.injEq]
      simp only [live, not_false_eq_true, and_true]
      exact or_congr_left (and_congr eq_comm eq_comm)
    · rw [List.map_append, ← spelled]
      rfl

/-- The births after a strike: those of the ids that are queued. -/
theorem births_retain (queued : List JobId) :
    ∃ births,
      Births (history ++ [.retain queued]) births ∧
        (ledger.retain (JobId.keys queued)).spellings =
          births.map fun birth => (birth.2.key, birth.2.value) := by
  rcases reflects.births with ⟨births, ⟨ordered, complete⟩, spelled⟩
  refine ⟨births.filter fun birth => (JobId.keys queued).contains birth.2.key,
    ⟨ordered.filter _, ?_⟩, ?_⟩
  · intro place id
    rw [List.mem_filter, complete, born_retain_iff, List.contains_iff_mem]
  · rw [spellings_retain, spelled, List.filter_map]
    rfl

theorem record (id : JobId) (time : Float) :
    Reflects (history ++ [.record id time]) (ledger.record id.key id.value time) where
  live key := by
    rw [← contains_iff, contains_record, Bool.or_eq_true, contains_iff, reflects.live,
      live_record_iff, beq_iff_eq, eq_comm]
  distinct := by
    rw [Ledger.record, keys_enter]
    split
    next => exact reflects.distinct
    next missing =>
      rw [List.nodup_append]
      refine ⟨reflects.distinct, List.nodup_singleton _, ?_⟩
      rintro key member other among rfl
      exact missing (List.mem_singleton.mp among ▸ member)
  last key recorded := by
    rw [time?_record, live_record_iff, lastRecorded_record_iff]
    by_cases same : id.key = key
    · simp [same]
    · simp only [same, if_false, false_or]
      exact reflects.last key recorded
  births := reflects.births_record id time

theorem retain (queued : List JobId) :
    Reflects (history ++ [.retain queued]) (ledger.retain (JobId.keys queued)) where
  live key := by
    rw [live_retain_iff, ← reflects.live, keys_retain, List.mem_filter, List.contains_iff_mem]
  distinct := by
    rw [keys_retain]
    exact reflects.distinct.filter _
  last key time := by
    rw [time?_retain, live_retain_iff, lastRecorded_retain_iff]
    by_cases kept : key ∈ JobId.keys queued
    · rw [if_pos kept, reflects.last]
      simp [kept]
    · simp [kept]
  births := reflects.births_retain queued

/-- A question leaves what a ledger reflects as it is. -/
theorem reading
    {operation : Operation}
    (reading : operation.IsReading) :
    Reflects (history ++ [operation]) ledger := by
  have keeps (key : Key) : operation.Keeps key := by
    cases operation with
    | retain queued => exact reading.elim
    | _ => trivial
  have unrecorded (key : Key) : ¬ operation.Records key := by
    cases operation with
    | record id time => exact reading.elim
    | _ => exact not_false
  have live (key : Key) : Live (history ++ [operation]) key ↔ Live history key :=
    since_reading_iff reading (keeps key)
  have last (key : Key) (time : Float) :
      LastRecorded (history ++ [operation]) key time ↔ LastRecorded history key time :=
    since_reading_iff reading (unrecorded key)
  have born (place : Nat) (id : JobId) :
      Born (history ++ [operation]) place id ↔ Born history place id :=
    since_reading_iff reading (keeps id.key)
  rcases reflects.births with ⟨births, ⟨ordered, complete⟩, spelled⟩
  constructor
  · intro key
    rw [live]
    exact reflects.live key
  · exact reflects.distinct
  · intro key time
    rw [live, last]
    exact reflects.last key time
  · refine ⟨births, ⟨ordered, ?_⟩, spelled⟩
    intro place id
    rw [born]
    exact complete place id

/-- Every operation leaves a ledger that reflects it. -/
theorem perform (operation : Operation) :
    Reflects (history ++ [operation]) (ledger.perform operation).2 := by
  cases operation with
  | record id time => exact reflects.record id time
  | retain queued => exact reflects.retain queued
  | verdict id now => exact reflects.reading trivial
  | time id => exact reflects.reading trivial
  | contains id => exact reflects.reading trivial
  | size => exact reflects.reading trivial

theorem time?_eq_none_iff {key : Key} : ledger.time? key = none ↔ ¬ Live history key := by
  rw [Ledger.time?_eq_none_iff, reflects.live]

theorem contains_iff {key : Key} : ledger.contains key = true ↔ Live history key := by
  rw [Ledger.contains_iff, reflects.live]

theorem card_live
    {keys : Finset Key}
    (live : ∀ key, key ∈ keys ↔ Live history key) :
    keys.card = ledger.size := by
  have same : keys = (ledger.entries.map (·.key)).toFinset := by
    ext key
    rw [live, List.mem_toFinset, reflects.live]
  rw [same, List.toFinset_card_of_nodup reflects.distinct, List.length_map, size]

/-- The jobs that a strike removes are those that were live before it and are not so after
it. -/
theorem mem_keys_departed {queued : List JobId} {key : Key} :
    key ∈ (ledger.departed (JobId.keys queued)).map (·.key) ↔
      Live history key ∧ ¬ Live (history ++ [.retain queued]) key := by
  rw [keys_departed, List.mem_filter, reflects.live, live_retain_iff]
  simp +contextual

theorem card_struck
    {queued : List JobId}
    {keys : Finset Key}
    (struck : ∀ key, key ∈ keys ↔ Live history key ∧ ¬ Live (history ++ [.retain queued]) key) :
    keys.card = (ledger.departed (JobId.keys queued)).length := by
  have same : keys = ((ledger.departed (JobId.keys queued)).map (·.key)).toFinset := by
    ext key
    rw [struck, List.mem_toFinset, reflects.mem_keys_departed]
  have distinct : ((ledger.departed (JobId.keys queued)).map (·.key)).Nodup := by
    rw [keys_departed]
    exact reflects.distinct.filter _
  rw [same, List.toFinset_card_of_nodup distinct, List.length_map]

/-- The answer of a ledger is one that its history allows. -/
theorem answers (operation : Operation) :
    Answers ledger.lifetime history operation (ledger.perform operation).1 := by
  cases operation with
  | record id time => exact .recorded id time
  | verdict id now =>
    simp only [Ledger.perform, verdict]
    cases found : ledger.time? id.key with
    | none => exact .fresh id now (reflects.time?_eq_none_iff.mp found)
    | some time =>
      rcases (reflects.last id.key time).mp found with ⟨live, last⟩
      dsimp only
      split
      next recent => exact .skip id now time live last recent
      next due => exact .retry id now time live last due
  | time id =>
    simp only [Ledger.perform]
    cases found : ledger.time? id.key with
    | none => exact .untimed id (reflects.time?_eq_none_iff.mp found)
    | some time =>
      rcases (reflects.last id.key time).mp found with ⟨live, last⟩
      exact .timed id time live last
  | contains id =>
    simp only [Ledger.perform]
    cases known : ledger.contains id.key with
    | true => exact .contained id (reflects.contains_iff.mp known)
    | false =>
      apply Answers.missing
      rw [← reflects.contains_iff, known]
      exact Bool.false_ne_true
  | size =>
    have live (key : Key) :
        key ∈ (ledger.entries.map (·.key)).toFinset ↔ Live history key := by
      rw [List.mem_toFinset, reflects.live]
    simp only [Ledger.perform, ← reflects.card_live live]
    exact .size _ live
  | retain queued =>
    have struck (key : Key) :
        key ∈ ((ledger.departed (JobId.keys queued)).map (·.key)).toFinset ↔
          Live history key ∧ ¬ Live (history ++ [.retain queued]) key := by
      rw [List.mem_toFinset, reflects.mem_keys_departed]
    simp only [Ledger.perform, ← reflects.card_struck struck]
    exact .departed queued _ struck

/-- It is the only one. -/
theorem answer_eq
    {operation : Operation}
    {answer : Answer}
    (allowed : Answers ledger.lifetime history operation answer) :
    (ledger.perform operation).1 = answer := by
  cases allowed with
  | recorded id time => rfl
  | fresh id now gone =>
    simp only [Ledger.perform, verdict, reflects.time?_eq_none_iff.mpr gone]
  | skip id now time live last recent =>
    have found := (reflects.last id.key time).mpr ⟨live, last⟩
    simp only [Ledger.perform, verdict, found, if_pos recent]
  | retry id now time live last due =>
    have found := (reflects.last id.key time).mpr ⟨live, last⟩
    simp only [Ledger.perform, verdict, found, if_neg due]
  | timed id time live last =>
    have found := (reflects.last id.key time).mpr ⟨live, last⟩
    simp only [Ledger.perform, found]
  | untimed id gone => simp only [Ledger.perform, reflects.time?_eq_none_iff.mpr gone]
  | contained id live => simp only [Ledger.perform, reflects.contains_iff.mpr live]
  | missing id gone =>
    have unknown : ledger.contains id.key = false := by
      simpa using mt reflects.contains_iff.mp gone
    simp only [Ledger.perform, unknown]
  | size keys live => rw [reflects.card_live live, Ledger.perform]
  | departed queued keys struck => rw [reflects.card_struck struck, Ledger.perform]

end Reflects

@[simp]
theorem lifetime_perform (operation : Operation) :
    (ledger.perform operation).2.lifetime = ledger.lifetime := by
  cases operation <;> rfl

@[simp]
theorem lifetime_after (ledger : Ledger) (history : List Operation) :
    (ledger.after history).lifetime = ledger.lifetime := by
  induction history generalizing ledger with
  | nil => rfl
  | cons operation rest ih =>
    rw [after, List.foldl_cons, ← after, ih, lifetime_perform]

/-- A ledger that was empty at first reflects what was done with it. -/
theorem reflects_after (lifetime : Float) (history : List Operation) :
    Reflects history ((⟨lifetime, []⟩ : Ledger).after history) := by
  induction history using List.reverseRecOn with
  | nil => exact reflects_nil lifetime
  | append_singleton history operation ih =>
    rw [after, List.foldl_append]
    exact ih.perform operation

theorem perform_of_isReading
    {operation : Operation}
    (reading : operation.IsReading)
    (ledger : Ledger) :
    (ledger.perform operation).2 = ledger := by
  cases operation with
  | record id time => exact reading.elim
  | retain queued => exact reading.elim
  | _ => rfl

/-- Two strikes in a row are one that keeps what both keep. -/
theorem retain_retain
    (ledger : Ledger)
    {first second both : List Key}
    (common : ∀ key, key ∈ both ↔ key ∈ first ∧ key ∈ second) :
    (ledger.retain first).retain second = ledger.retain both := by
  have same (entry : Entry) :
      (second.contains entry.key && first.contains entry.key) = both.contains entry.key := by
    rw [Bool.eq_iff_iff, Bool.and_eq_true, List.contains_iff_mem, List.contains_iff_mem,
      List.contains_iff_mem, common, and_comm]
  simp only [retain, List.filter_filter, same]

/-- A ledger refines its history.

After any operations on an empty ledger that it was possible to make, it gives exactly the
answers that the history allows.  Its entries are those of the ids that became live and
still are, in the order of the records that made them live and under the ids of these.
Questions leave it as it is, and two strikes in a row, in either order, leave what one strike
leaves that keeps the ids common to both. -/
theorem after_refines
    {lifetime : Float}
    {ledger : Ledger}
    (made : ofLifetime? lifetime = some ledger)
    (history : List Operation) :
    let reached := ledger.after history
    (∀ operation answer,
        (reached.perform operation).1 = answer ↔
          Answers lifetime history operation answer) ∧
      (∃ births,
        Births history births ∧
          reached.spellings = births.map fun birth => (birth.2.key, birth.2.value)) ∧
      (∀ operation : Operation,
        operation.IsReading → (reached.perform operation).2 = reached) ∧
      ∀ first second both : List JobId,
        (∀ key, key ∈ JobId.keys both ↔ key ∈ JobId.keys first ∧ key ∈ JobId.keys second) →
          reached.after [.retain first, .retain second] = reached.after [.retain both] ∧
            reached.after [.retain second, .retain first] = reached.after [.retain both] := by
  have empty : ledger = ⟨lifetime, []⟩ := by
    rw [ofLifetime?] at made
    split at made
    · cases made
    · exact (Option.some.inj made).symm
  subst empty
  intro reached
  have reflects : Reflects history reached := reflects_after lifetime history
  have sameLifetime : reached.lifetime = lifetime := lifetime_after _ history
  refine ⟨?_, reflects.births, ?_, ?_⟩
  · intro operation answer
    constructor
    · rintro rfl
      exact sameLifetime ▸ reflects.answers operation
    · intro allowed
      rw [← sameLifetime] at allowed
      exact reflects.answer_eq allowed
  · exact fun operation reading => perform_of_isReading reading reached
  · intro first second both common
    constructor
    · exact reached.retain_retain common
    · exact reached.retain_retain fun key => (common key).trans and_comm

/-- The integer one as an id. -/
def one : JobId := ⟨.int 1, .number 1 0, rfl⟩

/-- Another spelling of one. -/
def realOne : JobId := ⟨.real 1.0, .number 1 0, by decide +kernel⟩

/-- A text as an id. -/
def build : JobId := ⟨.text "build", .text "build", rfl⟩

/-- One is recorded again at an earlier time, is struck, and returns under another spelling. -/
def comings : List Operation :=
  [.record one 100.0, .record realOne 90.0, .time one, .record build 95.0, .retain [build],
    .record realOne 50.0]

/-- The returned id comes after the one that stayed, and is due by the time of its return. -/
theorem after_refines_comings :
    ofLifetime? 300.0 = some ⟨300.0, []⟩ ∧
      (∃ births,
        Births comings births ∧
          births.map (fun birth => birth.2.key) = [.text "build", .number 1 0]) ∧
      Answers 300.0 comings (.verdict one 360.0) (.verdict .retry) ∧
      Answers 300.0 comings (.verdict build 360.0) (.verdict .skip) ∧
      Answers 300.0 comings (.contains one) (.contains true) ∧
      Answers 300.0 comings .size (.size 2) ∧
      Answers 300.0 comings (.retain [build]) (.departed 1) := by
  have made : ofLifetime? 300.0 = some ⟨300.0, []⟩ := if_neg (by decide +kernel)
  rcases after_refines made comings with ⟨answers, ⟨births, born, spelled⟩, _, _⟩
  refine ⟨made, ⟨births, born, ?_⟩, (answers _ _).mp ?_, (answers _ _).mp ?_,
    (answers _ _).mp ?_, (answers _ _).mp ?_, (answers _ _).mp ?_⟩
  · have keys := congrArg (List.map Prod.fst) spelled
    rw [List.map_map] at keys
    exact keys.symm.trans (by decide +kernel)
  · exact congrArg Answer.verdict (by decide +kernel)
  · exact congrArg Answer.verdict (by decide +kernel)
  · exact congrArg Answer.contains (by decide +kernel)
  · exact congrArg Answer.size (by decide +kernel)
  · exact congrArg Answer.departed (by decide +kernel)

end Ledger

end RunnerFleet
