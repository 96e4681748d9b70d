import RunnerFleet.Value.Key

/-!
# The ledger of requested runners

A pool's ledger remembers for which queued jobs a runner was requested, and
when.  While a request is younger than the ledger's lifetime the job is left
alone; afterwards the runner is presumed lost and one more may be requested.  A
job that is no longer queued is struck from the ledger.

Entries are in the order in which their jobs were first entered, and an entry
keeps the spelling of the id under which it was made.
-/

namespace RunnerFleet

/-- What a ledger says about a queued job. -/
inductive Verdict where
  /-- A runner was requested recently. -/
  | skip
  /-- A runner was requested, but its time is up. -/
  | retry
  /-- No runner was requested. -/
  | fresh
  deriving DecidableEq, Repr

/-- The word for a verdict. -/
def Verdict.word : Verdict → String
  | .skip => "skip"
  | .retry => "retry"
  | .fresh => "new"

/-- A request: the job's id, its key, and the time of the latest request. -/
structure Entry where
  key : Key
  id : Value
  time : Float

/-- The requests of one pool and how long a request counts. -/
structure Ledger where
  lifetime : Float
  entries : List Entry

namespace Ledger

/-- How long a request counts where nothing is configured, in seconds. -/
def standardLifetime : Float := 300.0

/-- An empty ledger, unless the lifetime is zero or negative. -/
def ofLifetime? (lifetime : Float) : Option Ledger :=
  if lifetime ≤ 0.0 then none else some ⟨lifetime, []⟩

/-- The entry of a job. -/
def find? (ledger : Ledger) (key : Key) : Option Entry :=
  ledger.entries.find? (·.key == key)

/-- The time of the latest request for a job. -/
def time? (ledger : Ledger) (key : Key) : Option Float :=
  (ledger.find? key).map (·.time)

/-- Whether a job is in the ledger. -/
def contains (ledger : Ledger) (key : Key) : Bool :=
  ledger.entries.any (·.key == key)

/-- How many jobs are in the ledger. -/
def size (ledger : Ledger) : Nat :=
  ledger.entries.length

/-- What to do about a queued job at a time. -/
def verdict (ledger : Ledger) (key : Key) (now : Float) : Verdict :=
  match ledger.time? key with
  | none => .fresh
  | some time => if now - time < ledger.lifetime then .skip else .retry

/-- Enter a request among entries: a known job gets the new time in its place,
any other job goes to the end. -/
def enter (entry : Entry) : List Entry → List Entry
  | [] => [entry]
  | other :: rest =>
    if other.key == entry.key then { other with time := entry.time } :: rest
    else other :: enter entry rest

/-- Record that a runner was requested for a job. -/
def record (ledger : Ledger) (key : Key) (id : Value) (time : Float) : Ledger :=
  { ledger with entries := enter ⟨key, id, time⟩ ledger.entries }

/-- The entries of the jobs that are not among the given keys. -/
def departed (ledger : Ledger) (queued : List Key) : List Entry :=
  ledger.entries.filter (!queued.contains ·.key)

/-- Strike the jobs that are not among the given keys. -/
def retain (ledger : Ledger) (queued : List Key) : Ledger :=
  { ledger with entries := ledger.entries.filter (queued.contains ·.key) }

@[simp]
theorem lifetime_record
    (ledger : Ledger)
    (key : Key)
    (id : Value)
    (time : Float) :
    (ledger.record key id time).lifetime = ledger.lifetime :=
  rfl

@[simp]
theorem lifetime_retain
    (ledger : Ledger)
    (queued : List Key) :
    (ledger.retain queued).lifetime = ledger.lifetime :=
  rfl

/-- An entry is either retained or departed. -/
theorem size_retain_add_departed
    (ledger : Ledger)
    (queued : List Key) :
    (ledger.retain queued).size + (ledger.departed queued).length = ledger.size := by
  simp only [size, retain, departed]
  induction ledger.entries with
  | nil => rfl
  | cons entry rest ih =>
    cases known : queued.contains entry.key <;>
      simp only [List.filter_cons, known, Bool.not_true, Bool.not_false, if_true,
        Bool.false_eq_true, if_false, List.length_cons] <;> omega

end Ledger

end RunnerFleet
