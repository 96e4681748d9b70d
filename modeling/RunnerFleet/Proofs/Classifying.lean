import RunnerFleet.Proofs.Configuring
import RunnerFleet.Proofs.Reporting

/-!
# Failures of no class

A pass over a pool in order ends with a decision, or it fails.  The service knows some classes
of failures: the forge refused or could not be reached, its answer is malformed, or the stop
signal arrived.

The forge may answer with anything, and reading an answer only notices some unexpected shapes
as malformed.  The others slip through and end the pass with a failure of no class.  They are
told here from the inside out, for an entry of a page, for the content of a page, for an
exchange and for a whole pass.
-/

namespace RunnerFleet

/-! ## Classes of failures -/

/-- Whether a failure that ends a pass is of a class that the service knows: the forge refused
or could not be reached, its answer is malformed, or the stop signal arrived. -/
def Failure.IsClassified : Failure → Prop
  | .refused _ | .unreachable _ _ | .malformed _ => True
  | .cancelledBefore _ | .cancelledStarting _ => True
  | _ => False

/-- Whether a failure is a finding on the shape of an answer. -/
def Failure.IsMalformed : Failure → Prop
  | .malformed _ => True
  | _ => False

theorem Failure.IsMalformed.isClassified {failure : Failure} (malformed : failure.IsMalformed) :
    failure.IsClassified := by
  cases failure with
  | malformed => trivial
  | _ => cases malformed

/-! ## Values of the wrong kind -/

namespace Value

/-- Whether a value has elements. -/
def isIterable : Value → Bool
  | .list _ | .text _ | .object _ => true
  | _ => false

/-- A value counts as given, but it has no elements: it is true, or a number. -/
def IsSingle (value : Value) : Prop :=
  value.truthy = true ∧ value.isIterable = false

theorem elements_eq_error_iff {value : Value} {failure : Failure} :
    value.elements = .error failure ↔
      value.isIterable = false ∧ failure = .clash (.notIterable value) := by
  cases value <;> simp [elements, isIterable, eq_comm]

/-- A field that lists things cannot be gone through if it is given as a single value. -/
theorem elements_orElse_eq_error_iff {value : Value} {failure : Failure} :
    (value.orElse (.list [])).elements = .error failure ↔
      value.IsSingle ∧ failure = .clash (.notIterable value) := by
  rw [orElse, IsSingle]
  cases value.truthy with
  | true =>
    rw [if_pos rfl, elements_eq_error_iff]
    simp
  | false => simp [elements]

/-- Whether a value is a list or an object that holds a slash by itself. -/
def HoldsSlash : Value → Prop
  | .list items => items.any Repository.isSlash = true
  | .object fields => fields.any (·.1 == "/") = true
  | _ => False

end Value

/-! ## Entries -/

/-- An entry of a page of jobs slips through: it has an id, but its labels are a single
value. -/
inductive Job.Slips : Value → Failure → Prop where
  | labels
      {fields : Fields}
      (identified : Fields.get fields "id" ≠ .null)
      (single : (Fields.get fields "labels").IsSingle) :
      Slips (.object fields) (.clash (.notIterable (Fields.get fields "labels")))

/-- An entry with an id is a job if its labels can be gone through. -/
theorem Job.failureOf_ofValue
    {fields : Fields}
    (identified : Fields.get fields "id" ≠ .null) :
    failureOf (ofValue (.object fields)) =
      failureOf ((Fields.get fields "labels").orElse (.list [])).elements := by
  rw [ofValue]
  split
  · contradiction
  · rw [failureOf_bind]
    cases ((Fields.get fields "labels").orElse (.list [])).elements with
    | error failure => rfl
    | ok labels => rfl

/-- An entry slips through exactly if reading it fails without a finding on its shape. -/
theorem Job.slips_iff {entry : Value} {failure : Failure} :
    Slips entry failure ↔
      failureOf (ofValue entry) = some failure ∧ ¬ failure.IsMalformed := by
  constructor
  · rintro ⟨identified, single⟩
    rw [failureOf_ofValue identified, failureOf_eq_some_iff, Value.elements_orElse_eq_error_iff]
    exact ⟨⟨single, rfl⟩, not_false⟩
  · rintro ⟨failed, unnoticed⟩
    cases entry with
    | object fields =>
      by_cases identified : Fields.get fields "id" = .null
      · rw [ofValue, identified] at failed
        cases failed
        exact absurd trivial unnoticed
      · rw [failureOf_ofValue identified, failureOf_eq_some_iff,
          Value.elements_orElse_eq_error_iff] at failed
        rcases failed with ⟨single, rfl⟩
        exact .labels identified single
    | null | bool | int | real | text | list =>
      cases failed
      exact absurd trivial unnoticed

namespace Repository

/-- The owner that an entry of a page of repositories gives by itself. -/
def ownerOf (fields : Fields) : Value :=
  match (Fields.get fields "owner").orElse (.object []) with
  | .object owner => Fields.getOr owner "login" (.text "")
  | _ => .null

/-- The name that an entry gives by itself. -/
def nameOf (fields : Fields) : Value :=
  Fields.getOr fields "name" (.text "")

/-- The full name that an entry gives. -/
def fullNameOf (fields : Fields) : Value :=
  Fields.getOr fields "full_name" (.text "")

/-- An entry lacks its owner or its name, so that both are sought in its full name. -/
def IsPartial (fields : Fields) : Prop :=
  ((ownerOf fields).truthy && (nameOf fields).truthy) = false

/-- The owner of an entry is given, but not as an object. -/
def IsDisowned (fields : Fields) : Prop :=
  (Fields.get fields "owner").truthy = true ∧ (Fields.get fields "owner").isObject = false

/-- An entry of a page of repositories slips through: its owner is given as something other
than an object; or it lacks its owner or its name, and its full name is null, a truth value or
a number, or it is a list or an object that holds a slash. -/
inductive Slips : Value → Failure → Prop where
  | owner
      {fields : Fields}
      (disowned : IsDisowned fields) :
      Slips (.object fields) (.noAttribute (Fields.get fields "owner") "get")
  | fullName
      {fields : Fields}
      (owned : ¬ IsDisowned fields)
      (lacking : IsPartial fields)
      (single : (fullNameOf fields).isIterable = false) :
      Slips (.object fields) (.clash (.notContainer (fullNameOf fields)))
  | slash
      {fields : Fields}
      (owned : ¬ IsDisowned fields)
      (lacking : IsPartial fields)
      (slash : (fullNameOf fields).HoldsSlash) :
      Slips (.object fields) (.noAttribute (fullNameOf fields) "split")

theorem ofFullName_eq_error_iff {fullName : Value} {failure : Failure} :
    ofFullName fullName = .error failure ↔
      fullName.isIterable = false ∧ failure = .clash (.notContainer fullName) ∨
        fullName.HoldsSlash ∧ failure = .noAttribute fullName "split" := by
  cases fullName with
  | list items =>
    rw [ofFullName]
    split
    next holds => simp [Value.isIterable, Value.HoldsSlash, holds, eq_comm]
    next lacks => simp [Value.isIterable, Value.HoldsSlash, lacks]
  | object fields =>
    rw [ofFullName]
    split
    next holds => simp [Value.isIterable, Value.HoldsSlash, holds, eq_comm]
    next lacks => simp [Value.isIterable, Value.HoldsSlash, lacks]
  | null | bool | int | real | text =>
    simp [ofFullName, Value.isIterable, Value.HoldsSlash, eq_comm]

/-- The owner of an entry is an object, or it does not count as given, or the entry is
disowned. -/
theorem owner_cases (fields : Fields) :
    IsDisowned fields ∧
        (Fields.get fields "owner").orElse (.object []) = Fields.get fields "owner" ∨
      ¬ IsDisowned fields ∧
        ∃ owner, (Fields.get fields "owner").orElse (.object []) = .object owner := by
  rw [IsDisowned, Value.orElse]
  cases given : (Fields.get fields "owner").truthy with
  | false => exact .inr ⟨by simp, [], rfl⟩
  | true =>
    cases Fields.get fields "owner" with
    | object owner => exact .inr ⟨by simp [Value.isObject], owner, rfl⟩
    | null | bool | int | real | text | list => exact .inl ⟨⟨rfl, rfl⟩, rfl⟩

theorem failureOf_disowned {fields : Fields} (disowned : IsDisowned fields) :
    failureOf (ofValue (.object fields)) =
      some (.noAttribute (Fields.get fields "owner") "get") := by
  rcases owner_cases fields with ⟨_, same⟩ | ⟨owned, _⟩
  · rw [ofValue, same]
    rcases disowned with ⟨_, other⟩
    cases owner : Fields.get fields "owner" with
    | object => simp [owner, Value.isObject] at other
    | null | bool | int | real | text | list => rfl
  · exact absurd disowned owned

/-- An entry with an owner and a name can be read; one that lacks either is read if its full
name gives both. -/
theorem failureOf_owned {fields : Fields} (owned : ¬ IsDisowned fields) :
    failureOf (ofValue (.object fields)) =
      if (ownerOf fields).truthy && (nameOf fields).truthy then
        none
      else
        match ofFullName (fullNameOf fields) with
        | .error failure => some failure
        | .ok found =>
          let pair := found.getD (ownerOf fields, nameOf fields)
          if pair.1.truthy && pair.2.truthy then none
          else some (.malformed (.repositoryName (.object fields))) := by
  rcases owner_cases fields with ⟨disowned, _⟩ | ⟨_, owner, same⟩
  · exact absurd disowned owned
  · have named (pair : Value × Value) (fullName : Value) :
        failureOf
            (if pair.1.truthy && pair.2.truthy then
              pure
                { owner := pair.1
                  name := pair.2
                  fullName := fullName.orElse (.text (pair.1.plain ++ "/" ++ pair.2.plain)) }
            else
              throw (.malformed (.repositoryName (.object fields))) :
                Except Failure Repository) =
          if pair.1.truthy && pair.2.truthy then none
          else some (.malformed (.repositoryName (.object fields))) := by
      split
      · rfl
      · rfl
    rw [ofValue, ownerOf, nameOf, fullNameOf, same]
    dsimp only
    rw [pure_bind]
    split
    next whole =>
      rw [pure_bind, if_pos whole]
      rfl
    next lacking =>
      cases ofFullName (Fields.getOr fields "full_name" (.text "")) with
      | error failure => rfl
      | ok found => exact named (found.getD _) _

/-- An entry slips through exactly if reading it fails without a finding on its shape. -/
theorem slips_iff {entry : Value} {failure : Failure} :
    Slips entry failure ↔
      failureOf (ofValue entry) = some failure ∧ ¬ failure.IsMalformed := by
  constructor
  · intro slips
    cases slips with
    | owner disowned => exact ⟨failureOf_disowned disowned, not_false⟩
    | @fullName fields owned lacking single =>
      refine ⟨?_, not_false⟩
      rw [failureOf_owned owned, if_neg (Bool.eq_false_iff.mp lacking),
        ofFullName_eq_error_iff.mpr (.inl ⟨single, rfl⟩)]
    | @slash fields owned lacking slash =>
      refine ⟨?_, not_false⟩
      rw [failureOf_owned owned, if_neg (Bool.eq_false_iff.mp lacking),
        ofFullName_eq_error_iff.mpr (.inr ⟨slash, rfl⟩)]
  · rintro ⟨failed, unnoticed⟩
    cases entry with
    | object fields =>
      by_cases disowned : IsDisowned fields
      · rw [failureOf_disowned disowned] at failed
        cases failed
        exact .owner disowned
      · rw [failureOf_owned disowned] at failed
        split at failed
        · cases failed
        next lacking =>
          have lacking : IsPartial fields := Bool.eq_false_iff.mpr lacking
          split at failed
          next other told =>
            cases failed
            rcases ofFullName_eq_error_iff.mp told with ⟨single, rfl⟩ | ⟨slash, rfl⟩
            · exact .fullName disowned lacking single
            · exact .slash disowned lacking slash
          · dsimp only at failed
            split at failed
            · cases failed
            · cases failed
              exact absurd trivial unnoticed
    | null | bool | int | real | text | list =>
      cases failed
      exact absurd trivial unnoticed

end Repository

/-! ## Exchanges -/

namespace Request

variable {request : Request} {value entry : Value} {failure : Failure}

/-- An entry of the page that a request asks for slips through. -/
def EntrySlips (request : Request) (entry : Value) (failure : Failure) : Prop :=
  match request.status with
  | some _ => Job.Slips entry failure
  | none => Repository.Slips entry failure

theorem entrySlips_iff :
    request.EntrySlips entry failure ↔
      request.entryFailure? entry = some failure ∧ ¬ failure.IsMalformed := by
  rw [EntrySlips, entryFailure?]
  cases request.status with
  | some status => exact Job.slips_iff
  | none => exact Repository.slips_iff

/-- The content of a page slips through: its jobs are given as a single value, or an entry that
comes after readable ones slips through. -/
inductive Slips (request : Request) : Value → Failure → Prop where
  | jobs
      {status : String}
      {fields : Fields}
      (asked : request.status = some status)
      (single : (Fields.get fields "jobs").IsSingle) :
      Slips request (.object fields) (.clash (.notIterable (Fields.get fields "jobs")))
  | entry
      {value : Value}
      {before : List Value}
      {entry : Value}
      {after : List Value}
      {failure : Failure}
      (lists : request.Lists value (before ++ entry :: after))
      (readable : ∀ earlier ∈ before, request.entryFailure? earlier = none)
      (slips : request.EntrySlips entry failure) :
      Slips request value failure

theorem slips_iff :
    request.Slips value failure ↔
      request.Rejects value failure ∧ ¬ failure.IsMalformed := by
  constructor
  · intro slips
    cases slips with
    | jobs asked single =>
      have unlisted := Value.elements_orElse_eq_error_iff.mpr ⟨single, rfl⟩
      exact ⟨.notIterable asked unlisted, not_false⟩
    | entry lists readable slips =>
      rcases entrySlips_iff.mp slips with ⟨fault, unnoticed⟩
      exact ⟨.entry lists readable fault, unnoticed⟩
  · rintro ⟨rejects, unnoticed⟩
    cases rejects with
    | noJobs asked other => exact absurd trivial unnoticed
    | noRepositories asked other => exact absurd trivial unnoticed
    | notIterable asked unlisted =>
      rcases Value.elements_orElse_eq_error_iff.mp unlisted with ⟨single, rfl⟩
      exact .jobs asked single
    | entry lists readable fault =>
      exact .entry lists readable (entrySlips_iff.mpr ⟨fault, unnoticed⟩)

theorem Slips.unclassified (slips : request.Slips value failure) :
    ¬ failure.IsClassified := by
  cases slips with
  | jobs asked single => exact not_false
  | entry lists readable slips =>
    rw [EntrySlips] at slips
    split at slips
    · cases slips
      exact not_false
    · cases slips with
      | owner | fullName | slash => exact not_false

end Request

namespace Exchange

variable {exchange : Exchange} {failure : Failure}

/-- An exchange slips through: its answer of success is nested too deep, or the content does. -/
inductive Slips (exchange : Exchange) : Failure → Prop where
  | tooDeep
      {body : Text}
      {nest : Json.Nest}
      (answered : exchange.reply = .answer 200 body)
      (unread : Json.read exchange.nesting body = .error (.tooDeep nest)) :
      Slips exchange (.tooDeep nest)
  | content
      {value : Value}
      {failure : Failure}
      (told : exchange.reply.Tells exchange.nesting value)
      (slips : exchange.request.Slips value failure) :
      Slips exchange failure

theorem Slips.unclassified (slips : exchange.Slips failure) : ¬ failure.IsClassified := by
  cases slips with
  | tooDeep answered unread => exact not_false
  | content told slips => exact slips.unclassified

/-- An exchange with an answer of success is to blame for a finding on its shape, or it slips
through. -/
theorem malformed_or_slips
    {body : Text}
    (answered : exchange.reply = .answer 200 body)
    (blames : exchange.Blames failure) :
    failure.IsMalformed ∨ exchange.Slips failure := by
  by_cases unnoticed : failure.IsMalformed
  · exact .inl unnoticed
  · rcases blames with fails | ⟨value, told, rejects⟩
    · rw [answered] at fails
      cases fails with
      | refused _ _ unsuccessful => exact absurd rfl unsuccessful
      | notJson => exact absurd trivial unnoticed
      | tooDeep _ _ unread => exact .inr (.tooDeep answered unread)
    · exact .inr (.content told (Request.slips_iff.mpr ⟨rejects, unnoticed⟩))

/-- An exchange that is to blame for a failure of no class slips through, unless something
else than the transport failed. -/
theorem slips_of_blames
    (transport : ∀ fault, exchange.reply = .fault fault → fault.origin.isTransport = true)
    (blames : exchange.Blames failure)
    (unclassified : ¬ failure.IsClassified) :
    exchange.Slips failure := by
  cases reply : exchange.reply with
  | fault fault =>
    rcases blames with fails | ⟨_, ⟨_, told, _⟩, _⟩
    · rw [reply] at fails
      cases fails with
      | unreachable => exact absurd trivial unclassified
      | outside _ other =>
        rw [transport fault reply] at other
        cases other
    · rw [reply] at told
      cases told
  | answer status body =>
    by_cases success : status = 200
    · subst success
      rcases malformed_or_slips reply blames with malformed | slips
      · exact absurd malformed.isClassified unclassified
      · exact slips
    · rcases blames with fails | ⟨_, ⟨_, told, _⟩, _⟩
      · rw [reply] at fails
        cases fails with
        | refused => exact absurd trivial unclassified
        | notJson | tooDeep => exact absurd rfl success
      · rw [reply] at told
        cases told
        exact absurd rfl success

end Exchange

namespace Outside

variable {outside : Outside} {moment : Moment} {calls : List Call}

/-- The forge is only ever reached over the transport. -/
def IsReachedByTransport (outside : Outside) : Prop :=
  ∀ history request fault,
    outside.serve history request = .fault fault → fault.origin.isTransport = true

theorem IsReachedByTransport.reply
    (transport : outside.IsReachedByTransport)
    {exchange : Exchange}
    (member : exchange ∈ outside.exchanges moment calls)
    {fault : Fault}
    (failed : exchange.reply = .fault fault) :
    fault.origin.isTransport = true := by
  induction calls generalizing moment with
  | nil => cases member
  | cons made rest ih =>
    rcases List.mem_append.mp member with now | later
    · cases made with
      | ask request =>
        rcases List.mem_singleton.mp now with rfl
        dsimp only [replyAt] at failed
        split at failed
        · cases failed
          rfl
        · exact transport _ _ _ failed
      | list | run | wait => cases now
    · exact ih later

theorem exchanges_eq_nil (silent : ∀ made ∈ calls, made.isRun = true) :
    outside.exchanges moment calls = [] := by
  induction calls generalizing moment with
  | nil => rfl
  | cons made rest ih =>
    rcases List.forall_mem_cons.mp silent with ⟨first, later⟩
    rw [exchanges, ih later, List.append_nil]
    cases made with
    | run => rfl
    | ask | list | wait => cases first

end Outside

/-! ## Passes -/

namespace Provisioner

variable (provisioner : Provisioner) (pool : Pool) (active : Int)

/-- Where the credential for registration is there, the starting of runners ends with a failure
only if it is interrupted. -/
theorem startAll_interrupted_of_token
    (labels : List Text)
    (candidates : List Candidate)
    {world : World}
    {token : Text}
    (found : pool.registrationToken world.environment = .ok (some token))
    (given : token ≠ []) :
    (provisioner.startAll pool labels candidates).Does world fun starts _ after =>
      ∀ failure, starts.ended = some (.failure failure) →
        Interrupts world.outside pool active after failure := by
  simp only [startAll]
  split
  · refine Act.Does.pure ?_
    rintro _ ⟨⟩
  · refine Act.Does.bind (Act.Does.get ?_)
    rw [found]
    dsimp only
    rw [if_neg (by simpa using given)]
    exact provisioner.startEach_interrupted pool active token labels candidates world

/-- So does the part of a pass that starts runners. -/
theorem provide_interrupted
    (prospect : Prospect)
    {world : World}
    {token : Text}
    (found : pool.registrationToken world.environment = .ok (some token))
    (given : token ≠ []) :
    (provisioner.provide pool active prospect).Does world fun answer _ after =>
      ∀ failure, answer.1 = .failed failure →
        Interrupts world.outside pool active after failure := by
  apply provisioner.provide_parts pool
  apply (provisioner.startAll_interrupted_of_token pool active _ _ found given).mono
  rintro ⟨made, ended⟩ calls after _ interrupted ending noted concludes follows _ reason told
  have stays (arrived : after.stopped = true) : noted.stopped = true :=
    follows.stopped.trans arrived
  cases concludes with
  | finished _ => cases told
  | unwritable long =>
    cases told
    exact .unwritable long
  | fault _ => cases told
  | failure _ =>
    cases told
    exact (interrupted reason rfl).later stays

/-- What a pass fails with that is of no class, given its exchanges: what slips through in the
last of them, the others being sound; a job of a complete fetch whose id is a list or an object;
or a number that has too many digits for the log, which is that of the free slots or, without
any, that of the live runners or the capacity. -/
inductive Escapes (exchanges : List Exchange) : Failure → Prop where
  | answer
      {before : List Exchange}
      {last : Exchange}
      {failure : Failure}
      (split : exchanges = before ++ [last])
      (sound : ∀ exchange ∈ before, exchange.IsSound)
      (slips : last.Slips failure) :
      Escapes exchanges failure
  | id
      {scope : Scope}
      {before : List Job}
      {job : Job}
      {after : List Job}
      (known : pool.scope = .known scope)
      (fetched :
        provisioner.forge.HasFetched scope pool.organisation pool.user pool.repository
          (provisioner.offered pool) exchanges (before ++ job :: after))
      (keyed : ∀ earlier ∈ before, earlier.id.key? ≠ none)
      (unkeyed : job.id.key? = none) :
      Escapes exchanges (.clash (.noKey job.id))
  | full
      (full : freeSlots pool active = 0)
      (long : isShowable pool active = false) :
      Escapes exchanges .tooManyDigits
  | slots
      (long : Number.isWritable (freeSlots pool active) = false) :
      Escapes exchanges .tooManyDigits

theorem Escapes.unclassified
    {provisioner : Provisioner}
    {pool : Pool}
    {active : Int}
    {exchanges : List Exchange}
    {failure : Failure}
    (escapes : provisioner.Escapes pool active exchanges failure) :
    ¬ failure.IsClassified := by
  cases escapes with
  | answer split sound slips => exact slips.unclassified
  | id | full | slots => exact not_false

/-- What becomes of the exchanges of a pass: a failure of no class escapes from them, and an
answer of success that is not sound ends the pass as malformed, or slips through. -/
structure Classifies (exchanges : List Exchange) (ended : PassEnd) : Prop where
  escapes :
    ∀ failure, ended = .failed failure →
      ¬ failure.IsClassified → provisioner.Escapes pool active exchanges failure
  noticed :
    ∀ exchange ∈ exchanges, ∀ body,
      exchange.reply = .answer 200 body → ¬ exchange.IsSound →
        ∃ failure, ended = .failed failure ∧ (failure.IsMalformed ∨ exchange.Slips failure)

variable {provisioner pool active}

theorem Classifies.of_sound
    {exchanges : List Exchange}
    {ended : PassEnd}
    (sound : ∀ exchange ∈ exchanges, exchange.IsSound)
    (escapes :
      ∀ failure, ended = .failed failure →
        ¬ failure.IsClassified → provisioner.Escapes pool active exchanges failure) :
    provisioner.Classifies pool active exchanges ended where
  escapes := escapes
  noticed exchange member _ _ unsound := absurd (sound exchange member) unsound

/-- A fetch that breaks off at an exchange is classified with it. -/
theorem Classifies.of_broken
    {exchanges before : List Exchange}
    {last : Exchange}
    {failure : Failure}
    (split : exchanges = before ++ [last])
    (sound : ∀ exchange ∈ before, exchange.IsSound)
    (blames : last.Blames failure)
    (transport : ∀ fault, last.reply = .fault fault → fault.origin.isTransport = true) :
    provisioner.Classifies pool active exchanges (.failed failure) where
  escapes := by
    rintro _ ⟨⟩ unclassified
    exact .answer split sound (Exchange.slips_of_blames transport blames unclassified)
  noticed := by
    intro exchange member body answered unsound
    rw [split, List.mem_append, List.mem_singleton] at member
    rcases member with early | rfl
    · exact absurd (sound exchange early) unsound
    · exact ⟨failure, rfl, Exchange.malformed_or_slips answered blames⟩

/-- Up to the picking of candidates a pass is classified, or all exchanges are sound. -/
theorem prospect_classifies
    {scope : Scope}
    (known : pool.scope = .known scope)
    {world : World}
    (transport : world.outside.IsReachedByTransport) :
    Act.Does (provisioner.prospect pool).run world fun outcome calls _ =>
      let exchanges := world.outside.exchanges world.moment calls
      match outcome with
      | .error failure => provisioner.Classifies pool active exchanges (.failed failure)
      | .ok _ => ∀ exchange ∈ exchanges, exchange.IsSound := by
  have fetches (noted : World)
      (same : noted.outside = world.outside)
      (still : noted.moment = world.moment) :
      Act.Does (provisioner.fetch pool).run noted fun fetched calls _ =>
        FetchCourse
          (fun jobs exchanges =>
            provisioner.forge.HasFetched scope pool.organisation pool.user pool.repository
              (provisioner.offered pool) exchanges jobs)
          world.outside world.moment fetched calls := by
    rw [fetch, known, ← same, ← still]
    exact provisioner.forge.fetchQueued_fetches scope _ _ _ _ noted
  have judged
      {exchanges : List Exchange}
      (none : ∀ exchange ∈ exchanges, exchange.failure? = none) :
      ∀ exchange ∈ exchanges, exchange.IsSound :=
    fun exchange member => exchange.isSound_iff.mpr (none exchange member)
  apply (provisioner.prospect_does pool fetches).mono
  rintro outcome calls after _ ⟨fetched, course, prospecting⟩
  cases prospecting with
  | unfetched failure =>
    cases course with
    | @broken _ _ before last split sound fault =>
      have member : last ∈ world.outside.exchanges world.moment calls := by
        rw [split]
        exact List.mem_append_right before (List.mem_singleton_self last)
      refine .of_broken split (judged sound) ((last.blames_iff failure).mpr fault) ?_
      intro fault failed
      exact transport.reply member failed
    | cancelled unmade sound stopped =>
      refine .of_sound (judged sound) ?_
      rintro _ ⟨⟩ unclassified
      exact absurd trivial unclassified
  | unsurveyed jobs time failure failed =>
    cases course with
    | completed sound told =>
      rcases Survey.of_failure?_eq_some failed with ⟨before, job, _, rfl, keyed, unkeyed, rfl⟩
      refine .of_sound (judged sound) ?_
      rintro _ ⟨⟩ _
      exact .id known told keyed unkeyed
  | surveyed prospect surveyed =>
    cases course with
    | completed sound told => exact judged sound

/-- A pass without a free slot makes no exchange, so it is classified; what escapes is that a
number cannot be shown. -/
theorem full_classifies (full : freeSlots pool active = 0) (world : World) :
    (provisioner.pass pool active).Does world fun answer calls _ =>
      provisioner.Classifies pool active (world.outside.exchanges world.moment calls)
        answer.1 := by
  rw [provisioner.pass_of_full pool full]
  cases long : isShowable pool active with
  | true =>
    refine Act.Does.bind (Act.Does.noteAll (Act.Does.pure ?_))
    refine .of_sound (List.forall_mem_nil _) ?_
    rintro _ ⟨⟩
  | false =>
    refine Act.Does.pure (.of_sound (List.forall_mem_nil _) ?_)
    rintro _ ⟨⟩ _
    exact .full full long

/-- The part of a pass that starts runners makes no exchange, and where the credential for
registration is there, only the number of free slots escapes from it. -/
theorem provide_escapes
    (prospect : Prospect)
    {world : World}
    {token : Text}
    (found : pool.registrationToken world.environment = .ok (some token))
    (given : token ≠ [])
    (engine : ∀ fault, world.outside.FailsStart fault → fault.origin.isEngine = true) :
    (provisioner.provide pool active prospect).Does world fun answer calls _ =>
      (∀ made ∈ calls, made.isRun = true) ∧
        ∀ failure, answer.1 = .failed failure →
          ¬ failure.IsClassified →
            failure = .tooManyDigits ∧ Number.isWritable (freeSlots pool active) = false := by
  apply ((provisioner.provide_interrupted pool active prospect found given).and
    (provisioner.provide_does pool active prospect world)).mono
  rintro answer calls after _ ⟨interrupted, starting, _, _⟩
  constructor
  · refine starting.forall_mem ?_
    rintro _ _ ⟨_, runner, rfl, _⟩
    rfl
  · intro failure ended unclassified
    cases interrupted failure ended with
    | stopped arrived => exact absurd trivial unclassified
    | outside fault source foreign =>
      rw [engine fault source] at foreign
      cases foreign
    | unwritable long => exact ⟨rfl, long⟩

/-- A pass over a pool in order is classified. -/
theorem pass_classifies
    (provisioner : Provisioner)
    (active : Int)
    {world : World}
    (accepted : pool.violations world.environment = .ok [])
    (transport : world.outside.IsReachedByTransport)
    (engine : ∀ fault, world.outside.FailsStart fault → fault.origin.isEngine = true) :
    (provisioner.pass pool active).Does world fun answer calls _ =>
      provisioner.Classifies pool active (world.outside.exchanges world.moment calls)
        answer.1 := by
  have ordered := Pool.inOrder_of_violations accepted
  rcases ordered.scope with ⟨scope, known, _⟩
  rcases ordered.registration with ⟨token, found, given⟩
  by_cases full : freeSlots pool active = 0
  · exact full_classifies full world
  · rw [provisioner.pass_of_free pool full]
    apply Act.Does.bind
    apply (prospect_classifies known transport).mono
    intro outcome asked between follows told
    cases outcome with
    | error failure =>
      refine Act.Does.pure ?_
      rw [List.append_nil]
      exact told
    | ok prospect =>
      rw [← follows.environment] at found
      rw [← follows.outside] at engine
      apply (provide_escapes prospect found given engine).mono
      rintro answer calls after _ ⟨runs, escapes⟩
      have sound :
          ∀ exchange ∈ world.outside.exchanges world.moment (asked ++ calls),
            exchange.IsSound := by
        rw [Outside.exchanges_append, Outside.exchanges_eq_nil runs, List.append_nil]
        exact told
      refine .of_sound sound ?_
      intro failure ended unclassified
      rcases escapes failure ended unclassified with ⟨rfl, long⟩
      exact .slots long

end Provisioner

/-- A pass over a pool in order that fails with no class fails for a reason that is told by its
exchanges, however the forge answers.

Say that the forge is only reached over the transport, and that a start only fails by the
engine.  If such a pass fails, its failure is of no class exactly if it escapes: an answer of
success slips through, a fetched job has an id without a key, or a number has too many digits for
the log, either that of the free slots or, where there are none, that of the live runners or the
capacity.  Whenever an answer of success is not sound, the pass fails; it finds the answer
malformed unless the answer slips through. -/
theorem Provisioner.pass_classified
    (provisioner : Provisioner)
    {pool : Pool}
    {world : World}
    (accepted : pool.violations world.environment = .ok [])
    (transport : world.outside.IsReachedByTransport)
    (engine : ∀ fault, world.outside.FailsStart fault → fault.origin.isEngine = true)
    (active : Int) :
    (provisioner.pass pool active).Does world fun answer calls _ =>
      let exchanges := world.outside.exchanges world.moment calls
      (∀ failure, answer.1 = .failed failure →
          (¬ failure.IsClassified ↔ provisioner.Escapes pool active exchanges failure)) ∧
        ∀ exchange ∈ exchanges, ∀ body,
          exchange.reply = .answer 200 body → ¬ exchange.IsSound →
            ∃ failure,
              answer.1 = .failed failure ∧
                (failure.IsMalformed ∨ exchange.Slips failure) := by
  apply (pass_classifies provisioner active accepted transport engine).mono
  intro answer calls after _ classifies
  refine ⟨?_, classifies.noticed⟩
  intro failure ended
  constructor
  · exact classifies.escapes failure ended
  · exact Escapes.unclassified

/-! ## An id that slips through -/

theorem Script.isReachedByTransport
    {script : Script}
    (routes :
      ∀ route ∈ script.routes, ∀ fault,
        route.reply = .fault fault → fault.origin.isTransport = true) :
    script.outside.IsReachedByTransport := by
  intro history request fault failed
  simp only [outside] at failed
  split at failed
  next route found => exact routes route (List.mem_of_find?_eq_some found) fault failed
  · rw [emptyAnswer] at failed
    split at failed
    · cases failed
    · cases failed

/-- The forge tells of a job whose id is a list. -/
def World.unkeyed : World :=
  { World.configured with
    outside :=
      Script.outside
        { routes :=
            [⟨none, some (.text "queued"), none,
              .answer 200 "\x7b\"jobs\": [\x7b\"id\": [7]\x7d]\x7d"⟩] } }

/-- The pass over a pool in order fails with no class. -/
theorem Provisioner.pass_classified_unkeyed :
    let pool := Pool.double "builders"
    let provisioner := Provisioner.unused
    let world := World.unkeyed
    pool.violations world.environment = .ok [] ∧
      world.outside.IsReachedByTransport ∧
        (∀ fault, world.outside.FailsStart fault → fault.origin.isEngine = true) ∧
          (provisioner.pass pool 0).Does world fun answer calls _ =>
            ∃ failure,
              answer.1 = .failed failure ∧
                ¬ failure.IsClassified ∧
                  provisioner.Escapes pool 0 (world.outside.exchanges world.moment calls)
                    failure := by
  intro pool provisioner world
  have accepted : pool.violations world.environment = .ok [] :=
    Pool.violations_eq_nil (by decide +kernel)
  have transport : world.outside.IsReachedByTransport := by
    apply Script.isReachedByTransport
    intro route member fault failed
    rcases List.mem_singleton.mp member with rfl
    cases failed
  have engine : ∀ fault, world.outside.FailsStart fault → fault.origin.isEngine = true := by
    rintro fault ⟨history, refused | failed⟩
    · cases refused
    · cases failed
  have unkeyed :
      (match ((provisioner.pass pool 0).run world).1.1 with
        | .failed (.clash (.noKey _)) => true
        | _ => false) = true := by
    decide +kernel
  rcases provisioner.pass_classified accepted transport engine 0 with
    ⟨calls, follows, classes, _⟩
  split at unkeyed
  next _ id ended =>
    exact ⟨accepted, transport, engine, calls, follows, .clash (.noKey id), ended, not_false,
      (classes _ ended).mp not_false⟩
  · cases unkeyed

end RunnerFleet
