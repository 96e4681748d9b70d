import RunnerFleet.Proofs.Configuring
import RunnerFleet.Proofs.Splitting
import RunnerFleet.Proofs.Visiting

/-!
# What runners register with

Every container that a pass starts is made from the pool, the labels that the pool offers and
its credential for registration.  The same labels decided which jobs the pass fetched.

A runner is told its labels in one variable, with commas between them, and takes them apart
again.  Labels that a pool's definition gives as one text survive this, and so do defaults,
since both were split at their commas before.  A definition may give a list instead, and a
label in a list may hold a comma.
-/

namespace RunnerFleet

/-! ## Calls of a kind -/

/-- Between two worlds there are only calls of a kind. -/
def World.Makes (kind : Call → Prop) (before after : World) : Prop :=
  ∃ calls, before.Follows calls after ∧ ∀ made ∈ calls, kind made

theorem World.makes_isCourse (kind : Call → Prop) : Act.IsCourse (World.Makes kind) where
  refl world := ⟨[], .refl world, nofun⟩
  trans := by
    rintro before between after ⟨first, firstFollows, firstMade⟩
      ⟨second, secondFollows, secondMade⟩
    exact ⟨first ++ second, firstFollows.trans secondFollows,
      List.forall_mem_append.mpr ⟨firstMade, secondMade⟩⟩

/-- An act without calls makes none but those of any kind. -/
theorem Act.Does.makes_none
    {Answer : Type}
    {act : Act Answer}
    {world : World}
    (silent : act.Does world fun _ calls _ => calls = [])
    (kind : Call → Prop) :
    world.Makes kind (act.run world).2 := by
  rcases silent with ⟨calls, follows, rfl⟩
  exact ⟨[], follows, nofun⟩

theorem noteAll_makes (kind : Call → Prop) (lines : List LogLine) :
    Act.Keeps (World.Makes kind) (noteAll lines) := by
  intro world
  have silent : (noteAll lines).Does world fun _ calls _ => calls = [] := Act.Does.noteAll rfl
  exact silent.makes_none kind

theorem makes_passedToFetches (kind : Call → Prop) :
    Act.PassedToFetches fun act => Act.Keeps (World.Makes kind) act :=
  Forge.keeps_passedToFetches (World.makes_isCourse kind) (noteAll_makes kind)

/-- In a given environment there are only calls of a kind. -/
def World.MakesWithin
    (environment : Environment)
    (kind : Call → Prop)
    (before after : World) : Prop :=
  before.environment = environment → before.Makes kind after

theorem makesWithin_passedToFetches (environment : Environment) (kind : Call → Prop) :
    Act.PassedToFetches fun act => Act.Keeps (World.MakesWithin environment kind) act := by
  have course : Act.IsCourse (World.MakesWithin environment kind) :=
    { refl := fun world _ => (World.makes_isCourse kind).refl world
      trans := by
        intro before between after first second within
        rcases first within with ⟨calls, follows, made⟩
        have still : between.environment = environment := follows.environment.trans within
        exact (World.makes_isCourse kind).trans ⟨calls, follows, made⟩ (second still) }
  exact Forge.keeps_passedToFetches course fun lines world _ => noteAll_makes kind lines world

/-! ## Starting runners -/

/-- A call starts a container of a pool, with labels and a credential for registration. -/
def Launcher.Registers
    (launcher : Launcher)
    (pool : Pool)
    (labels : List Text)
    (token : Text)
    (made : Call) : Prop :=
  ∃ name, made = .run (launcher.spec pool labels token name)

theorem Launcher.start_makes
    (launcher : Launcher)
    (pool : Pool)
    (labels : List Text)
    (token : Text) :
    Act.Keeps (World.Makes (launcher.Registers pool labels token))
      (launcher.start pool labels token).run := by
  apply Launcher.start_holds (makes_passedToFetches _)
  · exact fun alternatives world => ⟨[], ⟨rfl, rfl, rfl⟩, nofun⟩
  · intro name world
    rcases runContainer_does world (launcher.spec pool labels token name) with
      ⟨calls, follows, _, ⟨rfl, _⟩ | ⟨rfl, _⟩⟩
    · exact ⟨[], follows, nofun⟩
    · refine ⟨_, follows, ?_⟩
      intro made member
      rw [List.mem_singleton] at member
      exact ⟨name, member⟩

namespace Provisioner

variable (provisioner : Provisioner) (pool : Pool)

theorem startEach_makes
    (token : Text)
    (labels : List Text)
    (candidates : List Candidate) :
    Act.Keeps (World.Makes (provisioner.launcher.Registers pool labels token))
      (provisioner.startEach pool token labels candidates) :=
  provisioner.startEach_holds pool (makes_passedToFetches _)
    (provisioner.launcher.start_makes pool labels token) candidates

/-- A call starts a container of a pool with labels, and with the credential for registration
that the environment gives. -/
def Registers
    (environment : Environment)
    (labels : List Text)
    (made : Call) : Prop :=
  ∃ token,
    pool.registrationToken environment = .ok (some token) ∧
      token ≠ [] ∧ provisioner.launcher.Registers pool labels token made

theorem startAll_makes
    (labels : List Text)
    (candidates : List Candidate)
    (world : World) :
    (provisioner.startAll pool labels candidates).Does world fun _ calls _ =>
      ∀ made ∈ calls, provisioner.Registers pool world.environment labels made := by
  simp only [startAll]
  split
  · exact Act.Does.pure (List.forall_mem_nil _)
  · refine Act.Does.bind (Act.Does.get ?_)
    split
    · exact Act.Does.pure (List.forall_mem_nil _)
    · exact Act.Does.pure (List.forall_mem_nil _)
    next token found =>
      split
      · exact Act.Does.pure (List.forall_mem_nil _)
      next given =>
        rcases provisioner.startEach_makes pool token labels candidates world with
          ⟨calls, follows, registers⟩
        refine ⟨calls, follows, ?_⟩
        intro made member
        exact ⟨token, found, by simpa using given, registers made member⟩

theorem provide_makes (active : Int) (prospect : Prospect) (world : World) :
    (provisioner.provide pool active prospect).Does world fun _ calls _ =>
      ∀ made ∈ calls,
        provisioner.Registers pool world.environment (provisioner.offered pool) made := by
  apply provisioner.provide_parts pool
  apply (provisioner.startAll_makes pool _ _ world).mono
  intro starts calls after _ registers ending noted _ _ _
  exact registers

/-- Every container that a pass starts is one of the pool, with the labels that the pool offers
and the credential that the environment gives. -/
theorem pass_makes (active : Int) (world : World) :
    (provisioner.pass pool active).Does world fun _ calls _ =>
      ∀ runner, .run runner ∈ calls →
        provisioner.Registers pool world.environment (provisioner.offered pool) (.run runner) := by
  have started
      {asked : List Call}
      (asks : world.outside.Allows Moment.Asking world.moment asked)
      {runner : RunnerSpec}
      (member : .run runner ∈ asked) : False := by
    have other : Call.isRun (.run runner) = false := asks.no_run _ member
    cases other
  refine provisioner.pass_parts pool ?full ?failed ?reached
  case full =>
    rintro _ _ _ _ _ ⟨⟩
  case failed =>
    intro _ asked _ _ asks _ runner member
    exact (started asks member).elim
  case reached =>
    intro between prospect asked _ asks follows _
    apply (provisioner.provide_makes pool active prospect between).mono
    intro answer calls after _ registers runner member
    rw [follows.environment] at registers
    rcases List.mem_append.mp member with early | late
    · exact (started asks early).elim
    · exact registers _ late

end Provisioner

/-! ## Jobs that the offered labels can run -/

theorem Forge.HasFetched.canRun
    {forge : Forge}
    {scope : Scope}
    {organisation user repository : Text}
    {offered : List Text}
    {exchanges : List Exchange}
    {jobs : List Job}
    (fetched :
      forge.HasFetched scope organisation user repository offered exchanges jobs) :
    ∀ job ∈ jobs, forge.canRun offered job = true := by
  rcases fetched with ⟨listed, endpoints, _, readings, _, each, rfl, _⟩
  intro job member
  rcases List.mem_flatMap.mp member with ⟨reading, among, held⟩
  rcases each reading among with ⟨pages, _, same⟩
  rw [same] at held
  exact (List.mem_filter.mp held).2

namespace Provisioner

variable (provisioner : Provisioner) (pool : Pool)

theorem fetch_canRun (world : World) :
    Act.Does (provisioner.fetch pool).run world fun fetched _ _ =>
      ∀ jobs, fetched = .ok jobs →
        ∀ job ∈ jobs, provisioner.forge.canRun (provisioner.offered pool) job = true := by
  rw [fetch]
  cases pool.scope with
  | known scope =>
    apply (provisioner.forge.fetchQueued_fetches scope _ _ _ _ world).mono
    intro outcome calls after _ course
    cases course with
    | completed sound told =>
      rintro _ ⟨⟩
      exact told.canRun
    | broken split sound fault => rintro _ ⟨⟩
    | cancelled unmade sound stopped => rintro _ ⟨⟩
  | unknown value =>
    refine Act.Does.attempt_bind (Act.Does.pure ?_)
    rintro _ ⟨⟩

/-- A pass only takes jobs that the labels it offers can run. -/
theorem canRun_of_prospect?
    {active : Int}
    {world : World}
    {prospect : Prospect}
    (found : provisioner.prospect? pool active world = some prospect) :
    ∀ job ∈ prospect.jobs,
      provisioner.forge.canRun (provisioner.offered pool) job = true := by
  rcases provisioner.prospect_does pool fun noted _ _ => provisioner.fetch_canRun pool noted with
    ⟨_, _, _, runnable, prospecting⟩
  rw [provisioner.run_of_prospect? pool found] at prospecting
  cases prospecting with
  | surveyed _ _ => exact runnable _ rfl

end Provisioner

/-! ## Labels of a definition -/

namespace Pool

theorem textsOf?_eq_some_iff {items : List Value} {texts : List Text} :
    textsOf? items = some texts ↔ items = texts.map .text := by
  induction items generalizing texts with
  | nil => simp [textsOf?]
  | cons item rest ih =>
    cases item with
    | text content =>
      rw [textsOf?, Option.map_eq_some_iff]
      cases texts with
      | nil => simp
      | cons first others =>
        constructor
        · rintro ⟨read, found, same⟩
          cases same
          rw [ih.mp found, List.map_cons]
        · intro same
          rw [List.map_cons, List.cons.injEq, Value.text.injEq] at same
          rcases same with ⟨rfl, same⟩
          exact ⟨others, ih.mpr same, rfl⟩
    | null | bool | int | real | list | object => cases texts <;> simp [textsOf?]

/-- The labels of a pool are those that its definition gives. -/
theorem labels_of_ofValue
    {fields : Fields}
    {pool : Pool}
    (defined : ofValue (.object fields) = .ok pool) :
    labelsOf? (Fields.get fields "labels") = some pool.labels := by
  simp only [ofValue] at defined
  cases given : labelsOf? (Fields.get fields "labels") with
  | none =>
    rw [given] at defined
    cases defined
  | some labels =>
    rw [given] at defined
    cases extras : extraEnvironmentOf? (Fields.get fields "env") with
    | none =>
      rw [extras] at defined
      cases defined
    | some environment =>
      rw [extras] at defined
      rcases bind_eq_ok_iff.mp defined with ⟨_, ⟨⟩, defined⟩
      rcases bind_eq_ok_iff.mp defined with ⟨_, ⟨⟩, defined⟩
      rcases bind_eq_ok_iff.mp defined with ⟨capacity, _, defined⟩
      rcases bind_eq_ok_iff.mp defined with ⟨name, _, defined⟩
      rcases bind_eq_ok_iff.mp defined with ⟨url, _, defined⟩
      rcases bind_eq_ok_iff.mp defined with ⟨organisation, _, defined⟩
      rcases bind_eq_ok_iff.mp defined with ⟨user, _, defined⟩
      rcases bind_eq_ok_iff.mp defined with ⟨repository, _, last⟩
      cases last
      rfl

/-- Labels are given as a list of texts, or they are those of one text. -/
theorem of_labelsOf?
    {value : Value}
    {labels : List Text}
    (given : labelsOf? value = some labels) :
    value = .list (labels.map .text) ∨
      (∀ items, value ≠ .list items) ∧ ∃ text, labels = Label.parse text := by
  cases truthy : value.truthy with
  | false =>
    rw [labelsOf?, Value.orElse, truthy, if_neg Bool.false_ne_true] at given
    have none : labels = [] := (Option.some.inj given).symm
    rw [none]
    cases value with
    | list items =>
      have empty : items = [] := by simpa [Value.truthy] using truthy
      exact .inl (congrArg Value.list empty)
    | null | bool | int | real | text | object => exact .inr ⟨nofun, [], rfl⟩
  | true =>
    rw [labelsOf?, Value.orElse, truthy, if_pos rfl] at given
    cases value with
    | list items => exact .inl (congrArg Value.list (textsOf?_eq_some_iff.mp given))
    | text content => exact .inr ⟨nofun, content, (Option.some.inj given).symm⟩
    | null | bool | int | real | object => cases given

end Pool

/-- A definition gives its labels as a list, and one of them holds a comma. -/
def Fields.ListsComma (fields : Fields) : Prop :=
  ∃ items label,
    Fields.get fields "labels" = .list items ∧ .text label ∈ items ∧ Label.comma ∈ label

/-- A pool has a label with a comma exactly if its definition lists one. -/
theorem Pool.comma_notMem_iff
    {fields : Fields}
    {pool : Pool}
    (defined : ofValue (.object fields) = .ok pool) :
    (∀ label ∈ pool.labels, Label.comma ∉ label) ↔ ¬ fields.ListsComma := by
  rcases of_labelsOf? (labels_of_ofValue defined) with listed | ⟨unlisted, text, read⟩
  · constructor
    · rintro free ⟨items, label, same, member, held⟩
      rw [listed] at same
      cases same
      exact free label (by simpa using member) held
    · intro none label member held
      exact none ⟨_, label, listed, List.mem_map_of_mem member, held⟩
  · constructor
    · rintro _ ⟨items, _, same, _⟩
      exact unlisted items same
    · intro _ label member
      rw [read] at member
      exact Label.comma_notMem_of_mem_parse member

/-! ## What runners are told -/

/-- The variable by which a runner is told its labels. -/
def Runner.labelsVariable : Text :=
  "GITEA_RUNNER_LABELS"

theorem Launcher.lookup_spec
    (launcher : Launcher)
    (pool : Pool)
    {labels : List Text}
    (offered : labels ≠ [])
    (token name : Text) :
    (launcher.spec pool labels token name).environment.lookup Runner.labelsVariable =
      some (Text.joined "," labels) := by
  have filled : labels.isEmpty = false := by simpa using offered
  rw [spec, Runner.environment, Runner.registration, filled]
  exact Table.lookup_put_self _ _ _

/-- A runner takes the labels that it is told apart as a pass used them, unless the pool's
definition lists one with a comma.

Every container that a pass starts is started for jobs that the offered labels can run.  If
there are such labels, the container is told them all in one variable; split at its commas,
the variable gives them back exactly if the definition lists no label with a comma, so in
particular if it gives its labels as one text. -/
theorem Provisioner.pass_registers
    (provisioner : Provisioner)
    {fields : Fields}
    {pool : Pool}
    (defined : Pool.ofValue (.object fields) = .ok pool)
    {text : Text}
    (read : provisioner.defaults = Label.parse text)
    (active : Int)
    (world : World) :
    (provisioner.pass pool active).Does world fun _ calls _ =>
      let offered := provisioner.offered pool
      ∀ runner, .run runner ∈ calls →
        ∃ prospect,
          provisioner.prospect? pool active world = some prospect ∧
            (∀ job ∈ prospect.jobs, provisioner.forge.canRun offered job = true) ∧
              (offered ≠ [] →
                ∃ content,
                  runner.environment.lookup Runner.labelsVariable = some content ∧
                    (Text.stretches Label.comma content = offered ↔ ¬ fields.ListsComma)) := by
  apply ((provisioner.pass_makes pool active world).and
    (provisioner.pass_does pool active world)).mono
  rintro answer calls after _ ⟨registers, told⟩ offered runner member
  cases reached : provisioner.prospect? pool active world with
  | none =>
    rw [reached] at told
    have other : Call.isRun (.run runner) = false := told.2.1.no_run _ member
    cases other
  | some prospect =>
    refine ⟨prospect, rfl, provisioner.canRun_of_prospect? pool reached, ?_⟩
    intro nonempty
    rcases registers runner member with ⟨token, _, _, name, same⟩
    cases same
    have found := provisioner.launcher.lookup_spec pool nonempty token name
    refine ⟨_, found, ?_⟩
    have free : ∀ label ∈ provisioner.defaults, Label.comma ∉ label := by
      rw [read]
      intro label among
      exact Label.comma_notMem_of_mem_parse among
    rw [← Pool.comma_notMem_iff defined]
    exact Label.stretches_joined_merge free nonempty

/-! ## A label with a comma -/

/-- A definition that lists a label with a comma. -/
def Fields.commaListed : Fields :=
  [("name", .text "builders"), ("scope", .text "global"), ("gitea_url", .text "http://forge"),
    ("labels", .list [.text "linux,x64"])]

/-- The pool that is so defined. -/
def Pool.commaListed : Pool where
  name := "builders"
  scope := .known .global
  url := "http://forge"
  capacity := 1
  labels := ["linux,x64"]

/-- Although its pool is in order, a runner does not get back the only label that it is told. -/
theorem Provisioner.pass_registers_comma :
    let pool := Pool.commaListed
    let provisioner : Provisioner := { Provisioner.unused with defaults := Label.parse "" }
    Pool.ofValue (.object Fields.commaListed) = .ok pool ∧
      pool.violations World.configured.environment = .ok [] ∧
        Fields.commaListed.ListsComma ∧
          (provisioner.pass pool 0).Does World.configured fun _ calls _ =>
            ∃ runner content,
              .run runner ∈ calls ∧
                runner.environment.lookup Runner.labelsVariable = some content ∧
                  Text.stretches Label.comma content ≠ provisioner.offered pool := by
  intro pool provisioner
  have defined : Pool.ofValue (.object Fields.commaListed) = .ok pool := rfl
  have accepted : pool.violations World.configured.environment = .ok [] :=
    Pool.violations_eq_nil (by decide +kernel)
  have listed : Fields.commaListed.ListsComma :=
    ⟨[.text "linux,x64"], "linux,x64", rfl, List.mem_singleton_self _, by decide⟩
  have runs :
      (((provisioner.pass pool 0).run World.configured).2.callsSince World.configured).any
          Call.isRun =
        true := by
    decide +kernel
  rcases provisioner.pass_registers defined rfl 0 World.configured with
    ⟨calls, follows, registers⟩
  rw [follows.callsSince, List.any_eq_true] at runs
  rcases runs with ⟨made, member, started⟩
  cases made with
  | run runner =>
    rcases registers runner member with ⟨_, _, _, told⟩
    rcases told (by decide) with ⟨content, found, apart⟩
    exact ⟨defined, accepted, listed, calls, follows, runner, content, member, found,
      fun same => apart.mp same listed⟩
  | ask | list | wait => cases started

end RunnerFleet
