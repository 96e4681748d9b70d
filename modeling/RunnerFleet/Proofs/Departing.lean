import Mathlib.Data.List.TakeDrop
import Mathlib.Data.List.Basic
import RunnerFleet.Proofs.Catalogue
import RunnerFleet.Proofs.Completeness
import RunnerFleet.Proofs.Publishing

/-!
# Fetching while jobs leave

A forge answers every page from its list as it is at that moment, and jobs leave the list
meanwhile.  Pages are told by their numbers, so a job that stays moves towards the front as
others leave, and it may pass from behind the end of one page to before the start of the
next one between the two requests.  Then it is on neither page.

It is shown that nothing else goes wrong: of the jobs that stay, those that slip past a page
boundary in this way are missed, and all others are found.
-/

namespace RunnerFleet

variable {Item : Type}

/-! ## Pages of a list that gets shorter -/

section

variable {entries fewer : List Item} {entry : Item}

/-- An entry that stays moves towards the front. -/
theorem mem_take_of_sublist
    {limit : Nat}
    (distinct : entries.Nodup)
    (leaves : fewer.Sublist entries)
    (ahead : entry ∈ entries.take limit)
    (stays : entry ∈ fewer) :
    entry ∈ fewer.take limit := by
  rw [← List.take_append_drop limit fewer] at stays
  rcases List.mem_append.mp stays with early | late
  · exact early
  · have behind : entry ∈ entries.drop limit := (leaves.drop limit).subset late
    exact absurd behind (List.disjoint_take_drop distinct (Nat.le_refl limit) ahead)

theorem mem_pageOf_iff {size page : Nat} (distinct : entries.Nodup) :
    entry ∈ pageOf size (page + 1) entries ↔
      entry ∈ entries.drop (page * size) ∧ entry ∈ entries.take ((page + 1) * size) := by
  have split :
      entries.take ((page + 1) * size) =
        entries.take (page * size) ++ pageOf size (page + 1) entries := by
    rw [Nat.succ_mul, List.take_add, pageOf, Nat.add_sub_cancel]
  rw [split, List.mem_append]
  constructor
  · intro member
    exact ⟨List.mem_of_mem_take member, .inr member⟩
  · rintro ⟨behind, ahead | member⟩
    · exact absurd behind (List.disjoint_take_drop distinct (Nat.le_refl _) ahead)
    · exact member

end

/-- A list as it is seen when each of a number of pages is asked for: no entry is in it twice,
and from one page to the next entries only leave. -/
structure Shrinks (views : Nat → List Item) : Prop where
  distinct : ∀ page, (views page).Nodup
  leaves : ∀ page later, page ≤ later → (views later).Sublist (views page)

/-- An entry slips past a page boundary: it is behind the end of a page when that page is
asked for, and before the start of the next page when that one is. -/
def SlipsThrough (size count : Nat) (views : Nat → List Item) (entry : Item) : Prop :=
  ∃ page,
    1 ≤ page ∧
      page < count ∧
        entry ∈ (views page).drop (page * size) ∧
          entry ∈ (views (page + 1)).take (page * size)

namespace Shrinks

variable
  {views : Nat → List Item}
  (shrinks : Shrinks views)
  {size count : Nat}
  {entry : Item}
  (stays : entry ∈ views count)

include shrinks stays

theorem mem {page : Nat} (early : page ≤ count) : entry ∈ views page :=
  (shrinks.leaves page count early).subset stays

theorem mem_take_later
    {limit page later : Nat}
    (order : page ≤ later)
    (early : later ≤ count)
    (ahead : entry ∈ (views page).take limit) :
    entry ∈ (views later).take limit :=
  mem_take_of_sublist (shrinks.distinct page) (shrinks.leaves page later order) ahead
    (shrinks.mem stays early)

omit stays in
theorem not_mem_drop
    {limit further page : Nat}
    (ahead : entry ∈ (views page).take limit)
    (order : limit ≤ further) :
    entry ∉ (views page).drop further :=
  List.disjoint_take_drop (shrinks.distinct page) order ahead

theorem mem_drop_or_take
    (limit : Nat)
    {page : Nat}
    (early : page ≤ count) :
    entry ∈ (views page).drop limit ∨ entry ∈ (views page).take limit := by
  have member := shrinks.mem stays early
  rw [← List.take_append_drop limit (views page)] at member
  exact (List.mem_append.mp member).symm

/-- An entry that is ahead of the end of a page, and that slips past no boundary, is on this
page or on an earlier one. -/
theorem exists_page
    (firm : ¬ SlipsThrough size count views entry)
    {page : Nat}
    (early : page + 1 ≤ count)
    (ahead : entry ∈ (views (page + 1)).take ((page + 1) * size)) :
    ∃ found ≤ page, entry ∈ pageOf size (found + 1) (views (found + 1)) := by
  induction page with
  | zero =>
    refine ⟨0, Nat.le_refl 0, (mem_pageOf_iff (shrinks.distinct 1)).mpr ⟨?_, ahead⟩⟩
    rw [Nat.zero_mul, List.drop_zero]
    exact shrinks.mem stays early
  | succ page ih =>
    have before : page + 1 ≤ count := Nat.le_of_succ_le early
    rcases shrinks.mem_drop_or_take stays ((page + 1) * size) before with behind | earlier
    · have still := shrinks.mem_drop_or_take stays ((page + 1) * size) early
      have unslipped : entry ∉ (views (page + 1 + 1)).take ((page + 1) * size) :=
        fun slipped => firm ⟨page + 1, Nat.le_add_left 1 page, early, behind, slipped⟩
      refine ⟨page + 1, Nat.le_refl _, (mem_pageOf_iff (shrinks.distinct _)).mpr ⟨?_, ahead⟩⟩
      exact still.resolve_right unslipped
    · rcases ih before earlier with ⟨found, order, member⟩
      exact ⟨found, Nat.le_succ_of_le order, member⟩

/-- Of the entries that stay, those on none of the pages are those that slip past a page
boundary. -/
theorem mem_pages_iff
    (some : 1 ≤ count)
    (short : (views count).length ≤ count * size) :
    (entry ∈ (List.range' 1 count).flatMap fun page => pageOf size page (views page)) ↔
      ¬ SlipsThrough size count views entry := by
  obtain ⟨last, rfl⟩ : ∃ last, count = last + 1 := Nat.exists_eq_add_of_le' some
  rw [List.mem_flatMap]
  constructor
  · rintro ⟨found, listed, member⟩ ⟨page, positive, early, behind, ahead⟩
    rw [List.mem_range'_1] at listed
    obtain ⟨found, rfl⟩ : ∃ before, found = before + 1 :=
      Nat.exists_eq_add_of_le' listed.1
    rcases (mem_pageOf_iff (shrinks.distinct _)).mp member with ⟨after, before⟩
    rcases Nat.lt_or_ge page (found + 1) with later | earlier
    · -- Found behind the boundary past which it had slipped before.
      have still : entry ∈ (views (found + 1)).take (page * size) :=
        shrinks.mem_take_later stays (by omega) (by omega) ahead
      have order : page * size ≤ found * size := Nat.mul_le_mul_right size (by omega)
      exact shrinks.not_mem_drop still order after
    · -- Found ahead of the boundary behind which it is said to be later.
      have still : entry ∈ (views page).take ((found + 1) * size) :=
        shrinks.mem_take_later stays earlier (by omega) before
      have order : (found + 1) * size ≤ page * size := Nat.mul_le_mul_right size earlier
      exact shrinks.not_mem_drop still order behind
  · intro firm
    have ahead : entry ∈ (views (last + 1)).take ((last + 1) * size) := by
      rw [List.take_of_length_le short]
      exact stays
    rcases shrinks.exists_page stays firm (Nat.le_refl _) ahead with ⟨found, order, member⟩
    refine ⟨found + 1, ?_, member⟩
    rw [List.mem_range'_1]
    omega

end Shrinks

/-! ## Exchanges at their moments -/

namespace Listing.Paged

variable
  {listing : Listing Item}
  {size : Int}
  {first : Nat}
  {exchanges : List Exchange}
  {pages : List (List Item)}
  (paged : listing.Paged size first exchanges pages)

include paged

theorem length_eq : exchanges.length = pages.length := by
  simpa using congrArg List.length paged.read

theorem request_getElem {index : Nat} (bound : index < exchanges.length) :
    exchanges[index].request = listing.request (first + index) := by
  have within : index < pages.length := paged.length_eq ▸ bound
  have asked := congrArg (fun requests : List Request => requests[index]?) paged.requests
  simpa [bound, within] using asked

theorem read_getElem
    {index : Nat}
    (bound : index < exchanges.length)
    (within : index < pages.length) :
    listing.read exchanges[index].nesting exchanges[index].reply = .ok pages[index] := by
  have told :=
    congrArg (fun pages : List (Except Failure (List Item)) => pages[index]?) paged.read
  simpa [bound, within] using told

theorem requests_take {count : Nat} (within : count ≤ pages.length) :
    (exchanges.take count).map (·.request) =
      (List.range' first count).map listing.request := by
  rw [List.map_take, paged.requests, ← List.map_take, List.take_range'_of_length_ge within]

end Listing.Paged

namespace Outside

variable {outside : Outside} {moment : Moment}

theorem length_exchanges_ask (requests : List Request) :
    (outside.exchanges moment (requests.map .ask)).length = requests.length := by
  induction requests generalizing moment with
  | nil => rfl
  | cons request rest ih =>
    rw [List.map_cons, exchanges, List.length_append, ih, List.length_cons]
    exact Nat.add_comm 1 _

/-- The reply of an exchange is the one at the moment after the exchanges before it, and it is
read like every answer. -/
theorem reply_of_exchanges
    {calls : List Call}
    (asks :
      calls = (outside.exchanges moment calls).map fun exchange => .ask exchange.request)
    {before after : List Exchange}
    {exchange : Exchange}
    (split : outside.exchanges moment calls = before ++ exchange :: after) :
    exchange.nesting = outside.limits.answerNesting ∧
      exchange.reply =
        outside.replyAt
          (outside.replay moment (before.map fun exchange => .ask exchange.request))
          exchange.request := by
  have requested :
      calls =
        (before.map (·.request)).map .ask ++
          .ask exchange.request :: after.map fun exchange => .ask exchange.request := by
    rw [asks, split, List.map_append, List.map_map, List.map_cons]
    rfl
  have told := split
  rw [requested, exchanges_append] at told
  have same := List.append_inj_right told (by rw [length_exchanges_ask, List.length_map])
  have first := (List.cons.inj same).1
  rw [← first, List.map_map]
  exact ⟨rfl, rfl⟩

end Outside

/-! ## A queue that jobs leave -/

/-- The lists of waiting jobs behind an endpoint, after the calls made since a fetch began.
No job is in a list twice, and during further calls jobs only leave. -/
structure Queue where
  entries : List Call → String → List JobEntry
  distinct : ∀ made status, (entries made status).Nodup
  leaves :
    ∀ made further status, (entries (made ++ further) status).Sublist (entries made status)

/-- The reading of one list of a queue: its status, the calls made before it since the fetch
began, and how many pages were asked for. -/
structure Scan where
  status : String
  before : List Call
  pages : Nat

namespace Scan

variable (scan : Scan) (forge : Forge) (endpoint : Text) (queue : Queue)

/-- The requests for the first pages. -/
def requests (pages : Nat) : List Call :=
  (List.range' 1 pages).map fun page =>
    .ask (forge.pageRequest endpoint (some scan.status) page)

/-- The list as it is when a page is asked for. -/
def view (page : Nat) : List JobEntry :=
  queue.entries (scan.before ++ scan.requests forge endpoint page) scan.status

/-- The entries on the pages, each page taken from the list as it is when the page is asked
for. -/
def found : List JobEntry :=
  (List.range' 1 scan.pages).flatMap fun page =>
    pageOf forge.pageSize.toNat page (scan.view forge endpoint queue page)

/-- The jobs that are found and that the offered labels can run. -/
def jobs (offered : List Text) : List Job :=
  ((scan.found forge endpoint queue).map (·.job)).filter (forge.canRun offered)

/-- The last page is not full: no entry of the list is behind its end. -/
structure Ends : Prop where
  some : 1 ≤ scan.pages
  short :
    (scan.view forge endpoint queue scan.pages).length ≤ scan.pages * forge.pageSize.toNat

/-- An entry passes from behind the end of a page to before the start of the next one,
between the requests for them. -/
def Misses (entry : JobEntry) : Prop :=
  SlipsThrough forge.pageSize.toNat scan.pages (scan.view forge endpoint queue) entry

/-- Each of a number of scans begins where the one before it ended. -/
def Consecutive (forge : Forge) (endpoint : Text) : List Call → List Scan → Prop
  | _, [] => True
  | made, scan :: rest =>
    scan.before = made ∧
      Consecutive forge endpoint (made ++ scan.requests forge endpoint scan.pages) rest

theorem requests_add (pages more : Nat) :
    scan.requests forge endpoint (pages + more) =
      scan.requests forge endpoint pages ++
        (List.range' (1 + pages) more).map fun page =>
          .ask (forge.pageRequest endpoint (some scan.status) page) := by
  rw [requests, requests, ← List.map_append, List.range'_append_1]

theorem requests_succ (pages : Nat) :
    scan.requests forge endpoint (pages + 1) =
      scan.requests forge endpoint pages ++
        [.ask (forge.pageRequest endpoint (some scan.status) (pages + 1))] := by
  rw [requests_add, Nat.add_comm pages 1]
  rfl

theorem view_shrinks : Shrinks (scan.view forge endpoint queue) where
  distinct page := queue.distinct _ _
  leaves page later order := by
    obtain ⟨more, rfl⟩ := Nat.exists_eq_add_of_le order
    rw [view, scan.requests_add, ← List.append_assoc]
    exact queue.leaves _ _ _

end Scan

/-- A forge that answers each request for a page of an endpoint's jobs, if it answers with
content, from the queue as it is at that moment. -/
def Queue.Feeds (queue : Queue) (forge : Forge) (endpoint : Text) (world : World) : Prop :=
  ∀ made status page value,
    let asked := forge.pageRequest endpoint (some status) (page + 1)
    (world.outside.serve (world.history ++ made ++ [.ask asked]) asked).Tells
        world.outside.limits.answerNesting value →
      ∃ fields,
        value = .object fields ∧
          (Fields.get fields "jobs").orElse (.list []) =
            .list (pageOf forge.pageSize.toNat (page + 1)
              ((queue.entries (made ++ [.ask asked]) status).map (·.value)))

/-- The last page that is read is the end of the list as it is then. -/
theorem Scan.ends_of_pages
    {queue : Queue}
    {forge : Forge}
    {endpoint : Text}
    {status : String}
    {scan : Scan}
    {own : List Exchange}
    {pages : List (List Job)}
    (paged : (forge.jobListing endpoint status).Paged forge.pageSize 1 own pages)
    (count : scan.pages = pages.length)
    (read :
      pages =
        (List.range' 1 scan.pages).map fun page =>
          (pageOf forge.pageSize.toNat page (scan.view forge endpoint queue page)).map
            (·.job)) :
    scan.Ends forge endpoint queue := by
  rcases paged.ends with ⟨full, last, rfl, _, short⟩
  rw [List.length_append, List.length_singleton] at count
  rw [count, List.range'_1_concat, List.map_append, Nat.add_comm 1 full.length] at read
  have page := (List.append_inj' read rfl).2
  rw [List.map_singleton, List.singleton_inj] at page
  rw [page, List.length_map, pageOf, List.length_take, List.length_drop,
    Nat.add_sub_cancel] at short
  refine ⟨by omega, ?_⟩
  rw [count, Nat.succ_mul]
  omega

namespace Queue.Feeds

variable
  {queue : Queue}
  {forge : Forge}
  {endpoint : Text}
  {world : World}
  (feeds : queue.Feeds forge endpoint world)
  {status : String}

include feeds

/-- A page that is read carries its part of the list as it is after the request. -/
theorem read_page
    {made : List Call}
    {page : Nat}
    {jobs : List Job}
    (read :
      (forge.jobListing endpoint status).read world.outside.limits.answerNesting
          (world.outside.replyAt (world.outside.replay world.moment made)
            (forge.pageRequest endpoint (some status) (page + 1))) =
        .ok jobs) :
    jobs =
      (pageOf forge.pageSize.toNat (page + 1)
        (queue.entries
          (made ++ [.ask (forge.pageRequest endpoint (some status) (page + 1))])
          status)).map (·.job) := by
  obtain ⟨left, served⟩ : ∃ left,
      (world.outside.replay world.moment made).requestsLeft = left + 1 :=
    Nat.exists_eq_succ_of_ne_zero (Listing.requestsLeft_of_read read)
  have history :
      (world.outside.replay world.moment made).history = world.history ++ made :=
    world.outside.history_replay world.moment made
  simp only [Outside.replyAt, served, history] at read
  rcases bind_eq_ok_iff.mp read with ⟨value, content, page⟩
  rcases feeds made status _ value (Forge.content_eq_ok_iff.mp content) with
    ⟨fields, rfl, slice⟩
  rw [pageOf_map] at slice
  simp only [Forge.jobsOfPage, slice, Value.elements, bind, Except.bind,
    mapM_eq_ok JobEntry.ofValue_value] at page
  exact (Except.ok.inj page).symm

/-- The pages that are read of one list are those of a scan. -/
theorem read_pages
    {calls : List Call}
    (asks :
      calls =
        (world.outside.exchanges world.moment calls).map fun exchange =>
          .ask exchange.request)
    {front own rest : List Exchange}
    (split : world.outside.exchanges world.moment calls = front ++ (own ++ rest))
    {pages : List (List Job)}
    (paged : (forge.jobListing endpoint status).Paged forge.pageSize 1 own pages) :
    let scan : Scan := ⟨status, front.map fun exchange => .ask exchange.request, pages.length⟩
    (own.map fun exchange => .ask exchange.request) =
        scan.requests forge endpoint scan.pages ∧
      pages =
        (List.range' 1 scan.pages).map fun page =>
          (pageOf forge.pageSize.toNat page (scan.view forge endpoint queue page)).map
            (·.job) := by
  intro scan
  have requested (count : Nat) (within : count ≤ pages.length) :
      ((own.take count).map fun exchange => Call.ask exchange.request) =
        scan.requests forge endpoint count := by
    have asked := congrArg (List.map Call.ask) (paged.requests_take within)
    rw [List.map_map, List.map_map] at asked
    exact asked
  refine ⟨?_, ?_⟩
  · rw [← requested pages.length (Nat.le_refl _),
      List.take_of_length_le (Nat.le_of_eq paged.length_eq)]
  · apply List.ext_getElem (by simp [scan])
    intro index within _
    have bound : index < own.length := paged.length_eq ▸ within
    have place :
        world.outside.exchanges world.moment calls =
          (front ++ own.take index) ++ own[index] :: (own.drop (index + 1) ++ rest) := by
      rw [split, List.append_assoc, ← List.cons_append, ← List.append_assoc (own.take index),
        ← List.drop_eq_getElem_cons, List.take_append_drop]
    have read := paged.read_getElem bound within
    rcases Outside.reply_of_exchanges asks place with ⟨nesting, reply⟩
    rw [nesting, reply, List.map_append, requested index (Nat.le_of_lt within),
      paged.request_getElem bound, Nat.add_comm 1 index] at read
    have page := feeds.read_page read
    rw [List.append_assoc, ← scan.requests_succ] at page
    rw [page, List.getElem_map, List.getElem_range', Nat.one_mul, Nat.add_comm 1 index]
    rfl

/-- Readings of one status after another are scans of the queue. -/
theorem scans
    {offered : List Text}
    {calls : List Call}
    (asks :
      calls =
        (world.outside.exchanges world.moment calls).map fun exchange =>
          .ask exchange.request)
    (readings : List (Reading String Job))
    (each :
      ∀ reading ∈ readings, ∃ pages,
        (forge.jobListing endpoint reading.source).Paged forge.pageSize 1
            reading.exchanges pages ∧
          reading.items = pages.flatten.filter (forge.canRun offered))
    {front : List Exchange}
    (split :
      world.outside.exchanges world.moment calls =
        front ++ readings.flatMap (·.exchanges)) :
    ∃ scans : List Scan,
      scans.map (·.status) = readings.map (·.source) ∧
        Scan.Consecutive forge endpoint (front.map fun exchange => .ask exchange.request)
            scans ∧
          (readings.flatMap (·.exchanges)).map (fun exchange => .ask exchange.request) =
              scans.flatMap (fun scan => scan.requests forge endpoint scan.pages) ∧
            readings.flatMap (·.items) =
                scans.flatMap (fun scan => scan.jobs forge endpoint queue offered) ∧
              ∀ scan ∈ scans, scan.Ends forge endpoint queue := by
  induction readings generalizing front with
  | nil => exact ⟨[], rfl, trivial, rfl, rfl, nofun⟩
  | cons reading rest ih =>
    rcases List.forall_mem_cons.mp each with ⟨⟨pages, paged, items⟩, others⟩
    rw [List.flatMap_cons] at split
    rcases feeds.read_pages asks split paged with ⟨requests, read⟩
    have ending := Scan.ends_of_pages paged rfl read
    have jobs := congrArg List.flatten read
    rw [← List.flatMap_def, ← List.map_flatMap] at jobs
    rw [← List.append_assoc] at split
    rcases ih others split with ⟨scans, statuses, consecutive, asked, found, ends⟩
    rw [List.map_append, requests] at consecutive
    refine ⟨_ :: scans, congrArg _ statuses, ⟨rfl, consecutive⟩, ?_, ?_, ?_⟩
    · rw [List.flatMap_cons, List.map_append, requests, asked, List.flatMap_cons]
    · rw [List.flatMap_cons, items, jobs, found]
      rfl
    · exact List.forall_mem_cons.mpr ⟨ending, ends⟩

end Queue.Feeds

/-- What a fetch from a shrinking queue finds.  If the fetch yields jobs, its calls are the
requests of one scan for each status, one after another, and the jobs are those on the pages
of the scans that the offered labels can run.  Of the jobs that are still in a list when its
last page is asked for, a scan finds all but those that slip past a page boundary. -/
theorem Forge.fetchJobs_of_queue
    (forge : Forge)
    (endpoint : Text)
    (offered : List Text)
    (queue : Queue)
    {world after : World}
    {jobs : List Job}
    (feeds : queue.Feeds forge endpoint world)
    (fetched : (forge.fetchJobs endpoint offered).run.run world = (.ok jobs, after)) :
    ∃ scans : List Scan,
      scans.map (·.status) = Forge.pendingStatuses ∧
        Scan.Consecutive forge endpoint [] scans ∧
          after.history =
              world.history ++
                scans.flatMap (fun scan => scan.requests forge endpoint scan.pages) ∧
            jobs = scans.flatMap (fun scan => scan.jobs forge endpoint queue offered) ∧
              ∀ scan ∈ scans,
                ∀ entry ∈ scan.view forge endpoint queue scan.pages,
                  entry ∈ scan.found forge endpoint queue ↔
                    ¬ scan.Misses forge endpoint queue entry := by
  have asks :=
    forge.fetchJobs_keeps World.asksUntil_isCourse noteAll_asksUntil
      (fun _ _ _ _ => Forge.request_asksUntil _ _) endpoint offered world
  rcases gather_fetches (forge.fetchStatus_fetches endpoint offered) pendingStatuses world with
    ⟨calls, follows, course⟩
  have same :
      (gather (forge.fetchStatus endpoint offered) pendingStatuses).run.run world =
        (.ok jobs, after) :=
    fetched
  rw [same] at follows course
  rw [fetched] at asks
  rcases asks with ⟨⟨asked, alike, asks⟩, _⟩
  have all : asked = calls := by rw [← alike.callsSince, follows.callsSince]
  subst all
  cases course with
  | completed sound told =>
    rcases told with ⟨readings, sources, each, rfl, exchanges⟩
    have split :
        world.outside.exchanges world.moment asked =
          [] ++ readings.flatMap (·.exchanges) :=
      exchanges
    rcases feeds.scans asks.eq_requests readings each split with
      ⟨scans, statuses, consecutive, requests, found, ends⟩
    refine ⟨scans, statuses.trans sources, consecutive, ?_, found, ?_⟩
    · rw [follows.history, asks.eq_requests, exchanges, requests]
    · intro scan listed entry stays
      have ending := ends scan listed
      exact (scan.view_shrinks forge endpoint queue).mem_pages_iff stays ending.some
        ending.short

/-! ## Three jobs, two to a page, the first of which is picked up -/

namespace Queue

/-- Three queued jobs, or those that are left once the first one was picked up. -/
def queued (pickedUp : Bool) : List JobEntry :=
  if pickedUp then [.plain 2, .plain 3] else [.plain 1, .plain 2, .plain 3]

/-- The first job is picked up after the first request was answered. -/
def moving : Queue where
  entries made status := if status = "queued" then queued (1 < made.length) else []
  distinct made status := by
    split
    · cases decide (1 < made.length) with
      | false => simp [queued, JobEntry.plain]
      | true => simp [queued, JobEntry.plain]
    · exact List.nodup_nil
  leaves made further status := by
    split
    · by_cases left : 1 < made.length
      · have still : 1 < (made ++ further).length := by
          rw [List.length_append]
          omega
        rw [decide_eq_true left, decide_eq_true still]
      · rw [decide_eq_false left]
        cases decide (1 < (made ++ further).length) with
        | false => exact List.Sublist.refl _
        | true => exact List.sublist_cons_self _ _
    · exact List.Sublist.refl _

/-- What is sent for the pages of two that the queued jobs fill. -/
def queuedPages (pickedUp : Bool) : List Text :=
  if pickedUp then ["\x7b\"jobs\": [\x7b\"id\": 2\x7d, \x7b\"id\": 3\x7d]\x7d"]
  else
    ["\x7b\"jobs\": [\x7b\"id\": 1\x7d, \x7b\"id\": 2\x7d]\x7d",
      "\x7b\"jobs\": [\x7b\"id\": 3\x7d]\x7d"]

/-- What is sent for a page; one that no job is on is empty. -/
def movingBody (pickedUp : Bool) (status : Option String) (page : Nat) : Text :=
  (if status = some "queued" then queuedPages pickedUp else [])[page]?.getD
    "\x7b\"jobs\": []\x7d"

end Queue

def World.moving : World :=
  { World.waiting 1000.0 with
    outside :=
      { Script.outside {} with
        serve history request :=
          .answer 200
            (Queue.movingBody (1 < history.length) request.status (request.page - 1)) } }

namespace Queue

theorem read_movingBody (pickedUp : Bool) (status : String) (page : Nat) :
    (Json.read 985 (movingBody pickedUp (some status) page)).toOption =
      some (.object [("jobs", .list (pageOf 2 (page + 1)
        ((if status = "queued" then queued pickedUp else []).map (·.value))))]) := by
  have filled :
      ∀ pickedUp, ∀ page < 2,
        (Json.read 985 (movingBody pickedUp (some "queued") page)).toOption =
          some (.object [("jobs", .list (pageOf 2 (page + 1)
            ((queued pickedUp).map (·.value))))]) := by
    decide +kernel
  have short :
      ∀ pickedUp, (queuedPages pickedUp).length ≤ 2 ∧
        ((queued pickedUp).map (·.value)).length ≤ 4 := by
    decide +kernel
  have empty :
      (Json.read 985 "\x7b\"jobs\": []\x7d").toOption = some (.object [("jobs", .list [])]) := by
    decide +kernel
  by_cases same : status = "queued"
  · subst same
    by_cases early : page < 2
    · exact filled pickedUp page early
    · rcases short pickedUp with ⟨pages, jobs⟩
      have none : (queuedPages pickedUp)[page]? = none :=
        List.getElem?_eq_none (by omega)
      have beyond : ((queued pickedUp).map (·.value)).length ≤ page * 2 := by omega
      rw [if_pos rfl, pageOf_eq_nil beyond, movingBody, if_pos rfl, none]
      exact empty
  · have other : ¬ some status = some "queued" := fun equal => same (Option.some.inj equal)
    rw [if_neg same, movingBody, if_neg other, List.map_nil, pageOf_eq_nil (Nat.zero_le _)]
    exact empty

theorem moving_feeds (endpoint : Text) :
    moving.Feeds Forge.paired endpoint World.moving := by
  intro made status page value asked
  rintro ⟨body, sent, read⟩
  have told := read_movingBody (1 < (made ++ [Call.ask asked]).length) status page
  obtain rfl :
      movingBody (1 < (made ++ [Call.ask asked]).length) (some status) page = body :=
    (Reply.answer.inj sent).2
  have read : Json.read 985 _ = .ok value := read
  rw [read] at told
  exact ⟨_, Option.some.inj told, Catalogue.get_jobs_orElse _⟩

end Queue

theorem eq_ok_of_toOption
    {Answer Part : Type}
    {result : Except Failure Answer × World}
    {part : Answer → Part}
    {value : Part}
    (found : result.1.toOption.map part = some value) :
    ∃ answer, result = (.ok answer, result.2) ∧ part answer = value := by
  rcases result with ⟨outcome, after⟩
  cases outcome with
  | error failure => cases found
  | ok answer => exact ⟨answer, rfl, Option.some.inj found⟩

/-- The third job moves from the second page to the first between the requests for them,
and is missed though it keeps waiting. -/
theorem Forge.fetchJobs_of_queue_moving :
    let endpoint := Forge.paired.allJobs
    let run := (Forge.paired.fetchJobs endpoint []).run.run World.moving
    Queue.moving.Feeds Forge.paired endpoint World.moving ∧
      (∀ made, JobEntry.plain 3 ∈ Queue.moving.entries made "queued") ∧
        Forge.paired.canRun [] (JobEntry.plain 3).job = true ∧
          ∃ jobs,
            run = (.ok jobs, run.2) ∧
              jobs.map (·.id) = [.int 1, .int 2] ∧
                ∃ scan : Scan,
                  scan.status = "queued" ∧
                    scan.Misses Forge.paired endpoint Queue.moving (.plain 3) := by
  intro endpoint run
  have stays (made : List Call) : JobEntry.plain 3 ∈ Queue.moving.entries made "queued" := by
    have both : ∀ pickedUp, JobEntry.plain 3 ∈ Queue.queued pickedUp := by
      simp [Queue.queued]
    exact both _
  have feeds := Queue.moving_feeds endpoint
  have runnable : Forge.paired.canRun [] (JobEntry.plain 3).job = true := by decide +kernel
  have found : run.1.toOption.map (·.map (·.id)) = some [.int 1, .int 2] := by decide +kernel
  rcases eq_ok_of_toOption found with ⟨jobs, fetched, ids⟩
  rcases Forge.fetchJobs_of_queue Forge.paired endpoint [] Queue.moving feeds fetched with
    ⟨scans, statuses, _, _, same, firm⟩
  refine ⟨feeds, stays, runnable, jobs, fetched, ids, ?_⟩
  have member : "queued" ∈ scans.map (·.status) := by
    rw [statuses]
    exact List.mem_cons_self
  rcases List.mem_map.mp member with ⟨scan, listed, status⟩
  refine ⟨scan, status, ?_⟩
  by_contra unslipped
  have last : JobEntry.plain 3 ∈ scan.view Forge.paired endpoint Queue.moving scan.pages := by
    rw [Scan.view, status]
    exact stays _
  have job : (JobEntry.plain 3).job ∈ jobs := by
    rw [same]
    refine List.mem_flatMap_of_mem listed (List.mem_filter.mpr ⟨?_, runnable⟩)
    exact List.mem_map_of_mem ((firm scan listed _ last).mpr unslipped)
  have id : Value.int 3 ∈ jobs.map (·.id) := List.mem_map_of_mem job
  simp [ids] at id

end RunnerFleet
