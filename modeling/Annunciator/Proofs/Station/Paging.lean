import Annunciator.Proofs.PageSearch
import Annunciator.Proofs.Station.ActiveEvents
import Annunciator.Station.Alarms
import Mathlib.Data.List.Count

/-!
# Paging through the active events

A client that cannot take all active events at once asks for one page after the
other, each time behind the last object it has received. Anything may happen to the
station between two of its requests, so no two pages need to come from the same list
of events. What the pages have in common is the order of objects: every page lies
behind the one before it, and what a page leaves out lies behind the page.
-/

namespace Annunciator.Station

/-! ## One request -/

/-- A client before a request: the station at this time, and the object of the last
summary that was received. -/
structure Session where
  station : Station
  last : Option ObjectId

namespace Session

/-- Whether an object lies behind the last one, so that the client still waits for it. -/
def awaits (session : Session) (object : ObjectId) : Bool := session.last.all (· < object)

/-- The client waits for what lies behind the last object, and for everything before it has
any. -/
theorem awaits_iff {session : Session} {object : ObjectId} :
    session.awaits object = true ↔ ∀ last ∈ session.last, last < object := by
  rw [awaits, Option.all_eq_true]
  simp only [decide_eq_true_eq, Option.mem_def]

/-- The active events behind the last object. -/
def following (session : Session) : List EventSummary :=
  session.station.activeEvents.filter fun summary => session.awaits summary.object

/-- The page that the request brings. -/
def page (max : Nat) (session : Session) : EventInformation :=
  session.station.eventInformation session.last max

/-- The next request is for what is behind this page, and before it the station is
asked for some operations. -/
def next (max : Nat) (operations : List Operation) (session : Session) : Session where
  station := (run operations session.station).state
  last := (session.page max).summaries.getLast?.map (·.object)

/-- What follows is in strictly ascending order of objects. -/
theorem following_ascending {session : Session} (proper : session.station.IsProper) :
    session.following.Pairwise fun left right => left.object < right.object :=
  (activeEvents_ascending proper).sublist List.filter_sublist

/-- The client waits for all that follows. -/
theorem awaits_of_mem_following {session : Session} {summary : EventSummary}
    (member : summary ∈ session.following) : session.awaits summary.object = true :=
  (List.mem_filter.mp member).2

/-- What follows are the active objects that the client waits for. -/
theorem mem_objects_following_iff {session : Session} (proper : session.station.IsProper)
    {object : ObjectId} :
    object ∈ session.following.map (·.object) ↔
      session.station.IsActive object ∧ session.awaits object = true := by
  rw [← mem_activeEvents_iff proper]
  simp only [List.mem_map, following, List.mem_filter]
  constructor
  · rintro ⟨summary, ⟨active, awaited⟩, rfl⟩
    exact ⟨⟨summary, active, rfl⟩, awaited⟩
  · rintro ⟨⟨summary, active, rfl⟩, awaited⟩
    exact ⟨summary, ⟨active, awaited⟩, rfl⟩

/-- Behind an object that the client waits for, it waits for every object. -/
theorem awaits_of_lt {session : Session} {object beyond : ObjectId}
    (awaited : session.awaits object = true) (above : object < beyond) :
    session.awaits beyond = true :=
  awaits_iff.mpr fun last known => KeyOrder.transitive (awaits_iff.mp awaited last known) above

/-- The objects that can still report to the client. -/
def ahead (session : Session) : List ObjectId := session.station.objects.filter session.awaits

/-- All that follows comes from objects ahead. -/
theorem object_mem_ahead {session : Session} {summary : EventSummary}
    (member : summary ∈ session.following) : summary.object ∈ session.ahead := by
  obtain ⟨active, awaited⟩ := List.mem_filter.mp member
  refine List.mem_filter.mpr ⟨?_, awaited⟩
  exact session.station.activeEvents_sublist.subset (List.mem_map_of_mem active)

/-! ### Pages that leave something out -/

/-- The page is what a search through the reporting tables brings, which stops at the first
summary that finds no room. -/
theorem page_eq_searchAll (max : Nat) (session : Session) :
    session.page max = searchAll session.station.registry session.last max []
      session.station.objectTable.reporters :=
  (searchAll_reporters session.station.registry session.last max
    session.station.objectTable).symm

/-- The page is cut from what follows. -/
theorem page_eq (max : Nat) (session : Session) :
    session.page max = pageOf max session.following := rfl

/-- A page that ends with some summary and leaves out what comes behind it. -/
structure Cut (max : Nat) (session : Session) (front : List EventSummary)
    (final : EventSummary) (back : List EventSummary) : Prop where
  split : session.following = front ++ final :: back
  paged : session.page max = ⟨front ++ [final], true⟩

/-- A page either is everything that follows, or it leaves something out. -/
theorem page_cases {max : Nat} (positive : 0 < max) (session : Session) :
    session.page max = ⟨session.following, false⟩ ∨
      ∃ front final back, session.Cut max front final back := by
  rw [page_eq]
  rcases pageOf_cases positive session.following with all | ⟨front, final, back, split, paged⟩
  · exact .inl all
  · exact .inr ⟨front, final, back, split, paged⟩

/-- A page that says that nothing more follows is all that follows. -/
theorem page_of_ended {max : Nat} (positive : 0 < max) {session : Session}
    (ended : (session.page max).moreEvents = false) :
    session.page max = ⟨session.following, false⟩ := by
  rcases page_cases positive session with all | ⟨_, _, _, cut⟩
  · exact all
  · rw [cut.paged] at ended
    cases ended

/-- A page that says that more follows leaves something out behind its last summary. -/
theorem exists_cut {max : Nat} (positive : 0 < max) {session : Session}
    (goesOn : (session.page max).moreEvents = true) :
    ∃ front final back, session.Cut max front final back := by
  rcases page_cases positive session with all | cut
  · rw [all] at goesOn
    cases goesOn
  · exact cut

namespace Cut

variable {max : Nat} {session : Session} {front : List EventSummary} {final : EventSummary}
  {back : List EventSummary} (cut : session.Cut max front final back)

section

include cut

theorem final_mem : final ∈ session.following := by
  rw [cut.split]
  exact List.mem_append_right front (List.mem_cons_self ..)

/-- The client goes on behind the last summary of the page. -/
theorem last_next (operations : List Operation) :
    (session.next max operations).last = some final.object := by
  rw [next, cut.paged, List.getLast?_append]
  rfl

/-- After the page the client waits for what is behind its last summary. -/
theorem awaits_next (operations : List Operation) (object : ObjectId) :
    (session.next max operations).awaits object = true ↔ final.object < object := by
  rw [awaits_iff, cut.last_next operations]
  simp only [Option.mem_def, Option.some.injEq, forall_eq']

/-- What the client waits for after the page it waited for before the page. -/
theorem filter_awaits_next {Item : Type} (operations : List Operation)
    (objectOf : Item -> ObjectId) (items : List Item) :
    items.filter (fun item => (session.next max operations).awaits (objectOf item)) =
      (items.filter fun item => session.awaits (objectOf item)).filter
        fun item => (session.next max operations).awaits (objectOf item) := by
  rw [List.filter_filter]
  refine List.filter_congr fun item _ => ?_
  rw [Bool.eq_iff_iff, Bool.and_eq_true]
  constructor
  · intro awaited
    have beyond := (cut.awaits_next operations _).mp awaited
    exact ⟨awaited, awaits_of_lt (awaits_of_mem_following cut.final_mem) beyond⟩
  · exact And.left

/-- Behind the page there are fewer objects than before it. -/
theorem ahead_next_lt (operations : List Operation) :
    (session.next max operations).ahead.length < session.ahead.length := by
  have sameObjects : (session.next max operations).station.objects =
      session.station.objects := session.station.objects_run operations
  have narrowed : (session.next max operations).ahead =
      session.ahead.filter (session.next max operations).awaits := by
    rw [ahead, sameObjects]
    exact cut.filter_awaits_next operations id session.station.objects
  rw [narrowed, List.length_filter_lt_length_iff_exists]
  refine ⟨final.object, object_mem_ahead cut.final_mem, ?_⟩
  rw [cut.awaits_next operations]
  exact KeyOrder.irreflexive final.object

end

section Proper

variable (proper : session.station.IsProper)
include cut proper

/-- The page ascends to its last summary, and what it leaves out lies behind that one. -/
theorem ascending :
    ((front ++ [final]).Pairwise fun left right => left.object < right.object) ∧
      (∀ summary ∈ front, summary.object < final.object) ∧
      ∀ summary ∈ back, final.object < summary.object := by
  have following := following_ascending proper
  rw [cut.split, List.append_cons, List.pairwise_append] at following
  obtain ⟨onPage, -, across⟩ := following
  have below := (List.pairwise_append.mp onPage).2.2
  exact ⟨onPage, fun summary member => below summary member final (by simp),
    fun summary member => across final (by simp) summary member⟩

/-- What lies behind the last summary of the page lies behind all of the page. -/
theorem lt_of_final_lt {summary : EventSummary} {object : ObjectId}
    (member : summary ∈ front ++ [final]) (beyond : final.object < object) :
    summary.object < object := by
  rcases List.mem_append.mp member with before | here
  · exact KeyOrder.transitive ((cut.ascending proper).2.1 summary before) beyond
  · cases List.mem_singleton.mp here
    exact beyond

/-- When nothing happens after the page, what follows is what the page left out. -/
theorem following_next_idle : (session.next max []).following = back := by
  have sameStation : (session.next max []).station = session.station := rfl
  have narrowed : (session.next max []).following =
      session.following.filter fun summary => (session.next max []).awaits summary.object := by
    rw [following, sameStation, cut.filter_awaits_next [] EventSummary.object]
    rfl
  have dropped : (front ++ [final]).filter
      (fun summary => (session.next max []).awaits summary.object) = [] := by
    rw [List.filter_eq_nil_iff]
    intro summary member awaited
    have beyond := (cut.awaits_next [] summary.object).mp awaited
    exact KeyOrder.irreflexive _ (cut.lt_of_final_lt proper member beyond)
  have kept : back.filter (fun summary => (session.next max []).awaits summary.object) =
      back := by
    rw [List.filter_eq_self]
    intro summary member
    exact (cut.awaits_next [] summary.object).mpr ((cut.ascending proper).2.2 summary member)
  rw [narrowed, cut.split, List.append_cons, List.filter_append, dropped, kept, List.nil_append]

end Proper

end Cut

end Session

/-! ## All requests of a query -/

/-- The requests of a query from a session on: the client goes on until a page says
that nothing follows it. What happens after each request is given by `activity`. -/
inductive Requests (max : Nat) :
    (activity : Nat -> List Operation) -> Session -> List Session -> Prop where
  | done {activity : Nat -> List Operation} {session : Session}
      (ended : (session.page max).moreEvents = false) :
      Requests max activity session [session]
  | more {activity : Nat -> List Operation} {session : Session} {later : List Session}
      (goesOn : (session.page max).moreEvents = true)
      (rest : Requests max (fun request => activity (request + 1))
        (session.next max (activity 0)) later) :
      Requests max activity session (session :: later)

/-- The summaries on all pages, one page after the other. -/
def received (max : Nat) (sessions : List Session) : List EventSummary :=
  sessions.flatMap fun session => (session.page max).summaries

theorem received_singleton (max : Nat) (session : Session) :
    received max [session] = (session.page max).summaries := by
  rw [received, List.flatMap_singleton]

theorem received_cons (max : Nat) (session : Session) (later : List Session) :
    received max (session :: later) = (session.page max).summaries ++ received max later :=
  List.flatMap_cons

namespace Requests

open Session

variable {max : Nat} (positive : 0 < max)

include positive in
/-- Every query comes to its end: each page leaves fewer objects ahead. -/
theorem exist (activity : Nat -> List Operation) (session : Session) :
    ∃ sessions, Requests max activity session sessions := by
  induction measured : session.ahead.length using Nat.strongRecOn
    generalizing activity session with
  | ind size inductionHypothesis =>
      rcases page_cases positive session with all | ⟨front, final, back, cut⟩
      · exact ⟨[session], .done (by rw [all])⟩
      · have fewer : (session.next max (activity 0)).ahead.length < size := by
          rw [← measured]
          exact cut.ahead_next_lt (activity 0)
        obtain ⟨later, rest⟩ := inductionHypothesis _ fewer
          (fun request => activity (request + 1)) _ rfl
        exact ⟨session :: later, .more (by rw [cut.paged]) rest⟩

/-! What is received is followed through the requests from the first to the last. At
every request it lies behind the last object, which is what the next ones start from. -/

variable {activity : Nat -> List Operation} {session : Session} {sessions : List Session}

include positive in
/-- The pages lie behind the last object and come in strictly ascending order. -/
theorem ascending (requests : Requests max activity session sessions)
    (proper : session.station.IsProper) :
    (∀ summary ∈ received max sessions, session.awaits summary.object = true) ∧
      (received max sessions).Pairwise fun left right => left.object < right.object := by
  induction requests with
  | @done _ session ended =>
      rw [received_singleton, page_of_ended positive ended]
      exact ⟨fun summary => awaits_of_mem_following, following_ascending proper⟩
  | @more activity session later goesOn _ inductionHypothesis =>
      obtain ⟨front, final, back, cut⟩ := exists_cut positive goesOn
      obtain ⟨behind, laterAscending⟩ := inductionHypothesis (isProper_run proper (activity 0))
      have beyond : ∀ summary ∈ received max later, final.object < summary.object :=
        fun summary member => (cut.awaits_next _ _).mp (behind summary member)
      rw [received_cons, cut.paged]
      constructor
      · intro summary member
        rcases List.mem_append.mp member with here | there
        · have follows : summary ∈ session.following := by
            rw [cut.split, List.append_cons]
            exact List.mem_append_left back here
          exact awaits_of_mem_following follows
        · exact awaits_of_lt (awaits_of_mem_following cut.final_mem) (beyond summary there)
      · refine List.pairwise_append.mpr ⟨(cut.ascending proper).1, laterAscending, ?_⟩
        intro left onPage right afterwards
        exact cut.lt_of_final_lt proper onPage (beyond right afterwards)

include positive in
/-- An object that the client waits for and that is active at every request is received. -/
theorem complete (requests : Requests max activity session sessions)
    (proper : session.station.IsProper) {object : ObjectId}
    (active : ∀ request ∈ sessions, request.station.IsActive object)
    (awaited : session.awaits object = true) :
    object ∈ (received max sessions).map (·.object) := by
  induction requests with
  | @done _ session ended =>
      rw [received_singleton, page_of_ended positive ended, mem_objects_following_iff proper]
      exact ⟨active session (by simp), awaited⟩
  | @more activity session later goesOn _ inductionHypothesis =>
      obtain ⟨front, final, back, cut⟩ := exists_cut positive goesOn
      have follows : object ∈ session.following.map (·.object) :=
        (mem_objects_following_iff proper).mpr ⟨active session (by simp), awaited⟩
      rw [cut.split, List.append_cons, List.map_append, List.mem_append] at follows
      rw [received_cons, cut.paged, List.map_append, List.mem_append]
      rcases follows with onPage | leftOut
      · exact .inl onPage
      · right
        obtain ⟨summary, member, rfl⟩ := List.mem_map.mp leftOut
        refine inductionHypothesis (isProper_run proper (activity 0))
          (fun request listed => active request (List.mem_cons_of_mem _ listed)) ?_
        rw [cut.awaits_next]
        exact (cut.ascending proper).2.2 summary member

include positive in
/-- When nothing happens in between, everything that followed at the start is received. -/
theorem undisturbed (requests : Requests max activity session sessions)
    (proper : session.station.IsProper) (idle : ∀ request, activity request = []) :
    received max sessions = session.following := by
  induction requests with
  | @done _ session ended =>
      rw [received_singleton, page_of_ended positive ended]
  | @more activity session later goesOn _ inductionHypothesis =>
      obtain ⟨front, final, back, cut⟩ := exists_cut positive goesOn
      rw [idle 0] at inductionHypothesis
      rw [received_cons, inductionHypothesis proper fun request => idle (request + 1),
        cut.following_next_idle proper, cut.paged, cut.split, List.append_cons front final back]

end Requests

/-! ## Whole queries -/

/-- The first session of a query. -/
def Session.first (station : Station) : Session := ⟨station, none⟩

/-- A query loses nothing, whatever happens between its requests. It comes to an end. Each
page is what the search through the reporting tables gathers for it, and no page that says
that more follows is empty. The summaries on the pages are in strictly ascending order of
objects, and every object that is active at each request is among them once. When nothing
happens in between, they are the summaries that a request without limit brings at once,
which are those of the active objects. -/
theorem paging_lossless {station : Station} (filled : ∀ table ∈ station.tables, table.Filled)
    {max : Nat} (positive : 0 < max) (activity : Nat -> List Operation) :
    (∃ sessions, Requests max activity (.first station) sessions) ∧
    (∀ object, object ∈ (station.eventInformation none 0).summaries.map (·.object) ↔
      station.IsActive object) ∧
    ∀ sessions, Requests max activity (.first station) sessions ->
      (∀ session ∈ sessions, session.page max =
        searchAll session.station.registry session.last max []
          session.station.objectTable.reporters) ∧
      (∀ session ∈ sessions, (session.page max).moreEvents = true ->
        (session.page max).summaries ≠ []) ∧
      ((received max sessions).map (·.object)).Pairwise (· < ·) ∧
      (∀ object, (∀ session ∈ sessions, session.station.IsActive object) ->
        ((received max sessions).map (·.object)).count object = 1) ∧
      ((∀ request, activity request = []) ->
        received max sessions = (station.eventInformation none 0).summaries) := by
  have proper : (Session.first station).station.IsProper := isProper_of_filled filled
  have everything : (station.eventInformation none 0).summaries =
      (Session.first station).following := rfl
  refine ⟨Requests.exist positive activity _, ?_, fun sessions requests => ?_⟩
  · intro object
    rw [everything, Session.mem_objects_following_iff proper]
    exact and_iff_left (Session.awaits_iff.mpr (by simp [Session.first]))
  · have ascending := (requests.ascending positive proper).2
    rw [← List.pairwise_map] at ascending
    refine ⟨fun session _ => session.page_eq_searchAll max, ?_, ascending, ?_, ?_⟩
    · intro session _ goesOn
      obtain ⟨front, final, _, cut⟩ := Session.exists_cut positive goesOn
      rw [cut.paged]
      exact List.append_ne_nil_of_right_ne_nil front (List.cons_ne_nil final [])
    · intro object active
      -- In strictly ascending order nothing comes twice, so whatever is received is received once.
      have distinct : ((received max sessions).map (·.object)).Nodup := by
        refine ascending.imp ?_
        rintro left right below rfl
        exact KeyOrder.irreflexive _ below
      refine List.count_eq_one_of_mem distinct ?_
      exact requests.complete positive proper active
        (Session.awaits_iff.mpr (by simp [Session.first]))
    · intro idle
      rw [requests.undisturbed positive proper idle, everything]

/-- A binary point in an event state, with nothing left to acknowledge. -/
def signal (object : ObjectId) (state : EventState) : Point where
  id := object
  name := object.display
  notificationClass := 1
  ladder := ⟨.replicate _ none, .binary .inactive, none, false, .binary .inactive, false⟩
  alarm := .binary .active
  reliability := .noFaultDetected
  monitor := { Monitor.create .standard with state }

/-- A table with one output, which has a fault. -/
def faultyOutput : PointTable where
  objectType := .binaryOutput
  points := (∅ : SortedMap _ _).insert 7 (signal ⟨.binaryOutput, 7⟩ .fault)

/-- The second output of this station has a fault, and its only value is in alarm. -/
def signalBox : Station :=
  { bare ⟨9⟩ Timestamp.noon ⟨8, none⟩ with
    tables :=
      [⟨.binaryValue, (∅ : SortedMap _ _).insert 3 (signal ⟨.binaryValue, 3⟩ .offnormal)⟩,
        { faultyOutput with
          points := faultyOutput.points.insert 2 (signal ⟨.binaryOutput, 2⟩ .normal) }] }

/-- Pages of one summary each bring the alarms of both tables, in the order of types. -/
theorem signalBox_paged :
    (∀ table ∈ signalBox.tables, table.Filled) ∧ 0 < 1 ∧
      ∃ sessions, Requests 1 (fun _ => []) (.first signalBox) sessions ∧
        (received 1 sessions).map (·.object) = [⟨.binaryOutput, 7⟩, ⟨.binaryValue, 3⟩] := by
  have filled : ∀ table ∈ signalBox.tables, table.Filled := by
    intro table member
    rcases List.mem_cons.mp member with rfl | later
    · have only : (PointTable.empty .binaryValue).insert
          (signal ⟨.binaryValue, 3⟩ .offnormal) = .ok _ := rfl
      exact .insert (.empty .binaryValue) only
    · cases List.mem_singleton.mp later
      have first : (PointTable.empty .binaryOutput).insert
          (signal ⟨.binaryOutput, 7⟩ .fault) = .ok faultyOutput := rfl
      have second : faultyOutput.insert (signal ⟨.binaryOutput, 2⟩ .normal) = .ok _ := rfl
      exact .insert (.insert (.empty .binaryOutput) first) second
  obtain ⟨⟨sessions, requests⟩, -, lossless⟩ :=
    paging_lossless filled Nat.one_pos fun _ => []
  have undisturbed := (lossless sessions requests).2.2.2.2 fun _ => rfl
  refine ⟨filled, Nat.one_pos, sessions, requests, ?_⟩
  have reporters := ObjectTable.reporters_eq signalBox.tables
  rw [undisturbed, eventInformation, objectTable, ObjectTable.eventInformation,
    ObjectTable.eventSummaries, reporters]
  decide

end Annunciator.Station
