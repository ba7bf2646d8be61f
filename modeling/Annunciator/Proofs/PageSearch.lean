import Annunciator.ObjectTable
import Mathlib.Data.List.Basic

/-!
# The search for a page

A page can be gathered without listing all active events first: go through the places
of one table after the other, pass over what the client already has, take what is
active until the page is full, and stop at the first summary that finds no room. The
search brings the page that is cut from the whole list.
-/

namespace Annunciator

/-! ## The places of a table -/

section Places

variable {table : PointTable} {index : Nat} {Summary : Type} {summary : Point -> Option Summary}

/-- A place that is not behind the end of the list has a point. -/
theorem PointTable.lt_length_of_slotAt {answer : Slot Summary}
    (slot : table.slotAt index summary = answer) (inside : answer ≠ .endOfList) :
    index < table.points.values.length := by
  by_contra outside
  apply inside
  rw [← slot, slotAt, List.getElem?_eq_none (Nat.le_of_not_lt outside)]

/-- What the points from a place on have to report is what the place has, and then what
the points behind it have. -/
theorem PointTable.filterMap_drop (table : PointTable) (index : Nat)
    (summary : Point -> Option Summary) :
    (table.points.values.drop index).filterMap summary =
      match table.slotAt index summary with
      | .endOfList => []
      | .inactive => (table.points.values.drop (index + 1)).filterMap summary
      | .active found => found :: (table.points.values.drop (index + 1)).filterMap summary := by
  rw [slotAt]
  by_cases inside : index < table.points.values.length
  · rw [List.drop_eq_getElem_cons inside, List.filterMap_cons, List.getElem?_eq_getElem inside]
    dsimp only
    cases summary table.points.values[index] <;> rfl
  · have outside := Nat.le_of_not_lt inside
    rw [List.drop_of_length_le outside, List.getElem?_eq_none outside]
    rfl

end Places

section Search

variable (registry : ClassRegistry) (last : Option ObjectId) (max : Nat)

/-! ## The search -/

/-- Search a table from a place on, until its end or until a summary finds no room on
the page. -/
def PointTable.search (table : PointTable) (index : Nat) (page : List EventSummary) :
    EventInformation :=
  match _slot : table.eventInformation index registry with
  | .endOfList => ⟨page, false⟩
  | .inactive => search table (index + 1) page
  | .active summary =>
      if last.all (· < summary.object) then
        if max ≠ 0 ∧ page.length = max then ⟨page, true⟩
        else search table (index + 1) (page ++ [summary])
      else search table (index + 1) page
termination_by table.points.values.length - index
decreasing_by
  all_goals
    have inside : index < table.points.values.length :=
      lt_length_of_slotAt _slot (by simp)
    omega

/-- Search tables one after the other, and none after the page is full. -/
def searchAll (page : List EventSummary) : List PointTable -> EventInformation
  | [] => ⟨page, false⟩
  | table :: rest =>
      let gathered := table.search registry last max 0 page
      if gathered.moreEvents then gathered else searchAll gathered.summaries rest

/-! ## What it brings -/

/-- Cut a page from a list of summaries. -/
def pageOf (summaries : List EventSummary) : EventInformation :=
  if max = 0 then ⟨summaries, false⟩ else ⟨summaries.take max, max < summaries.length⟩

/-- A page either is everything, or it is a part that ends with some summary and comes
before the rest. -/
theorem pageOf_cases {max : Nat} (positive : 0 < max) (summaries : List EventSummary) :
    pageOf max summaries = ⟨summaries, false⟩ ∨
      ∃ front final back, summaries = front ++ final :: back ∧
        pageOf max summaries = ⟨front ++ [final], true⟩ := by
  have cut : pageOf max summaries = ⟨summaries.take max, max < summaries.length⟩ :=
    if_neg (Nat.ne_of_gt positive)
  by_cases short : summaries.length ≤ max
  · left
    rw [cut, List.take_of_length_le short]
    simpa using short
  · right
    have long : max < summaries.length := Nat.lt_of_not_le short
    have split := List.take_append_drop max summaries
    rcases List.eq_nil_or_concat' (summaries.take max) with empty | ⟨front, final, ends⟩
    · have length := congrArg List.length empty
      rw [List.length_take, List.length_nil] at length
      omega
    · refine ⟨front, final, summaries.drop max, ?_, ?_⟩
      · rw [ends, List.append_assoc] at split
        exact split.symm
      · rw [cut, ends]
        simpa using long

/-- A page has room as long as it could have been cut from its own summaries. -/
def HasRoom (page : List EventSummary) : Prop := max ≠ 0 -> page.length ≤ max

/-- Nothing is cut from a page that has room. -/
theorem pageOf_of_hasRoom {page : List EventSummary} (room : HasRoom max page) :
    pageOf max page = ⟨page, false⟩ := by
  rw [pageOf]
  split
  · rfl
  · next limited =>
      rw [List.take_of_length_le (room limited)]
      simpa using room limited

/-- What comes after a summary without room is not seen. -/
theorem pageOf_append_cons {page : List EventSummary} (summary : EventSummary)
    (rest : List EventSummary) (full : max ≠ 0 ∧ page.length = max) :
    pageOf max (page ++ summary :: rest) = ⟨page, true⟩ := by
  obtain ⟨limited, rfl⟩ := full
  rw [pageOf, if_neg limited, List.take_left]
  simp

/-- The summaries of some points that the client does not have yet. -/
def unseen (points : List Point) : List EventSummary :=
  (points.filterMap fun point =>
    point.eventSummary? (registry.priorities point.notificationClass)).filter
      fun summary => last.all (· < summary.object)

/-- What is not seen yet from a place on follows from what is at the place. -/
theorem unseen_drop (table : PointTable) (index : Nat) :
    unseen registry last (table.points.values.drop index) =
      match table.eventInformation index registry with
      | .endOfList => []
      | .inactive => unseen registry last (table.points.values.drop (index + 1))
      | .active summary =>
          if last.all (· < summary.object) then
            summary :: unseen registry last (table.points.values.drop (index + 1))
          else unseen registry last (table.points.values.drop (index + 1)) := by
  rw [unseen, table.filterMap_drop index, ← PointTable.eventInformation]
  cases table.eventInformation index registry with
  | endOfList => rfl
  | inactive => rfl
  | active summary => exact List.filter_cons

/-- A search brings what is cut from the gathered summaries and all that are not seen yet. -/
theorem search_eq (table : PointTable) (index : Nat) {page : List EventSummary}
    (room : HasRoom max page) :
    table.search registry last max index page =
      pageOf max (page ++ unseen registry last (table.points.values.drop index)) := by
  fun_induction PointTable.search registry last max table index page with
  | case1 index page slot =>
      rw [unseen_drop, slot, List.append_nil, pageOf_of_hasRoom max room]
  | case2 index page slot inductionHypothesis =>
      rw [unseen_drop, slot, inductionHypothesis room]
  | case3 index page summary slot behind full =>
      rw [unseen_drop, slot]
      dsimp only
      rw [if_pos behind, pageOf_append_cons max _ _ full]
  | case4 index page summary slot behind notFull inductionHypothesis =>
      have stillRoom : HasRoom max (page ++ [summary]) := by
        intro limited
        have below := room limited
        rw [List.length_append, List.length_singleton]
        have differ : page.length ≠ max := fun same => notFull ⟨limited, same⟩
        omega
      rw [unseen_drop, slot]
      dsimp only
      rw [if_pos behind, inductionHypothesis stillRoom, ← List.append_cons]
  | case5 index page summary slot notBehind inductionHypothesis =>
      rw [unseen_drop, slot]
      dsimp only
      rw [if_neg notBehind, inductionHypothesis room]

/-- A full page stays as it is when more summaries come after it. -/
theorem pageOf_append_of_full {summaries : List EventSummary}
    (full : (pageOf max summaries).moreEvents = true) (rest : List EventSummary) :
    pageOf max (summaries ++ rest) = pageOf max summaries := by
  rw [pageOf] at full
  split at full
  · cases full
  · next limited =>
      have long : max < summaries.length := by simpa using full
      have longer : max < (summaries ++ rest).length := by
        rw [List.length_append]
        omega
      rw [pageOf, pageOf, if_neg limited, if_neg limited,
        List.take_append_of_le_length (Nat.le_of_lt long)]
      rw [decide_eq_true long, decide_eq_true longer]

/-- A page that is not full holds everything, and has room. -/
theorem hasRoom_of_not_full {summaries : List EventSummary}
    (notFull : (pageOf max summaries).moreEvents = false) :
    (pageOf max summaries).summaries = summaries ∧ HasRoom max summaries := by
  rw [pageOf] at notFull ⊢
  split at notFull
  · next unlimited =>
      rw [if_pos unlimited]
      exact ⟨rfl, fun limited => absurd unlimited limited⟩
  · next limited =>
      have short : summaries.length ≤ max := by simpa using notFull
      rw [if_neg limited]
      exact ⟨List.take_of_length_le short, fun _ => short⟩

/-- A search through tables brings what is cut from the page so far and all that is unseen in
them. -/
theorem searchAll_eq (tables : List PointTable) {page : List EventSummary}
    (room : HasRoom max page) :
    searchAll registry last max page tables =
      pageOf max (page ++ tables.flatMap fun table => unseen registry last table.points.values) := by
  induction tables generalizing page with
  | nil => rw [searchAll, List.flatMap_nil, List.append_nil, pageOf_of_hasRoom max room]
  | cons table rest inductionHypothesis =>
      have first := search_eq registry last max table 0 room
      rw [List.drop_zero] at first
      simp only [searchAll, first]
      rw [List.flatMap_cons, ← List.append_assoc]
      split
      · next full => rw [pageOf_append_of_full max full]
      · next notFull =>
          obtain ⟨whole, stillRoom⟩ := hasRoom_of_not_full max (Bool.eq_false_iff.mpr notFull)
          rw [whole, inductionHypothesis stillRoom]

/-- The search through all tables brings the page that is cut from the active events. -/
theorem searchAll_reporters (table : ObjectTable) :
    searchAll registry last max [] table.reporters = table.eventInformation registry last max := by
  have room : HasRoom max [] := fun _ => Nat.zero_le max
  rw [searchAll_eq registry last max table.reporters room, List.nil_append,
    ObjectTable.eventInformation, ObjectTable.eventSummaries, List.filter_flatMap]
  rfl

end Search

end Annunciator
