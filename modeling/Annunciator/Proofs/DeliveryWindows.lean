import Annunciator.Recipient
import Mathlib.Tactic.ByContra

/-!
# Delivery windows

Whether a moment lies in the window of a destination is meant to be a matter of seconds. Only the
moment has its sub-second part cleared, and the ends of the window are taken as they stand. At its
end this makes no difference: the whole second of the end is inside. But of the second in which a
window opens nothing is inside unless the window opens right at the start of it.
-/

namespace Annunciator

namespace TimeOfDay

variable {start finish time : TimeOfDay}

/-- The second of the day in which a time lies. A leap second counts as the second 59 before it. -/
def secondOfDay (time : TimeOfDay) : Nat :=
  (time.hour.val * 60 + time.minute.val) * 60 + time.plainSecond

/-- A time at which a second starts that is not a leap second. -/
def StartsSecond (time : TimeOfDay) : Prop := time.second.val < 60 ∧ time.nanosecond.val = 0

instance : DecidablePred StartsSecond := fun time =>
  inferInstanceAs (Decidable (time.second.val < 60 ∧ time.nanosecond.val = 0))

theorem le_iff : start ≤ time ↔ start.rank ≤ time.rank := Iff.rfl

/-- Where a time stands in its day, by its second and what it is behind the start of it. -/
theorem rank_toWholeSecond (time : TimeOfDay) :
    time.toWholeSecond.rank =
      ((time.hour.val * 60 + time.minute.val) * 61 + time.plainSecond) * nanosPerSecond := by
  simp [rank, toWholeSecond]

/-- A cleared time is not after the end exactly if its second is not. -/
theorem toWholeSecond_le_iff :
    time.toWholeSecond ≤ finish ↔ time.secondOfDay ≤ finish.secondOfDay := by
  have bound := finish.nanosecond.isLt
  rw [le_iff, rank_toWholeSecond]
  simp only [rank, secondOfDay, plainSecond, nanosPerSecond] at bound ⊢
  omega

/-- A cleared time is not before the start exactly if its second is not, and if the start is not
behind the start of this very second. -/
theorem le_toWholeSecond_iff :
    start ≤ time.toWholeSecond ↔ start.secondOfDay ≤ time.secondOfDay ∧
      (start.secondOfDay = time.secondOfDay -> start.StartsSecond) := by
  have bound := start.nanosecond.isLt
  rw [le_iff, rank_toWholeSecond]
  simp only [rank, secondOfDay, plainSecond, nanosPerSecond, StartsSecond] at bound ⊢
  omega

/-- Seconds pass in the order of times. -/
theorem secondOfDay_mono (ordered : start ≤ finish) : start.secondOfDay ≤ finish.secondOfDay := by
  have bound := finish.nanosecond.isLt
  rw [le_iff] at ordered
  simp only [rank, secondOfDay, plainSecond, nanosPerSecond] at bound ordered ⊢
  omega

end TimeOfDay

namespace Destination

variable {destination : Destination} {kind : Transition} {now : Timestamp}

/-- A destination is to hear of a kind of transition, and of the day of a moment. -/
structure Wants (destination : Destination) (kind : Transition) (now : Timestamp) : Prop where
  kind : destination.transitions.contains kind = true
  day : destination.validDays.contains now.weekday = true

/-- The second of a moment is one from that of the window's start to that of its end. -/
structure Covers (destination : Destination) (now : Timestamp) : Prop where
  opened : destination.fromTime.secondOfDay ≤ now.time.secondOfDay
  notClosed : now.time.secondOfDay ≤ destination.toTime.secondOfDay

/-- A window opens in the second of a moment, but not with it. -/
structure OpensInside (destination : Destination) (now : Timestamp) : Prop where
  sameSecond : destination.fromTime.secondOfDay = now.time.secondOfDay
  behindStart : ¬destination.fromTime.StartsSecond

/-- A moment is told by its second, but for the second in which the window opens late. -/
theorem admits_iff :
    destination.admits kind now = true ↔
      destination.Wants kind now ∧ destination.Covers now ∧ ¬destination.OpensInside now := by
  simp only [admits, TimeOfDay.within, Bool.and_eq_true, decide_eq_true_eq,
    TimeOfDay.le_toWholeSecond_iff, TimeOfDay.toWholeSecond_le_iff]
  constructor
  · rintro ⟨⟨told, today⟩, ⟨opened, onTime⟩, notClosed⟩
    exact ⟨⟨told, today⟩, ⟨opened, notClosed⟩,
      fun inside => inside.behindStart (onTime inside.sameSecond)⟩
  · rintro ⟨wants, covers, notInside⟩
    refine ⟨⟨wants.kind, wants.day⟩, ⟨covers.opened, fun sameSecond => ?_⟩, covers.notClosed⟩
    by_contra behindStart
    exact notInside ⟨sameSecond, behindStart⟩

/-- The seconds alone decide where a window does not open inside the second of the moment. -/
theorem admits_iff_covers
    (onTime : destination.Wants kind now -> destination.Covers now ->
      ¬destination.OpensInside now) :
    destination.admits kind now = true ↔ destination.Wants kind now ∧ destination.Covers now := by
  rw [admits_iff]
  constructor
  · exact fun admitted => ⟨admitted.1, admitted.2.1⟩
  · exact fun wanted => ⟨wanted.1, wanted.2, onTime wanted.1 wanted.2⟩

/-- A window covers the moments between its ends. -/
theorem Covers.of_between (opened : destination.fromTime ≤ now.time)
    (notClosed : now.time ≤ destination.toTime) : destination.Covers now :=
  ⟨TimeOfDay.secondOfDay_mono opened, TimeOfDay.secondOfDay_mono notClosed⟩

/-- A window that opens late in a second does not admit the moment at which it opens. -/
theorem admits_opening (late : ¬destination.fromTime.StartsSecond) (date : Date) :
    destination.admits kind ⟨date, destination.fromTime⟩ = false := by
  rw [Bool.eq_false_iff, ne_eq, admits_iff]
  exact fun admitted => admitted.2.2 ⟨rfl, late⟩

/-- A window that covers a moment covers its own opening on that day. -/
theorem Covers.opening (covers : destination.Covers now) :
    destination.Covers ⟨now.date, destination.fromTime⟩ :=
  ⟨Nat.le_refl _, Nat.le_trans covers.opened covers.notClosed⟩

/-- A transition is admitted exactly if its kind and its day are wanted and its second is one of
the window's, but for the second in which a window opens without the two starting together. So of
the moments between the ends of a window, on a day and of a kind that are wanted, those in this
second are rejected and no others. All of a destination's moments are compared by their seconds
exactly if its window opens with a second, or never covers anything that is wanted. -/
theorem admits_by_seconds (destination : Destination) :
    (∀ kind now, destination.admits kind now = true ↔
      destination.Wants kind now ∧ destination.Covers now ∧ ¬destination.OpensInside now) ∧
    (∀ kind now, destination.fromTime ≤ now.time -> now.time ≤ destination.toTime ->
      destination.Wants kind now ->
      (destination.admits kind now = true ↔ ¬destination.OpensInside now)) ∧
    ((∀ kind now, destination.admits kind now = true ↔
        destination.Wants kind now ∧ destination.Covers now) ↔
      destination.fromTime.StartsSecond ∨
        ∀ kind now, ¬(destination.Wants kind now ∧ destination.Covers now)) := by
  refine ⟨fun _ _ => admits_iff, fun kind now opened notClosed wants => ?_, ?_, ?_⟩
  · rw [admits_iff]
    have covers := Covers.of_between opened notClosed
    exact ⟨fun admitted => admitted.2.2, fun notInside => ⟨wants, covers, notInside⟩⟩
  · intro bySeconds
    by_contra neither
    obtain ⟨late, sometimes⟩ := not_or.mp neither
    obtain ⟨kind, now, wants, covers⟩ : ∃ kind now,
        destination.Wants kind now ∧ destination.Covers now := by
      simpa only [not_forall, not_not] using sometimes
    -- The opening of the window on the same day is covered, and it is not admitted.
    have admitted := (bySeconds kind ⟨now.date, destination.fromTime⟩).mpr
      ⟨⟨wants.kind, wants.day⟩, covers.opening⟩
    rw [admits_opening late] at admitted
    cases admitted
  · rintro (onTime | never) kind now
    · exact admits_iff_covers fun _ _ inside => inside.behindStart onTime
    · exact admits_iff_covers fun wants covers => absurd ⟨wants, covers⟩ (never kind now)

/-- From half a second past eight to six in the evening, every day. -/
def lateOpening : Destination :=
  { always (.device ⟨1⟩) with
    fromTime := .ofNanoseconds (8 * 3600 * nanosPerSecond + 500000000)
    toTime := .ofNanoseconds (18 * 3600 * nanosPerSecond) }

/-- Three quarters of a second past eight, on a Wednesday. -/
def pastOpening : Timestamp :=
  ⟨Timestamp.noon.date, .ofNanoseconds (8 * 3600 * nanosPerSecond + 750000000)⟩

/-- A moment in a second that the window covers, and between its ends, is rejected. -/
theorem not_admits_of_covers :
    (¬∀ (destination : Destination) (kind : Transition) (now : Timestamp),
      destination.admits kind now = true ↔
        destination.Wants kind now ∧ destination.Covers now) ∧
    ¬∀ (destination : Destination) (kind : Transition) (now : Timestamp),
      destination.Wants kind now -> destination.fromTime ≤ now.time ->
      now.time ≤ destination.toTime -> destination.admits kind now = true := by
  have wants : lateOpening.Wants .toOffnormal pastOpening := ⟨by decide, by decide⟩
  have covers : lateOpening.Covers pastOpening := ⟨by decide, by decide⟩
  have rejected : ¬lateOpening.admits .toOffnormal pastOpening = true := by decide
  constructor
  · exact fun claim => rejected ((claim _ _ _).mpr ⟨wants, covers⟩)
  · exact fun claim => rejected (claim _ _ _ wants (by decide) (by decide))

end Destination

end Annunciator
