import Annunciator.NotificationClass
import Annunciator.Point.Basic
import Annunciator.Proofs.Saved.Forms

/-!
# Saved state reads back

Points and notification classes have saved forms, and so has every part of them. Nothing is lost
in these: a part is read as it was saved, whatever it is and wherever it stands.
-/

namespace Annunciator

/-! ## Names -/

instance : FaithfulForm BinaryValue where
  ofJson?_toJson value := by cases value <;> rfl

instance : LevelledForm BinaryValue 0 where
  fits_toJson _ := trivial

instance : FaithfulForm ValueKind where
  ofJson?_toJson kind := by cases kind <;> rfl

instance : LevelledForm ValueKind 0 where
  fits_toJson _ := trivial

instance : FaithfulForm Reliability where
  ofJson?_toJson reliability := by cases reliability <;> rfl

instance : LevelledForm Reliability 0 where
  fits_toJson _ := trivial

instance : FaithfulForm ObjectType where
  ofJson?_toJson objectType := by cases objectType <;> rfl

instance : LevelledForm ObjectType 0 where
  fits_toJson _ := trivial

instance : FaithfulForm EventState where
  ofJson?_toJson state := by cases state <;> rfl

instance : LevelledForm EventState 0 where
  fits_toJson _ := trivial

instance : PresentForm EventState where
  toJson_ne_null _ := nofun

instance : FaithfulForm NotifyType where
  ofJson?_toJson type := by cases type <;> rfl

instance : LevelledForm NotifyType 0 where
  fits_toJson _ := trivial

/-! ## Values of points -/

instance : FaithfulForm ObjectId where
  ofJson?_toJson object := by
    unfold ObjectId.instJsonForm
    simp only [Json.bind_members]
    simp

instance : LevelledForm ObjectId 1 where
  fits_toJson object := by
    unfold ObjectId.instJsonForm
    simp [Json.fits_object]

/-- The name of a binary value is a bare one. -/
@[simp] theorem bareName_binaryValue (value : BinaryValue) :
    Json.bareName (toJson value) = toJson value := rfl

instance : FaithfulForm PointValue where
  ofJson?_toJson value := by
    unfold PointValue.instJsonForm
    simp only [PointValue.ofTree?]
    cases value with
    | binary value =>
        simp only [Json.bind_members]
        simp
    | multiState state =>
        simp only [Json.bind_members]
        simp

instance : LevelledForm PointValue 1 where
  fits_toJson value := by
    unfold PointValue.instJsonForm
    cases value <;> simp [Json.fits_object]

instance : PresentForm PointValue where
  toJson_ne_null value := by cases value <;> nofun

instance : FaithfulForm AlarmCondition where
  ofJson?_toJson condition := by
    unfold AlarmCondition.instJsonForm
    cases condition <;> simp

instance : LevelledForm AlarmCondition 2 where
  fits_toJson condition := by
    unfold AlarmCondition.instJsonForm
    cases condition <;> simp [Json.fits_object]

instance : FaithfulForm PriorityLadder where
  ofJson?_toJson ladder := by
    unfold PriorityLadder.instJsonForm
    simp only [Json.bind_members]
    simp

instance : LevelledForm PriorityLadder 3 where
  fits_toJson ladder := by
    unfold PriorityLadder.instJsonForm
    simp [Json.fits_object]

/-! ## Points -/

section PerTransition

variable {α : Type} [JsonForm α]

instance [FaithfulForm α] : FaithfulForm (PerTransition α) where
  ofJson?_toJson values := by
    unfold PerTransition.instJsonForm
    simp

instance {levels : Nat} [LevelledForm α levels] : LevelledForm (PerTransition α) (levels + 1) where
  fits_toJson values := by
    unfold PerTransition.instJsonForm
    simp [Json.fits_list]

end PerTransition

instance : FaithfulForm TransitionSet where
  ofJson?_toJson set := by
    unfold TransitionSet.instJsonForm
    simp only [Json.bind_members]
    simp

instance : LevelledForm TransitionSet 1 where
  fits_toJson set := by
    unfold TransitionSet.instJsonForm
    simp [Json.fits_object]

instance : FaithfulForm Reporting where
  ofJson?_toJson reporting := by
    unfold Reporting.instJsonForm
    simp only [Json.bind_members]
    simp

instance : LevelledForm Reporting 2 where
  fits_toJson reporting := by
    unfold Reporting.instJsonForm
    simp [Json.fits_object]

instance : FaithfulForm AckedTransition where
  ofJson?_toJson entry := by
    unfold AckedTransition.instJsonForm
    simp only [Json.bind_members]
    simp

instance : LevelledForm AckedTransition 1 where
  fits_toJson entry := by
    unfold AckedTransition.instJsonForm
    simp [Json.fits_object]

instance : FaithfulForm AckTracker where
  ofJson?_toJson tracker := by
    unfold AckTracker.instJsonForm
    simp only [Json.bind_members]
    simp

instance : LevelledForm AckTracker 3 where
  fits_toJson tracker := by
    unfold AckTracker.instJsonForm
    simp [Json.fits_object]

instance : FaithfulForm Monitor where
  ofJson?_toJson monitor := by
    unfold Monitor.instJsonForm
    simp only [Json.bind_members]
    simp

instance : LevelledForm Monitor 4 where
  fits_toJson monitor := by
    unfold Monitor.instJsonForm
    simp [Json.fits_object]

instance : FaithfulForm Point where
  ofJson?_toJson point := by
    unfold Point.instJsonForm
    simp only [Json.bind_members]
    simp

instance : LevelledForm Point 5 where
  fits_toJson point := by
    unfold Point.instJsonForm
    simp [Json.fits_object]

/-! ## Classes -/

instance : FaithfulForm DeviceInstance where
  ofJson?_toJson device := by
    unfold DeviceInstance.instJsonForm
    simp

instance : LevelledForm DeviceInstance 0 where
  fits_toJson device := fits_toJson le_rfl device.number

instance : FaithfulForm NetworkAddress where
  ofJson?_toJson address := by
    unfold NetworkAddress.instJsonForm
    simp only [Json.bind_members]
    simp

instance : LevelledForm NetworkAddress 2 where
  fits_toJson address := by
    unfold NetworkAddress.instJsonForm
    simp [Json.fits_object]

instance : FaithfulForm Recipient where
  ofJson?_toJson recipient := by
    unfold Recipient.instJsonForm
    cases recipient <;> simp

instance : LevelledForm Recipient 3 where
  fits_toJson recipient := by
    unfold Recipient.instJsonForm
    cases recipient <;> simp [Json.fits_object]

instance : FaithfulForm DaysOfWeek where
  ofJson?_toJson days := by
    unfold instJsonFormDaysOfWeek
    simp

instance : LevelledForm DaysOfWeek 0 where
  fits_toJson days := fits_toJson le_rfl days.bits

instance : FaithfulForm Destination where
  ofJson?_toJson destination := by
    unfold Destination.instJsonForm
    simp only [Json.bind_members]
    simp

instance : LevelledForm Destination 4 where
  fits_toJson destination := by
    unfold Destination.instJsonForm
    simp [Json.fits_object]

instance : PresentForm Destination where
  toJson_ne_null _ := nofun

instance : FaithfulForm NotificationClass where
  ofJson?_toJson group := by
    unfold NotificationClass.instJsonForm
    simp only [Json.bind_members]
    simp

instance : LevelledForm NotificationClass 6 where
  fits_toJson group := by
    unfold NotificationClass.instJsonForm
    simp [Json.fits_object]

/-! ## Saved state -/

/-- A point and a notification class are read as they were saved, from the tree that they are
saved as and from the line that it is written on. -/
theorem savedState_reads_back :
    (∀ point : Point, ofJson? (toJson point) = some point ∧
      (Json.ofWritten? (toJson point).written).bind ofJson? = some point) ∧
    (∀ group : NotificationClass, ofJson? (toJson group) = some group ∧
      (Json.ofWritten? (toJson group).written).bind ofJson? = some group) :=
  ⟨fun point => ⟨ofJson?_toJson point, ofWritten?_toJson (by decide) point⟩,
    fun group => ⟨ofJson?_toJson group, ofWritten?_toJson (by decide) group⟩⟩

end Annunciator
