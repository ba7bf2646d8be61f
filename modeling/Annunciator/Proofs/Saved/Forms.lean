import Annunciator.Json.Form
import Annunciator.Proofs.Saved.Lines
import Annunciator.Proofs.Saved.Times

/-!
# Saved forms read back

A type whose saved form is read as what was saved is a `FaithfulForm`. Scalars are, and so are
lists, options and everything else that is put together from them. An option needs more of what
it holds: nothing must be saved like a missing value. For the form to come through the line that
it is written on, it must not be too deep. The type of a `LevelledForm` tells how deep it is.
-/

namespace Annunciator

/-- A saved form that is read as what was saved. -/
class FaithfulForm (α : Type) [JsonForm α] : Prop where
  ofJson?_toJson (value : α) : ofJson? (toJson value) = some value

/-- A saved form that is never the one of a missing value. -/
class PresentForm (α : Type) [JsonForm α] : Prop where
  toJson_ne_null (value : α) : toJson value ≠ .null

/-- A saved form that is read from its line, and how many levels that takes. -/
class LevelledForm (α : Type) [JsonForm α] (levels : outParam Nat) : Prop where
  fits_toJson (value : α) : (toJson value).Fits levels

export FaithfulForm (ofJson?_toJson)

export PresentForm (toJson_ne_null)

attribute [simp] ofJson?_toJson toJson_ne_null

/-- A saved form fits wherever there are levels enough for its type. -/
@[simp] theorem fits_toJson {α : Type} [JsonForm α] {levels bound : Nat} [LevelledForm α levels]
    (enough : levels ≤ bound) (value : α) : (toJson value).Fits bound :=
  (LevelledForm.fits_toJson value).mono enough

/-- What is saved is read from the line that it was written on. -/
theorem ofWritten?_toJson {α : Type} [JsonForm α] [FaithfulForm α] {levels : Nat}
    [LevelledForm α levels] (enough : levels ≤ Json.deepestLevel) (value : α) :
    (Json.ofWritten? (toJson value).written).bind ofJson? = some value := by
  rw [Json.ofWritten?_written (fits_toJson enough value), Option.bind_some, ofJson?_toJson]

/-! ## Scalars -/

namespace Json

/-- A number below the bound is read as itself. -/
theorem below?_int {size number : Nat} (below : number < size) :
    below? size (.int number) = some number := by
  rw [below?, if_pos ⟨Int.natCast_nonneg number, Int.ofNat_lt.mpr below⟩, Int.toNat_natCast]

/-- An unsigned number of 64 bits fits without any levels. -/
theorem fits_natCast {number : Nat} (below : number < 2 ^ 64) : (int number).Fits 0 := by
  simp only [Fits, fitsInteger, Bool.and_eq_true, decide_eq_true_eq]
  omega

end Json

instance : FaithfulForm Bool where
  ofJson?_toJson _ := rfl

instance : LevelledForm Bool 0 where
  fits_toJson _ := trivial

instance : FaithfulForm String where
  ofJson?_toJson _ := rfl

instance : LevelledForm String 0 where
  fits_toJson _ := trivial

instance : FaithfulForm UInt8 where
  ofJson?_toJson value := by
    unfold instJsonFormUInt8
    simp [Json.below?_int value.toNat_lt_size]

instance : LevelledForm UInt8 0 where
  fits_toJson value := Json.fits_natCast (value.toNat_lt.trans (by decide))

instance : FaithfulForm UInt16 where
  ofJson?_toJson value := by
    unfold instJsonFormUInt16
    simp [Json.below?_int value.toNat_lt_size]

instance : LevelledForm UInt16 0 where
  fits_toJson value := Json.fits_natCast (value.toNat_lt.trans (by decide))

instance : FaithfulForm UInt32 where
  ofJson?_toJson value := by
    unfold instJsonFormUInt32
    simp [Json.below?_int value.toNat_lt_size]

instance : LevelledForm UInt32 0 where
  fits_toJson value := Json.fits_natCast (value.toNat_lt.trans (by decide))

instance : PresentForm UInt32 where
  toJson_ne_null _ := nofun

instance : FaithfulForm TimeOfDay where
  ofJson?_toJson time := by
    unfold instJsonFormTimeOfDay
    simp [TimeOfDay.ofWritten?_written]

instance : LevelledForm TimeOfDay 0 where
  fits_toJson _ := trivial

instance : FaithfulForm Timestamp where
  ofJson?_toJson moment := by
    unfold instJsonFormTimestamp
    simp [Timestamp.ofWritten?_written]

instance : LevelledForm Timestamp 0 where
  fits_toJson _ := trivial

instance : PresentForm Timestamp where
  toJson_ne_null _ := nofun

/-! ## Collections -/

section Collections

variable {α : Type} [JsonForm α]

section Faithful

variable [FaithfulForm α]

/-- A saved list is read item by item. -/
theorem mapM_toJson (items : List α) :
    (items.map toJson).mapM (ofJson? (α := α)) = some items := by
  induction items with
  | nil => rfl
  | cons item rest inductionHypothesis => simp [inductionHypothesis]

instance : FaithfulForm (List α) where
  ofJson?_toJson := mapM_toJson

instance [PresentForm α] : FaithfulForm (Option α) where
  ofJson?_toJson
    | none => rfl
    | some value => by
        have read : Json.orNull? (ofJson? (α := α)) (toJson value) =
            (ofJson? (toJson value)).map some := by
          cases saved : toJson value with
          | null => exact absurd saved (toJson_ne_null value)
          | bool | int | real | text | list | object => rfl
        rw [ofJson?_toJson] at read
        exact read

instance {count : Nat} : FaithfulForm (Vector α count) where
  ofJson?_toJson items := by
    have read : Json.listOf? ofJson? (.list (items.toList.map toJson)) = some items.toList :=
      mapM_toJson items.toList
    have whole : items.toList.toArray = items.toArray := items.toArray.toArray_toList
    unfold instJsonFormVector
    simp [read, whole]

end Faithful

section Levelled

variable {levels : Nat} [LevelledForm α levels]

/-- A saved list takes one level more than its items. -/
theorem fits_list_toJson (items : List α) : (Json.list (items.map toJson)).Fits (levels + 1) :=
  List.forall_mem_map.mpr fun item _ => fits_toJson le_rfl item

instance : LevelledForm (List α) (levels + 1) where
  fits_toJson := fits_list_toJson

instance : LevelledForm (Option α) levels where
  fits_toJson
    | none => by simp only [toJson, Json.Fits]
    | some value => fits_toJson le_rfl value

instance {count : Nat} : LevelledForm (Vector α count) (levels + 1) where
  fits_toJson items := fits_list_toJson items.toList

end Levelled

end Collections

/-! ## Members -/

namespace Json

@[simp] theorem ofJson?_text (value : String) : ofJson? (text value) = some value := rfl

@[simp] theorem fits_text (levels : Nat) (value : String) : (text value).Fits levels := by
  simp only [Fits]

theorem fits_list {levels : Nat} {items : List Json} :
    (list items).Fits (levels + 1) ↔ ∀ item ∈ items, Fits levels item := by
  rw [Fits]

theorem fits_object {levels : Nat} {members : List (String × Json)} :
    (object members).Fits (levels + 1) ↔
      (members.map Prod.fst).Nodup ∧ ∀ member ∈ members, Fits levels member.2 := by
  rw [Fits]

/-- A record is read from its members. -/
theorem bind_members {α : Type} (members : List (String × Json))
    (read : List (String × Json) -> Option α) : (object members).members? >>= read = read members := by
  rw [members?_object, Option.bind_eq_bind, Option.bind_some]

section Members

variable {α : Type} (name : String) (rest : List (String × Json)) (read : Json -> Option α)

@[simp] theorem requiredBy?_cons_self (value : Json) :
    requiredBy? ((name, value) :: rest) name read = read value := by
  rw [requiredBy?, memberOf?_cons_self, Option.getD_some]

@[simp] theorem defaultedBy?_cons_self (value : Json) (default : α) :
    defaultedBy? ((name, value) :: rest) name read default = read value := by
  rw [defaultedBy?, memberOf?_cons_self]

variable {name} {other : String}

@[simp] theorem requiredBy?_cons_ne (differ : other ≠ name) (value : Json) :
    requiredBy? ((other, value) :: rest) name read = requiredBy? rest name read := by
  rw [requiredBy?, memberOf?_cons_ne differ, requiredBy?]

@[simp] theorem defaultedBy?_cons_ne (differ : other ≠ name) (value : Json) (default : α) :
    defaultedBy? ((other, value) :: rest) name read default =
      defaultedBy? rest name read default := by
  rw [defaultedBy?, memberOf?_cons_ne differ, defaultedBy?]

attribute [simp] required? defaulted?

end Members

end Json

end Annunciator
