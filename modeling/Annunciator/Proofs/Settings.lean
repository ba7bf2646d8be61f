import Annunciator.Proofs.Activities
import Annunciator.Station.Commands
import Annunciator.Station.Recipients
import Mathlib.Data.List.Basic

/-!
# Settings and their names

A setting is saved under a name that is put together from the kind and the number of what it
is about, and from a topic. The parts can be read off the name again, since no kind holds the
mark that ends it and no number does either. So no setting is ever saved over another one, and
a store holds under every name what was saved last for the one setting of this name.
-/

namespace Annunciator

/-- Parts that end at the first mark of a list can be read off it. -/
theorem append_mark_inj {Letter : Type} {mark : Letter} {front other back rest : List Letter}
    (free : mark ∉ front) (otherFree : mark ∉ other)
    (same : front ++ mark :: back = other ++ mark :: rest) : front = other ∧ back = rest := by
  induction front generalizing other with
  | nil =>
      cases other with
      | nil => exact ⟨rfl, (List.cons.inj same).2⟩
      | cons first later =>
          have meets : mark = first := (List.cons.inj same).1
          simp [meets] at otherFree
  | cons letter front inductionHypothesis =>
      cases other with
      | nil =>
          have meets : letter = mark := (List.cons.inj same).1
          simp [meets] at free
      | cons first later =>
          obtain ⟨sameLetter, sameRest⟩ := List.cons.inj same
          rw [List.mem_cons, not_or] at free otherFree
          obtain ⟨fronts, backs⟩ := inductionHypothesis free.2 otherFree.2 sameRest
          exact ⟨by rw [sameLetter, fronts], backs⟩

/-- A number is determined by its decimal digits. -/
theorem toDigits_injective {left right : Nat}
    (same : Nat.toDigits 10 left = Nat.toDigits 10 right) : left = right := by
  have read := congrArg (fun digits => Nat.ofDigitChars 10 digits 0) same
  simpa only [Nat.ofDigitChars_ten_toDigits] using read

/-- A type of objects is determined by its name. -/
theorem ObjectType.name_injective {left right : ObjectType} (same : left.name = right.name) :
    left = right := by
  cases left <;> cases right <;> first | rfl | exact absurd same (by decide)

/-- What a station saves. -/
inductive Setting where
  | priorityArray (object : ObjectId)
  | relinquishDefault (object : ObjectId)
  | outOfService (object : ObjectId)
  | recipientList (number : UInt32)
  deriving DecidableEq

namespace Setting

/-- The name that a setting is saved under. -/
def key : Setting -> String
  | priorityArray object => Station.priorityArrayKey object
  | relinquishDefault object => Station.relinquishDefaultKey object
  | outOfService object => Station.outOfServiceKey object
  | recipientList number => Station.recipientListKey number

/-! ## The parts of a name -/

/-- The kind of things that a setting is about. -/
def kind : Setting -> String
  | priorityArray object | relinquishDefault object | outOfService object => object.objectType.name
  | recipientList _ => "notification-class"

/-- The number of the thing that a setting is about. -/
def number : Setting -> UInt32
  | priorityArray object | relinquishDefault object | outOfService object => object.number
  | recipientList number => number

/-- What a setting says about it. -/
def topic : Setting -> String
  | priorityArray _ => "priority-array"
  | relinquishDefault _ => "relinquish-default"
  | outOfService _ => "out-of-service"
  | recipientList _ => "recipient-list"

/-- A name is put together from its parts. -/
theorem key_eq (setting : Setting) :
    setting.key = setting.kind ++ ":" ++ toString setting.number.toNat ++ "/" ++ setting.topic := by
  have mark (topic : String) (front : String) : front ++ "/" ++ topic = front ++ ("/" ++ topic) :=
    String.append_assoc
  cases setting with
  | priorityArray | relinquishDefault | outOfService =>
      rw [mark]
      rfl
  | recipientList =>
      rw [mark]
      rfl

/-- A name goes by its letters: a colon ends the kind, and a slash ends the number. -/
theorem toList_key (setting : Setting) :
    setting.key.toList = setting.kind.toList ++ ':' ::
      (Nat.toDigits 10 setting.number.toNat ++ '/' :: setting.topic.toList) := by
  have digits : (toString setting.number.toNat).toList = Nat.toDigits 10 setting.number.toNat :=
    String.toList_ofList
  rw [key_eq]
  simp only [String.toList_append, digits, List.append_assoc]
  rfl

/-- The first colon of a name is the one that ends the kind. -/
theorem colon_not_mem_kind (setting : Setting) : ':' ∉ setting.kind.toList := by
  have ofType (objectType : ObjectType) : ':' ∉ objectType.name.toList := by
    cases objectType <;> decide
  have ofClass : ':' ∉ "notification-class".toList := by decide
  cases setting with
  | priorityArray object | relinquishDefault object | outOfService object => exact ofType _
  | recipientList number => exact ofClass

/-- The first slash behind the colon is the one that ends the number. -/
theorem slash_not_mem_digits (number : Nat) : '/' ∉ Nat.toDigits 10 number := by
  intro member
  have digit : Char.isDigit '/' = true :=
    Nat.isDigit_of_mem_toDigits (by decide) (by decide) member
  cases digit

/-- A setting is determined by its parts. -/
theorem eq_of_parts {left right : Setting} (sameKind : left.kind = right.kind)
    (sameNumber : left.number = right.number) (sameTopic : left.topic = right.topic) :
    left = right := by
  have sameObject {first second : ObjectId} (types : first.objectType.name = second.objectType.name)
      (numbers : first.number = second.number) : first = second := by
    cases first
    cases second
    cases ObjectType.name_injective types
    cases numbers
    rfl
  cases left with
  | priorityArray object =>
      cases right with
      | priorityArray other => rw [sameObject sameKind sameNumber]
      | _ => simp [topic] at sameTopic
  | relinquishDefault object =>
      cases right with
      | relinquishDefault other => rw [sameObject sameKind sameNumber]
      | _ => simp [topic] at sameTopic
  | outOfService object =>
      cases right with
      | outOfService other => rw [sameObject sameKind sameNumber]
      | _ => simp [topic] at sameTopic
  | recipientList number =>
      cases right with
      | recipientList other => rw [show number = other from sameNumber]
      | _ => simp [topic] at sameTopic

/-- A setting is determined by its name. -/
theorem key_injective {left right : Setting} (same : left.key = right.key) : left = right := by
  have letters := congrArg String.toList same
  rw [toList_key, toList_key] at letters
  obtain ⟨kinds, later⟩ :=
    append_mark_inj left.colon_not_mem_kind right.colon_not_mem_kind letters
  obtain ⟨digits, topics⟩ :=
    append_mark_inj (slash_not_mem_digits _) (slash_not_mem_digits _) later
  exact eq_of_parts (String.toList_inj.mp kinds) (UInt32.toNat_inj.mp (toDigits_injective digits))
    (String.toList_inj.mp topics)

end Setting

/-! ## The store -/

namespace SettingsStore

/-- The names in the store are those under which something is found. -/
theorem mem_keys_iff {store : SettingsStore} {key : String} :
    key ∈ store.keys ↔ (store.get? key).isSome = true := by
  rw [Option.isSome_iff_exists]
  constructor
  · intro member
    obtain ⟨entry, listed, rfl⟩ := List.mem_map.mp member
    exact ⟨entry.2, (SortedMap.get?_eq_some_iff _ _ _).mpr listed⟩
  · rintro ⟨value, known⟩
    exact List.mem_map_of_mem ((SortedMap.get?_eq_some_iff _ _ _).mp known)

section Persist

variable {Saved : Type} [JsonForm Saved] {store : SettingsStore} (intact : store.fault = none)
include intact

/-- An intact store takes whatever is saved. -/
theorem persist_state (key : String) (value : Saved) :
    (persist key value store).state =
      { store with values := store.values.insert key (toJson value) } := by
  simp [persist, save, intact]

/-- What is saved is found under its name, and everything else is where it was. -/
theorem get?_persist (key other : String) (value : Saved) :
    (persist key value store).state.get? other =
      if key = other then some (toJson value) else store.get? other := by
  rw [persist_state intact, get?, SortedMap.get?_insert]
  rfl

end Persist

/-- Some settings were saved with their current values, and nothing else was. -/
structure Stores (settings : List Setting) (current? : Setting -> Option Json)
    (before after : SettingsStore) : Prop where
  intact : after.fault = none
  saved : ∀ setting ∈ settings, ∃ value, current? setting = some value ∧
    after.get? setting.key = some value
  others : ∀ key, (∀ setting ∈ settings, setting.key ≠ key) -> after.get? key = before.get? key

/-- When nothing is saved, the store is as it was. -/
theorem Stores.nothing {store : SettingsStore} (intact : store.fault = none)
    (current? : Setting -> Option Json) : Stores [] current? store store :=
  ⟨intact, by simp, fun _ _ => rfl⟩

/-- One more setting is saved. Its name is its own, so it takes the place of no other one. -/
theorem Stores.concat {settings : List Setting} {current? : Setting -> Option Json}
    {before after : SettingsStore} (stores : Stores settings current? before after)
    {Saved : Type} [JsonForm Saved] {setting : Setting} {value : Saved}
    (held : current? setting = some (toJson value)) :
    Stores (settings ++ [setting]) current? before (persist setting.key value after).state := by
  refine ⟨?_, ?_, ?_⟩
  · rw [persist_state stores.intact]
    exact stores.intact
  · intro other member
    rw [get?_persist stores.intact]
    split
    · next same =>
        cases Setting.key_injective same
        exact ⟨_, held, rfl⟩
    · next differ =>
        rcases List.mem_append.mp member with earlier | last
        · exact stores.saved other earlier
        · exact absurd (congrArg Setting.key (List.mem_singleton.mp last).symm) differ
  · intro key unnamed
    rw [get?_persist stores.intact,
      if_neg (unnamed setting (List.mem_append_right _ (List.mem_singleton_self _)))]
    exact stores.others key fun other member => unnamed other (List.mem_append_left _ member)

end SettingsStore

end Annunciator
